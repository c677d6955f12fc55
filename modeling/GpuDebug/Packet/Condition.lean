import GpuDebug.Dim

/-!
# Conditions of a breakpoint, as the agent sees them

* `ConditionCode`: how a condition is tested;
* `PacketCondition`: a condition inside a command packet, 28 bytes.
-/

namespace GpuDebug

/-- How the agent tests a condition. -/
inductive ConditionCode
  | unknown
  /-- Always holds. -/
  | any
  /-- Holds of one work-group and work-item. -/
  | equal
  deriving DecidableEq, Repr, Inhabited

namespace ConditionCode

def code : ConditionCode → UInt32
  | unknown => 0
  | any => 1
  | equal => 2

/-- Codes without a meaning read as `unknown`. -/
def ofCode (code : UInt32) : ConditionCode :=
  if code = 1 then any else if code = 2 then equal else unknown

def name : ConditionCode → String
  | unknown => "Unknown"
  | any => "Any"
  | equal => "Equal"

@[simp] theorem ofCode_code (c : ConditionCode) : ofCode c.code = c := by
  cases c <;> rfl

end ConditionCode

/-- A condition inside a command packet. -/
structure PacketCondition where
  code : ConditionCode
  workGroup : Dim
  workItem : Dim
  deriving DecidableEq, Repr

namespace PacketCondition

/-- The condition of packets that carry none. -/
def none : PacketCondition := ⟨.unknown, Dim.zero, Dim.zero⟩

instance : Inhabited PacketCondition := ⟨none⟩

def encode (c : PacketCondition) : Bytes :=
  Wire.u32 c.code.code ++ c.workGroup.encode ++ c.workItem.encode

open Wire in
def decode : Decoder PacketCondition := do
  let code ← Cursor.u32
  let workGroup ← Dim.decode
  let workItem ← Dim.decode
  return ⟨ConditionCode.ofCode code, workGroup, workItem⟩

end PacketCondition

end GpuDebug
