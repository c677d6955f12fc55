import GpuDebug.Dim.Argument
import GpuDebug.Packet.Condition

/-!
# Conditions

A breakpoint may be limited to one work-item of one work-group, written
`if wg:x,y,z wi:x,y,z` with the two coordinates in either order.

* `Condition`: a condition as the user gave it;
* `Condition.parse`: the condition that a text gives;
* `Condition.admits`: the work-groups whose waves satisfy the condition;
* `Condition.toPacket`: the condition as it is sent to the agent.
-/

namespace GpuDebug

/-- A condition as the user gave it. -/
structure Condition where
  text : Option String
  code : ConditionCode
  workGroup : Dim
  workItem : Dim
  deriving DecidableEq, Repr

namespace Condition

/-- No condition. -/
def any : Condition := ⟨none, .any, Dim.unknown, Dim.unknown⟩

instance : Inhabited Condition := ⟨any⟩

/-- Holds of one work-item of one work-group. -/
def equal (workGroup workItem : Dim) : Condition :=
  ⟨some s!"if wg:{workGroup} wi:{workItem}", .equal, workGroup, workItem⟩

/-- The condition of a request that was cleared; no work-group satisfies it. -/
def cleared : Condition := ⟨none, .unknown, Dim.unknown, Dim.unknown⟩

/-- The error for a text that does not start with the keyword. -/
def noKeyword (raw : String) : Error :=
  .conditionText s!"expected 'if', got \"{raw}\""

/-- The error for a text without both coordinates. -/
def noCoordinates (body : List Char) : Error :=
  let shown := String.ofList (Text.trim body)
  .conditionText s!"expected \"wg:x,y,z wi:x,y,z\", got \"{shown}\""

/-- The condition that a text gives. No text, or one of blanks, gives no condition. -/
def parse (text : Option String) : Except Error Condition :=
  match text with
  | none => .ok any
  | some raw =>
    if raw.toList.all Text.isBlank then .ok any
    else
      match Text.after? "if ".toList (Text.trimStart raw.toList) with
      | none => .error (noKeyword raw)
      | some body =>
        match Dim.argument? (String.ofList body) "wg", Dim.argument? (String.ofList body) "wi" with
        | some workGroup, some workItem => .ok ⟨some raw, .equal, workGroup, workItem⟩
        | _, _ => .error (noCoordinates body)

/-- Whether a wave in `workGroup` satisfies the condition. -/
def admits (c : Condition) (workGroup : Dim) : Bool :=
  match c.code with
  | .any => true
  | .equal => c.workGroup == workGroup
  | .unknown => false

/-- The condition as it is sent to the agent; only an equality carries coordinates. -/
def toPacket (c : Condition) : PacketCondition :=
  match c.code with
  | .equal => ⟨.equal, c.workGroup, c.workItem⟩
  | code => { PacketCondition.none with code }

end Condition

end GpuDebug
