import GpuDebug.Wire.Cursor

/-!
# Momentary breakpoints

A source step plants one-shot breakpoints in shared memory.

* `Momentary`: one of them, a record of 16 bytes;
* `Momentary.encodeTable`, `Momentary.decodeTable`: the momentary region.
-/

namespace GpuDebug

/-- A breakpoint that the agent removes as soon as a wave reaches it. -/
structure Momentary where
  /-- An address inside the code object. -/
  pc : UInt64
  line : UInt64
  deriving DecidableEq, Repr, Inhabited

namespace Momentary

/-- The size of a momentary record. -/
def size : Nat := 16

def encode (m : Momentary) : Bytes :=
  Wire.u64 m.pc ++ Wire.u64 m.line

open Wire in
def decode : Decoder Momentary := do
  let pc ← Cursor.u64
  let line ← Cursor.u64
  return ⟨pc, line⟩

def encodeTable (entries : List Momentary) : Bytes :=
  entries.flatMap encode

/-- The first `count` entries of a momentary region. -/
def decodeTable (bytes : Bytes) (count : Nat) : Except Error (List Momentary) :=
  Wire.Decoder.decode (Wire.Cursor.times decode count) bytes

@[simp] theorem length_encode (m : Momentary) : m.encode.length = size := by
  simp [encode, size]

end Momentary

end GpuDebug
