import GpuDebug.Error
import GpuDebug.Wire.Bytes

/-!
# Reading records

A `Cursor` is a place in a sequence of bytes. A `Decoder` moves the cursor over what it reads;
a field that is not there in full is an error, and the cursor then stays where it was.

* `Cursor.take`: the next bytes, all or nothing;
* `Cursor.u32`, `Cursor.i32`, `Cursor.u64`, `Cursor.i64`, `Cursor.flag`, `Cursor.text`,
  `Cursor.skip`: one field;
* `Cursor.times`: a table of records of one form;
* `Decoder.decode`: the value read from the start of a sequence of bytes.
-/

namespace GpuDebug.Wire

/-- A place in a sequence of bytes: how many were read, and those still to come. -/
structure Cursor where
  position : Nat
  rest : Bytes
  deriving DecidableEq, Repr

namespace Cursor

/-- The number of bytes still to come. -/
def remaining (c : Cursor) : Nat :=
  c.rest.length

end Cursor

/-- A reader of records. After a failure the cursor is where the failing field starts. -/
abbrev Decoder (α : Type) := EStateM Error Cursor α

namespace Cursor

/-- The error for `count` bytes that are not there. -/
def truncated (count : Nat) (c : Cursor) : Error :=
  .invalidPacket
    s!"record truncated: need {count} bytes at offset {c.position}, have {c.position + c.remaining}"

/-- The next `count` bytes. -/
def take (count : Nat) : Decoder Bytes := fun c =>
  let front := c.rest.take count
  if front.length = count then .ok front ⟨c.position + count, c.rest.drop count⟩
  else .error (c.truncated count) c

def u32 : Decoder UInt32 := do
  return UInt32.ofNat (ofLittleEndian (← take 4))

def u64 : Decoder UInt64 := do
  return UInt64.ofNat (ofLittleEndian (← take 8))

def i32 : Decoder Int32 := do
  return (← u32).toInt32

def i64 : Decoder Int64 := do
  return (← u64).toInt64

/-- Every word but zero means true. -/
def flag : Decoder Bool := do
  return (← u32) != 0

/-- A field of `width` bytes, read up to its first zero. -/
def text (width : Nat) : Decoder String := do
  return String.ofList (Utf8.decode ((← take width).takeWhile (· != 0)))

/-- Passes over `count` bytes of any content. -/
def skip (count : Nat) : Decoder Unit := do
  let _ ← take count

/-- `count` records of one form. -/
def times {α : Type} (record : Decoder α) : (count : Nat) → Decoder (List α)
  | 0 => pure []
  | count + 1 => do
    let first ← record
    let others ← times record count
    return first :: others

end Cursor

/-- The value at the start of some bytes. -/
def Decoder.decode {α : Type} (d : Decoder α) (bytes : Bytes) : Except Error α :=
  match d.run ⟨0, bytes⟩ with
  | .ok a _ => .ok a
  | .error e _ => .error e

end GpuDebug.Wire
