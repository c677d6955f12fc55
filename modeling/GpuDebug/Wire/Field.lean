import GpuDebug.Wire.Cursor

/-!
# Fields

A record is written and read field by field. A `Field` is a value with its width, a `Shape` is
what a reader has to know of it.

* `Field.bytes`, `Field.shape`: the bytes and the shape of a field;
* `Shape.read`: the field of a given shape at the cursor.
-/

namespace GpuDebug.Wire

/-- One field of a record. -/
inductive Field
  | u32 (value : UInt32)
  | i32 (value : Int32)
  | u64 (value : UInt64)
  | i64 (value : Int64)
  | text (value : String) (width : Nat)
  | gap (count : Nat)
  deriving DecidableEq, Repr

/-- What a reader has to know of a field. -/
inductive Shape
  | u32
  | i32
  | u64
  | i64
  | text (width : Nat)
  | gap (count : Nat)
  deriving DecidableEq, Repr

namespace Field

def bytes : Field → Bytes
  | u32 value => Wire.u32 value
  | i32 value => Wire.i32 value
  | u64 value => Wire.u64 value
  | i64 value => Wire.i64 value
  | text value width => Wire.text value width
  | gap count => Wire.gap count

def shape : Field → Shape
  | u32 _ => .u32
  | i32 _ => .i32
  | u64 _ => .u64
  | i64 _ => .i64
  | text _ width => .text width
  | gap count => .gap count

end Field

/-- The field of a given shape at the cursor. The content of a gap is lost. -/
def Shape.read : Shape → Decoder Field
  | u32 => return .u32 (← Cursor.u32)
  | i32 => return .i32 (← Cursor.i32)
  | u64 => return .u64 (← Cursor.u64)
  | i64 => return .i64 (← Cursor.i64)
  | text width => return .text (← Cursor.text width) width
  | gap count => do
    Cursor.skip count
    return .gap count

end GpuDebug.Wire
