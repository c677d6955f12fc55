import GpuDebug.Text.Utf8

/-!
# Bytes of a record

Records are sequences of little-endian numbers, fixed-width texts and gaps.

* `Wire.littleEndian`, `Wire.ofLittleEndian`: a number and its bytes, least significant first;
* `Wire.u32`, `Wire.i32`, `Wire.u64`, `Wire.i64`, `Wire.gap`, `Wire.text`: the bytes of one field;
* `Wire.padTo`: a record filled up with zeros.

A text field of width `w` holds the longest initial part of the text that fits `w - 1` bytes, and
zeros after it.
-/

namespace GpuDebug

/-- A sequence of bytes. -/
abbrev Bytes := List UInt8

namespace Wire

/-- The `width` low bytes of `n`, least significant first. -/
def littleEndian : (width : Nat) → Nat → Bytes
  | 0, _ => []
  | width + 1, n => UInt8.ofNat n :: littleEndian width (n / 256)

/-- The number with the given bytes, least significant first. -/
def ofLittleEndian : Bytes → Nat
  | [] => 0
  | b :: rest => b.toNat + 256 * ofLittleEndian rest

/-- `count` zero bytes. -/
def gap (count : Nat) : Bytes :=
  List.replicate count 0

def u32 (value : UInt32) : Bytes :=
  littleEndian 4 value.toNat

def u64 (value : UInt64) : Bytes :=
  littleEndian 8 value.toNat

/-- Two's complement, as are all signed fields. -/
def i32 (value : Int32) : Bytes :=
  u32 value.toUInt32

def i64 (value : Int64) : Bytes :=
  u64 value.toUInt64

/-- A flag is a word: one or zero. -/
def flag (value : Bool) : Bytes :=
  u32 (if value then 1 else 0)

/-- The part of a text that a field of `width` bytes holds. -/
def held (value : String) (width : Nat) : List Char :=
  Utf8.fitting value.toList (width - 1)

/-- A text in a field of `width` bytes, with at least one zero behind it unless `width` is zero. -/
def text (value : String) (width : Nat) : Bytes :=
  let front := Utf8.encode (held value width)
  front ++ gap (width - front.length)

/-- A record filled up with zeros to `size` bytes; a longer one is left alone. -/
def padTo (size : Nat) (record : Bytes) : Bytes :=
  record ++ gap (size - record.length)

@[simp] theorem length_littleEndian (width n : Nat) : (littleEndian width n).length = width := by
  induction width generalizing n with
  | zero => rfl
  | succ width ih => simp [littleEndian, ih]

theorem ofLittleEndian_littleEndian (width n : Nat) :
    ofLittleEndian (littleEndian width n) = n % Nat.pow 256 width := by
  induction width generalizing n with
  | zero => simp [littleEndian, ofLittleEndian, Nat.mod_one]
  | succ width ih =>
    have h : Nat.pow 256 (width + 1) = 256 * Nat.pow 256 width := Nat.pow_succ'
    simp only [littleEndian, ofLittleEndian, ih, h, Nat.mod_mul]
    simp

@[simp] theorem length_gap (count : Nat) : (gap count).length = count := by simp [gap]

@[simp] theorem length_u32 (value : UInt32) : (u32 value).length = 4 := by simp [u32]

@[simp] theorem length_u64 (value : UInt64) : (u64 value).length = 8 := by simp [u64]

@[simp] theorem length_i32 (value : Int32) : (i32 value).length = 4 := by simp [i32]

@[simp] theorem length_i64 (value : Int64) : (i64 value).length = 8 := by simp [i64]

@[simp] theorem length_flag (value : Bool) : (flag value).length = 4 := by simp [flag]

/-- A text field always has its full width. -/
@[simp] theorem length_text (value : String) (width : Nat) : (text value width).length = width := by
  have := Utf8.length_encode_fitting value.toList (width - 1)
  simp [text, held]
  omega

end Wire

end GpuDebug
