import GpuDebug.Wire.Bytes

/-!
# Reading code objects

Code objects hold numbers of either byte order, numbers of variable length and offsets of two
widths.

* `Fault`: why a code object cannot be read;
* `Scan`: a reader of the bytes that are left;
* `Scan.number`, `Scan.unsigned`, `Scan.signed`: numbers of fixed and of variable length;
* `Scan.initialLength`, `Scan.offset`: lengths and offsets, in 32-bit or 64-bit form.
-/

namespace GpuDebug.Dwarf

/-- Why a code object cannot be read. -/
inductive Fault
  | truncated
  | notAnObject
  | badHeader
  | badSectionTable
  | badSymbols
  | badNumber
  | badLength
  | badVersion (version : Nat)
  | badUnit
  | badAbbreviation
  | badForm (form : Nat)
  | badAddressSize (size : Nat)
  | badLineHeader
  | noString
  deriving DecidableEq, Repr, Inhabited

namespace Fault

def message : Fault → String
  | truncated => "unexpected end of input"
  | notAnObject => "unknown file magic"
  | badHeader => "unsupported object header"
  | badSectionTable => "invalid section table"
  | badSymbols => "invalid symbol table"
  | badNumber => "number of variable length is too long"
  | badLength => "reserved unit length"
  | badVersion version => s!"unknown version {version}"
  | badUnit => "invalid unit"
  | badAbbreviation => "invalid abbreviation"
  | badForm form => s!"unknown form {form}"
  | badAddressSize size => s!"unsupported address size {size}"
  | badLineHeader => "invalid line program header"
  | noString => "expected a string"

end Fault

/-- The order of the bytes of a number. -/
inductive ByteOrder
  | little
  | big
  deriving DecidableEq, Repr, Inhabited

/-- The number with the given bytes. -/
def ByteOrder.number : ByteOrder → Bytes → Nat
  | little, bytes => Wire.ofLittleEndian bytes
  | big, bytes => Wire.ofLittleEndian bytes.reverse

/-- A reader of the bytes that are left. -/
abbrev Scan (α : Type) := StateT Bytes (Except Fault) α

namespace Scan

/-- The next `count` bytes. -/
def take (count : Nat) : Scan Bytes := fun bytes =>
  let front := bytes.take count
  if front.length = count then .ok (front, bytes.drop count) else .error .truncated

def skip (count : Nat) : Scan Unit := do
  let _ ← take count

/-- Passes over `count` entries of `width` bytes. Their size wraps around as a number of eight
bytes. -/
def skipEntries (count width : Nat) : Scan Unit :=
  skip (count * width % 0x10000000000000000)

/-- The next byte. -/
def byte : Scan UInt8 := fun bytes =>
  match bytes with
  | b :: rest => .ok (b, rest)
  | [] => .error .truncated

def u8 : Scan Nat :=
  return (← byte).toNat

/-- A number of `width` bytes. -/
def number (order : ByteOrder) (width : Nat) : Scan Nat :=
  return order.number (← take width)

/-- The bytes up to the next zero, which is passed over. -/
def zeroTerminated : Scan Bytes := fun bytes =>
  match bytes.dropWhile (· != 0) with
  | _ :: rest => .ok (bytes.takeWhile (· != 0), rest)
  | [] => .error .truncated

/-- An unsigned number in groups of seven bits, the first of which has weight `2 ^ shift`. -/
def unsignedFrom (shift : Nat) : Bytes → Except Fault (Nat × Bytes)
  | [] => .error .truncated
  | b :: rest =>
    if shift = 63 && 1 < b then .error .badNumber
    else if b < 0x80 then .ok (b.toNat <<< shift, rest)
    else do
      let (high, rest) ← unsignedFrom (shift + 7) rest
      return ((b.toNat - 128) <<< shift + high, rest)

/-- An unsigned number of variable length, below 2^64. -/
def unsigned : Scan Nat := unsignedFrom 0

/-- A signed number in groups of seven bits; the last group carries the sign. -/
def signedFrom (shift : Nat) : Bytes → Except Fault (Int × Bytes)
  | [] => .error .truncated
  | b :: rest =>
    if shift = 63 && b != 0 && b != 0x7F then .error .badNumber
    else if b < 0x80 then
      .ok ((if b < 0x40 then (b.toNat : Int) else b.toNat - 128) <<< shift, rest)
    else do
      let (high, rest) ← signedFrom (shift + 7) rest
      return (((b.toNat - 128) <<< shift : Nat) + high, rest)

/-- A signed number of variable length. -/
def signed : Scan Int := signedFrom 0

/-- An unsigned number of variable length in at most three bytes, below 2^16. -/
def unsigned16 : Scan Nat := fun bytes =>
  match unsignedFrom 0 bytes with
  | .error e => .error e
  | .ok (n, rest) =>
    if n < 0x10000 && bytes.length - rest.length ≤ 3 then .ok (n, rest) else .error .badNumber

/-- An address of a supported size. -/
def address (order : ByteOrder) (size : Nat) : Scan Nat :=
  if size = 1 || size = 2 || size = 4 || size = 8 then number order size
  else throw (.badAddressSize size)

/-- An offset into a section, of eight bytes in the wide form and of four otherwise. -/
def offset (order : ByteOrder) (wide : Bool) : Scan Nat :=
  number order (if wide then 8 else 4)

/-- The length of what follows, and whether its offsets are wide. -/
def initialLength (order : ByteOrder) : Scan (Nat × Bool) := do
  let n ← number order 4
  if n < 0xFFFFFFF0 then return (n, false)
  else if n = 0xFFFFFFFF then return (← number order 8, true)
  else throw .badLength

/-- Reads from some other bytes, and leaves the own ones alone. -/
def within {α : Type} (bytes : Bytes) (reader : Scan α) : Scan α := do
  let (a, _) ← (reader.run bytes : Except Fault (α × Bytes))
  return a

end Scan

end GpuDebug.Dwarf
