import GpuDebug.Dwarf.Scan

/-!
# Attribute values

The value of an attribute is written in one of many forms.

* `Encoding`: what the reading of a form depends on;
* `Value`: a value, as far as it can name a file, a line program or an address;
* `Value.read`: a value of a given form;
* `Strings`: the sections that hold texts, and `Strings.get`, the text that a value names.
-/

namespace GpuDebug.Dwarf

/-- What the reading of a form depends on. -/
structure Encoding where
  order : ByteOrder
  /-- Whether offsets have eight bytes. -/
  wide : Bool
  version : Nat
  addressSize : Nat
  deriving DecidableEq, Repr, Inhabited

/-- The value of an attribute. -/
inductive Value
  | address (n : Nat)
  | addressIndex (n : Nat)
  | constant (n : Nat)
  /-- A number of four bytes. -/
  | word (n : Nat)
  /-- A number of eight bytes. -/
  | wideWord (n : Nat)
  | signed (n : Int)
  /-- An offset into another section. -/
  | offset (n : Nat)
  | text (bytes : Bytes)
  /-- A text in the section of texts. -/
  | textAt (n : Nat)
  /-- A text in the section of texts of line programs. -/
  | lineTextAt (n : Nat)
  /-- A text found through the section of offsets. -/
  | textIndex (n : Nat)
  /-- A value that is passed over. -/
  | other
  deriving DecidableEq, Repr, Inhabited

namespace Value

open Scan

/-- Passes over a block whose length is read first. -/
def block (length : Scan Nat) : Scan Value := do
  skip (← length)
  return other

/-- Values of the forms that entries of units and of line programs share. -/
def readShared (e : Encoding) (form : Nat) : Scan Value :=
  match form with
  | 0x03 => block (number e.order 2)
  | 0x04 => block (number e.order 4)
  | 0x05 => return constant (← number e.order 2)
  | 0x06 => return word (← number e.order 4)
  | 0x07 => return wideWord (← number e.order 8)
  | 0x08 => return text (← zeroTerminated)
  | 0x09 => block unsigned
  | 0x0A => block u8
  | 0x0B => return constant (← u8)
  | 0x0C => do
    skip 1
    return other
  | 0x0D => return signed (← Scan.signed)
  | 0x0E => return textAt (← Scan.offset e.order e.wide)
  | 0x0F => return constant (← unsigned)
  | 0x17 => return offset (← Scan.offset e.order e.wide)
  | 0x1A | 0x1F02 => return textIndex (← unsigned)
  | 0x1D | 0x1F21 => do
    let _ ← Scan.offset e.order e.wide
    return other
  | 0x1E => do
    skip 16
    return other
  | 0x1F => return lineTextAt (← Scan.offset e.order e.wide)
  | 0x25 => return textIndex (← u8)
  | 0x26 => return textIndex (← number e.order 2)
  | 0x27 => return textIndex (← number e.order 3)
  | 0x28 => return textIndex (← number e.order 4)
  | _ => throw (.badForm form)

/-- The reader of a value that is passed over. -/
def ignored {α : Type} (reader : Scan α) : Scan Value := do
  let _ ← reader
  return other

/-- Values of entries of units. `constant?` is the constant that the abbreviation carries. -/
def readForm (e : Encoding) (constant? : Option Int) (form : Nat) : Scan Value :=
  match form with
  | 0x01 => return address (← Scan.address e.order e.addressSize)
  | 0x10 =>
    if e.version = 2 then ignored (Scan.address e.order e.addressSize)
    else ignored (Scan.offset e.order e.wide)
  | 0x11 => ignored u8
  | 0x12 => ignored (number e.order 2)
  | 0x13 => ignored (number e.order 4)
  | 0x14 => ignored (number e.order 8)
  | 0x15 => ignored unsigned
  | 0x18 => block unsigned
  | 0x19 => return other
  | 0x1B | 0x1F01 => return addressIndex (← unsigned)
  | 0x1C => ignored (number e.order 4)
  | 0x20 => ignored (number e.order 8)
  | 0x21 =>
    match constant? with
    | some n => return signed n
    | none => throw (.badForm form)
  | 0x22 | 0x23 => ignored unsigned
  | 0x24 => ignored (number e.order 8)
  | 0x29 => return addressIndex (← u8)
  | 0x2A => return addressIndex (← number e.order 2)
  | 0x2B => return addressIndex (← number e.order 3)
  | 0x2C => return addressIndex (← number e.order 4)
  | 0x1F20 => ignored (Scan.offset e.order e.wide)
  | _ => readShared e form

/-- Values of entries of units whose form may be written before the value, up to `depth` times. -/
def readIndirect (e : Encoding) (constant? : Option Int) : (depth : Nat) → Nat → Scan Value
  | 0, form => readForm e constant? form
  | depth + 1, form =>
    if form = 0x16 then do
      readIndirect e none depth (← unsigned16)
    else readForm e constant? form

/-- A value of an entry of a unit. -/
def read (e : Encoding) (constant? : Option Int) (form : Nat) : Scan Value := do
  readIndirect e constant? (← get).length form

/-- The number that a value holds, if it is one and not negative. -/
def natural? : Value → Option Nat
  | constant n | word n | wideWord n => some n
  | signed n => if 0 ≤ n then some n.toNat else none
  | _ => none

end Value

/-- The sections that hold texts, and where the offsets of a unit's texts start. -/
structure Strings where
  order : ByteOrder
  /-- Whether offsets have eight bytes. -/
  wide : Bool
  texts : Bytes
  lineTexts : Bytes
  offsets : Bytes
  offsetsBase : Nat
  deriving Repr, Inhabited

namespace Strings

/-- The text at an offset of a section. -/
def textAt (section_ : Bytes) (offset : Nat) : Except Fault Bytes :=
  (do Scan.skip offset; Scan.zeroTerminated : Scan Bytes).run' section_

/-- The text that a value names. -/
def get (s : Strings) : Value → Except Fault Bytes
  | .text bytes => .ok bytes
  | .textAt n => textAt s.texts n
  | .lineTextAt n => textAt s.lineTexts n
  | .textIndex n => do
    let place ← (do
      Scan.skip s.offsetsBase
      Scan.skipEntries n (if s.wide then 8 else 4)
      Scan.offset s.order s.wide : Scan Nat).run' s.offsets
    textAt s.texts place
  | _ => .error .noString

end Strings

end GpuDebug.Dwarf
