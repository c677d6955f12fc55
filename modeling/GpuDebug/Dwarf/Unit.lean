import GpuDebug.Dwarf.Abbreviation
import GpuDebug.Dwarf.LineProgram

/-!
# Units

The debug information of a code object is a sequence of units. The first entry of a unit names its
source file, its directory and its line program.

* `Sections`: the sections that are read;
* `UnitHeader.read`: the start of a unit;
* `RootEntry.read`: the attributes of the first entry that matter for line tables;
* `Sections.rows`: the rows of the line programs of all units.
-/

namespace GpuDebug.Dwarf

open Scan

/-- The sections that are read. One that is missing is empty. -/
structure Sections where
  order : ByteOrder
  info : Bytes
  abbreviations : Bytes
  lines : Bytes
  texts : Bytes
  lineTexts : Bytes
  textOffsets : Bytes
  addresses : Bytes
  deriving Repr, Inhabited

/-- The start of a unit, and its entries. -/
structure UnitHeader where
  encoding : Encoding
  /-- Where the table of abbreviations starts. -/
  abbreviations : Nat
  entries : Bytes
  deriving Repr, Inhabited

namespace UnitHeader

/-- Passes over what stands behind the common part of a header: types have a signature and an
offset, and units that are split off an identifier. -/
def skipDetails (order : ByteOrder) (wide : Bool) (type : Nat) : Scan Unit :=
  match type with
  | 1 | 3 => return ()
  | 2 | 6 => do
    skip 8
    let _ ← offset order wide
  | 4 | 5 => skip 8
  | _ => throw .badUnit

/-- Reads one unit. -/
def read (order : ByteOrder) : Scan UnitHeader := do
  let (length, wide) ← initialLength order
  within (← take length) do
    let version ← number order 2
    if 2 ≤ version && version ≤ 4 then
      let abbreviations ← offset order wide
      let addressSize ← u8
      return ⟨⟨order, wide, version, addressSize⟩, abbreviations, ← get⟩
    else if version = 5 then
      let type ← u8
      let addressSize ← u8
      let abbreviations ← offset order wide
      skipDetails order wide type
      return ⟨⟨order, wide, version, addressSize⟩, abbreviations, ← get⟩
    else throw (.badVersion version)

end UnitHeader

/-- What the first entry of a unit says. -/
structure RootEntry where
  name : Option Value
  directory : Option Value
  lowAddress : Option Value
  /-- Where the line program starts. -/
  lineProgram : Option Nat
  textOffsetsBase : Nat
  addressesBase : Nat
  deriving Repr, Inhabited

namespace RootEntry

def empty : RootEntry := ⟨none, none, none, none, 0, 0⟩

/-- The offset that an attribute gives. -/
def offset? (value : Value) : Option Nat :=
  match value with
  | .offset n => some n
  | _ => none

/-- The offset of a line program, which may also be written as a plain number of the width of an
offset. -/
def lineProgram? (e : Encoding) (value : Value) : Option Nat :=
  match value with
  | .offset n => some n
  | .word n => if e.wide then none else some n
  | .wideWord n => if e.wide then some n else none
  | _ => none

/-- Adds an attribute. Of several attributes of one name the last one that can be used counts. -/
def add (e : Encoding) (shape : AttributeShape) (value : Value) (r : RootEntry) : RootEntry :=
  match shape.name with
  | 0x03 => { r with name := some value }
  | 0x10 => { r with lineProgram := lineProgram? e value <|> r.lineProgram }
  | 0x11 => { r with lowAddress := some value }
  | 0x1B => { r with directory := some value }
  | 0x72 => { r with textOffsetsBase := (offset? value).getD r.textOffsetsBase }
  | 0x73 | 0x2133 => { r with addressesBase := (offset? value).getD r.addressesBase }
  | _ => r

/-- Reads the attributes of an entry. -/
def readAttributes (e : Encoding) : List AttributeShape → RootEntry → Scan RootEntry
  | [], r => return r
  | shape :: shapes, r => do
    let value ← Value.read e shape.constant? shape.form
    readAttributes e shapes (r.add e shape value)

/-- The code of the first entry; empty entries before it are passed over. -/
def firstCode : (fuel : Nat) → Scan Nat
  | 0 => throw .badUnit
  | fuel + 1 => do
    let code ← unsigned
    if code = 0 then firstCode fuel else return code

/-- Reads the first entry of a unit. -/
def read (e : Encoding) (table : List Abbreviation) : Scan RootEntry := do
  let code ← firstCode ((← get).length + 1)
  match table.find? (·.code = code) with
  | some abbreviation => readAttributes e abbreviation.attributes empty
  | none => throw .badAbbreviation

end RootEntry

namespace Sections

/-- Reads a section from an offset on. -/
def readAt {α : Type} (bytes : Bytes) (start : Nat) (reader : Scan α) : Except Fault α :=
  (do skip start; reader : Scan α).run' bytes

/-- The texts of a unit. -/
def strings (s : Sections) (e : Encoding) (base : Nat) : Strings where
  order := s.order
  wide := e.wide
  texts := s.texts
  lineTexts := s.lineTexts
  offsets := s.textOffsets
  offsetsBase := base

/-- Checks that the lowest address of a unit can be read. -/
def checkLowAddress (s : Sections) (e : Encoding) (r : RootEntry) : Except Fault Unit :=
  match r.lowAddress with
  | some (.addressIndex n) => do
    let _ ← readAt s.addresses r.addressesBase do
      skipEntries n e.addressSize
      Scan.address e.order e.addressSize
  | _ => .ok ()

/-- The rows of the line program of a unit, if it has one. -/
def unitRows (s : Sections) (u : UnitHeader) : Except Fault (List LineRow) := do
  let table ← readAt s.abbreviations u.abbreviations Abbreviation.readTable
  let root ← (RootEntry.read u.encoding table).run' u.entries
  let strings := s.strings u.encoding root.textOffsetsBase
  let named (value : Option Value) := value.bind fun v => (strings.get v).toOption
  let header ← root.lineProgram.mapM fun start =>
    readAt s.lines start
      (LineHeader.read s.order u.encoding.addressSize (named root.directory) (named root.name))
  s.checkLowAddress u.encoding root
  match header with
  | some h => h.rows strings
  | none => return []

/-- The rows of the units that are left; each unit has at least four bytes. -/
def rowsFor (s : Sections) : (fuel : Nat) → Bytes → Except Fault (List LineRow)
  | _, [] => .ok []
  | 0, _ :: _ => .error .truncated
  | fuel + 1, bytes@(_ :: _) => do
    let (u, rest) ← (UnitHeader.read s.order).run bytes
    let rows ← s.unitRows u
    return rows ++ (← rowsFor s fuel rest)

/-- The rows of the line programs of all units, in order. -/
def rows (s : Sections) : Except Fault (List LineRow) :=
  s.rowsFor s.info.length s.info

end Sections

end GpuDebug.Dwarf
