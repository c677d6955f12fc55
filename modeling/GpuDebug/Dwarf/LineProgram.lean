import GpuDebug.Dwarf.Form
import GpuDebug.LineTable

/-!
# Line programs

A line program is a sequence of instructions for a machine with a few registers, which emits the
rows of a line table.

* `LineHeader`, `LineHeader.read`: what stands before the instructions, in versions 2 to 5;
* `Instruction`, `Instruction.read`: one instruction;
* `Registers`, `Registers.step`: the effect of an instruction;
* `LineHeader.rows`: the rows that a program emits.

Addresses and lines wrap around, except that a line moved below zero stays at zero; rows of line
zero and the ends of sequences are left out. Behind an address of all ones no row counts until the
next address is set.
-/

namespace GpuDebug.Dwarf

open Scan

/-- A file of a line program. -/
structure FileEntry where
  name : Value
  directory : Nat
  deriving DecidableEq, Repr, Inhabited

/-- What stands before the instructions of a line program. -/
structure LineHeader where
  encoding : Encoding
  minimumLength : UInt64
  maximumOperations : UInt64
  lineBase : Int
  lineRange : Nat
  opcodeBase : Nat
  /-- How many operands each standard instruction has. -/
  operandCounts : Bytes
  directories : List Value
  files : List FileEntry
  /-- The directory and the name of the unit, for file and directory zero before version 5. -/
  unitDirectory : Option Bytes
  unitName : Option Bytes
  program : Bytes
  deriving Repr, Inhabited

namespace LineHeader

/-- Texts up to an empty one. -/
def pathsFor : (fuel : Nat) → Scan (List Value)
  | 0 => throw .truncated
  | fuel + 1 => do
    let path ← zeroTerminated
    if path.isEmpty then return []
    return .text path :: (← pathsFor fuel)

/-- A file entry behind its name: directory, time and length. -/
def fileBehind (name : Bytes) : Scan FileEntry := do
  let directory ← unsigned
  let _ ← unsigned
  let _ ← unsigned
  return ⟨.text name, directory⟩

/-- File entries up to one with an empty name. -/
def filesFor : (fuel : Nat) → Scan (List FileEntry)
  | 0 => throw .truncated
  | fuel + 1 => do
    let name ← zeroTerminated
    if name.isEmpty then return []
    let first ← fileBehind name
    return first :: (← filesFor fuel)

/-- The content types of entries that matter here. -/
def pathContent : Nat := 1

def directoryContent : Nat := 2

/-- The fields of an entry, as content type and form. Exactly one of them is a path. -/
def entryFields : Scan (List (Nat × Nat)) := do
  let count ← u8
  let fields ← fieldsFor count
  if (fields.filter (·.1 = pathContent)).length = 1 then return fields
  else throw .badLineHeader
where
  fieldsFor : Nat → Scan (List (Nat × Nat))
    | 0 => return []
    | count + 1 => do
      let content ← unsigned
      let form ← unsigned16
      return (content, form) :: (← fieldsFor count)

/-- Adds the given fields to an entry. Of two directories the last one that is a number counts. -/
def entry (e : Encoding) : List (Nat × Nat) → FileEntry → Scan FileEntry
  | [], f => return f
  | (content, form) :: fields, f => do
    let value ← Value.readShared e form
    if content = pathContent then entry e fields { f with name := value }
    else if content = directoryContent then
      entry e fields { f with directory := value.natural?.getD f.directory }
    else entry e fields f

/-- As many entries as are announced; each has at least one byte. -/
def entriesFor (e : Encoding) (fields : List (Nat × Nat)) :
    (fuel : Nat) → (count : Nat) → Scan (List FileEntry)
  | _, 0 => return []
  | 0, _ + 1 => throw .truncated
  | fuel + 1, count + 1 => do
    let first ← entry e fields ⟨.other, 0⟩
    return first :: (← entriesFor e fields fuel count)

/-- A table of entries: fields, count, entries. -/
def entries (e : Encoding) : Scan (List FileEntry) := do
  let fields ← entryFields
  let count ← unsigned
  entriesFor e fields (← get).length count

/-- A signed byte. -/
def signedByte : Scan Int := do
  let n ← u8
  return if n < 128 then (n : Int) else (n : Int) - 256

/-- A byte that must not be zero. -/
def positive : Scan Nat := do
  let n ← u8
  if n = 0 then throw .badLineHeader else return n

/-- Reads the header of a line program. `addressSize` is that of the unit; from version 5 on the
header carries its own. -/
def read (order : ByteOrder) (addressSize : Nat) (unitDirectory unitName : Option Bytes) :
    Scan LineHeader := do
  let (length, wide) ← initialLength order
  within (← take length) do
    let version ← number order 2
    if version < 2 || 5 < version then throw (.badVersion version)
    let addressSize ← if 5 ≤ version then u8 else pure addressSize
    if 5 ≤ version then
      if (← u8) != 0 then throw .badLineHeader
    let encoding : Encoding := ⟨order, wide, version, addressSize⟩
    let headerLength ← offset order wide
    let header ← take headerLength
    let program ← get
    within header do
      let minimumLength ← positive
      let maximumOperations ← if 4 ≤ version then positive else pure 1
      skip 1
      let lineBase ← signedByte
      let lineRange ← positive
      let opcodeBase ← positive
      let operandCounts ← take (opcodeBase - 1)
      let (directories, files) ← if version ≤ 4 then do
          let directories ← pathsFor header.length
          let files ← filesFor header.length
          pure (directories, files)
        else do
          let directories ← entries encoding
          let files ← entries encoding
          pure (directories.map (·.name), files)
      return {
        encoding, lineBase, lineRange, opcodeBase, operandCounts, directories, files
        unitDirectory, unitName, program
        minimumLength := UInt64.ofNat minimumLength
        maximumOperations := UInt64.ofNat maximumOperations }

/-- A file by its number. Before version 5 numbers start at one, and zero is the unit itself. -/
def file? (h : LineHeader) (number : Nat) : Option FileEntry :=
  if 5 ≤ h.encoding.version then h.files[number]?
  else
    match number with
    | 0 => h.unitName.map fun name => ⟨.text name, 0⟩
    | index + 1 => h.files[index]?

/-- A directory by its number, counted like the files. -/
def directory? (h : LineHeader) (number : Nat) : Option Value :=
  if 5 ≤ h.encoding.version then h.directories[number]?
  else
    match number with
    | 0 => h.unitDirectory.map .text
    | index + 1 => h.directories[index]?

/-- The path of a file: a relative name is put behind its directory, if that has a name. -/
def path (h : LineHeader) (s : Strings) (f : FileEntry) : Except Fault String := do
  let name := String.ofList (Utf8.decode (← s.get f.name))
  if name.toList.head? = some '/' then return name
  match h.directory? f.directory with
  | none => return name
  | some directory =>
    let directory := String.ofList (Utf8.decode (← s.get directory))
    return if directory.isEmpty then name else directory ++ "/" ++ name

end LineHeader

/-- One instruction of a line program. -/
inductive Instruction
  | special (opcode : Nat)
  | copy
  | advancePc (operations : Nat)
  | advanceLine (lines : Int)
  | setFile (file : Nat)
  | constAddPc
  | fixedAdvancePc (bytes : Nat)
  | endSequence
  | setAddress (address : Nat)
  | defineFile (file : FileEntry)
  /-- An instruction without an effect on rows. -/
  | noEffect
  deriving DecidableEq, Repr, Inhabited

namespace Instruction

/-- An instruction behind a zero opcode: a length, a code, operands. -/
def extended (h : LineHeader) : Scan Instruction := do
  let length ← unsigned
  within (← take length) do
    match ← u8 with
    | 1 => return endSequence
    | 2 => return setAddress (← Scan.address h.encoding.order h.encoding.addressSize)
    | 3 =>
      if h.encoding.version ≤ 4 then
        return defineFile (← LineHeader.fileBehind (← zeroTerminated))
      else return noEffect
    | 4 => do
      let _ ← unsigned
      return noEffect
    | _ => return noEffect

/-- Passes over `count` operands of an instruction that is not known. -/
def operands : (count : Nat) → Scan Instruction
  | 0 => return noEffect
  | count + 1 => do
    let _ ← unsigned
    operands count

/-- The instruction with a standard opcode. -/
def standard (h : LineHeader) (opcode : Nat) : Scan Instruction :=
  match opcode with
  | 1 => return copy
  | 2 => return advancePc (← unsigned)
  | 3 => return advanceLine (← Scan.signed)
  | 4 => return setFile (← unsigned)
  | 5 => operands 1
  | 6 | 7 | 10 | 11 => return noEffect
  | 8 => return constAddPc
  | 9 => return fixedAdvancePc (← number h.encoding.order 2)
  | 12 => operands 1
  | _ => operands (h.operandCounts.getD (opcode - 1) 0).toNat

/-- The next instruction. -/
def read (h : LineHeader) : Scan Instruction := do
  let opcode ← u8
  if opcode = 0 then extended h
  else if h.opcodeBase ≤ opcode then return special opcode
  else standard h opcode

end Instruction

/-- The registers of the line machine. -/
structure Registers where
  address : UInt64
  operation : UInt64
  file : UInt64
  line : UInt64
  /-- Set behind an address that stands for removed code. -/
  removed : Bool
  deriving DecidableEq, Repr, Inhabited

namespace Registers

/-- The registers at the start of a sequence. -/
def start : Registers := ⟨0, 0, 1, 1, false⟩

/-- Moves on by some operations. -/
def advance (h : LineHeader) (operations : UInt64) (r : Registers) : Registers :=
  if h.maximumOperations = 1 then
    { r with address := r.address + h.minimumLength * operations, operation := 0 }
  else
    let total := r.operation + operations
    { r with
      address := r.address + h.minimumLength * (total / h.maximumOperations)
      operation := total % h.maximumOperations }

/-- Moves the line; below zero it stays at zero. -/
def advanceLine (lines : Int) (r : Registers) : Registers :=
  if 0 ≤ lines then { r with line := r.line + UInt64.ofNat lines.toNat }
  else { r with line := UInt64.ofNat (r.line.toNat - lines.natAbs) }

/-- The address that stands for removed code: all bits set. -/
def removedAddress (size : Nat) : Nat :=
  1 <<< (8 * size) - 1

/-- The effect of a special opcode on line and address. -/
def special (h : LineHeader) (opcode : Nat) (r : Registers) : Registers :=
  let adjusted := opcode - h.opcodeBase
  let moved := r.advanceLine (h.lineBase + (adjusted % h.lineRange : Nat))
  moved.advance h (UInt64.ofNat (adjusted / h.lineRange))

/-- The registers after an instruction, and whether they hold a row. -/
def step (h : LineHeader) (r : Registers) : Instruction → Registers × Bool
  | .special opcode => (r.special h opcode, true)
  | .copy => (r, true)
  | .advancePc operations => (r.advance h (UInt64.ofNat operations), false)
  | .advanceLine lines => (r.advanceLine lines, false)
  | .setFile file => ({ r with file := UInt64.ofNat file }, false)
  | .constAddPc =>
    (r.advance h (UInt64.ofNat ((255 - h.opcodeBase) / h.lineRange)), false)
  | .fixedAdvancePc bytes =>
    ({ r with address := r.address + UInt64.ofNat bytes, operation := 0 }, false)
  | .endSequence => (start, false)
  | .setAddress address =>
    ({ r with
      address := UInt64.ofNat address
      operation := 0
      removed := address == removedAddress h.encoding.addressSize }, false)
  | .defineFile _ => (r, false)
  | .noEffect => (r, false)

end Registers

namespace LineHeader

/-- The header after an instruction: files may be added. -/
def after (h : LineHeader) : Instruction → LineHeader
  | .defineFile file => { h with files := h.files ++ [file] }
  | _ => h

/-- The row that the registers hold, unless it is left out. -/
def row? (h : LineHeader) (s : Strings) (r : Registers) : Except Fault (Option LineRow) :=
  if r.removed || r.line = 0 then .ok none
  else do
    let file ← (h.file? r.file.toNat).mapM (h.path s)
    return some ⟨r.address, r.line, file⟩

/-- The rows that the remaining instructions emit; each instruction has at least one byte. -/
def rowsFor (s : Strings) :
    (fuel : Nat) → LineHeader → Registers → Bytes → Except Fault (List LineRow)
  | _, _, _, [] => .ok []
  | 0, _, _, _ :: _ => .error .truncated
  | fuel + 1, h, r, bytes@(_ :: _) => do
    let (instruction, rest) ← (Instruction.read h).run bytes
    let (r', emits) := r.step h instruction
    let row ← if emits then h.row? s r' else pure none
    let others ← rowsFor s fuel (h.after instruction) r' rest
    return row.toList ++ others

/-- The rows of a line program, in the order in which it emits them. -/
def rows (h : LineHeader) (s : Strings) : Except Fault (List LineRow) :=
  rowsFor s h.program.length h .start h.program

end LineHeader

end GpuDebug.Dwarf
