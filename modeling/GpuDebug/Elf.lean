import GpuDebug.Dwarf.Scan

/-!
# Object files

A code object is an object file of 32 or 64 bits and of either byte order, with a table of named
sections.

* `Elf.Section`: an entry of the section table;
* `Elf.Object`, `Elf.Object.read`: the section table of a file, and the checks that a file has to
  pass;
* `Elf.Object.find?`, `Elf.Object.content?`: a section by its name, and its bytes.
-/

namespace GpuDebug.Elf

open Dwarf (ByteOrder Fault Scan)

/-- An entry of the section table. -/
structure Section where
  nameOffset : Nat
  type : Nat
  offset : Nat
  size : Nat
  link : Nat
  info : Nat
  deriving DecidableEq, Repr, Inhabited

namespace Section

/-- The types of sections that matter. -/
def symbolTable : Nat := 2

def stringTable : Nat := 3

def relocationsWithAddends : Nat := 4

/-- A section without bytes in the file. -/
def noBits : Nat := 8

def relocations : Nat := 9

def dynamicSymbols : Nat := 11

def symbolIndexes : Nat := 18

/-- Whether the end of the section is an offset of eight bytes. -/
def endFits (s : Section) : Bool :=
  s.offset + s.size < 0x10000000000000000

end Section

/-- What the reading of the tables depends on. -/
structure Layout where
  order : ByteOrder
  /-- Whether addresses and offsets have eight bytes. -/
  wide : Bool
  deriving DecidableEq, Repr, Inhabited

namespace Layout

/-- An address or offset. -/
def word (l : Layout) : Scan Nat :=
  Scan.offset l.order l.wide

def half (l : Layout) : Scan Nat :=
  Scan.number l.order 2

/-- A number of four bytes in both classes. -/
def quad (l : Layout) : Scan Nat :=
  Scan.number l.order 4

/-- The sizes of the entries of the two tables. -/
def segmentSize (l : Layout) : Nat := if l.wide then 56 else 32

def sectionSize (l : Layout) : Nat := if l.wide then 64 else 40

/-- Reads an entry of the section table. -/
def readSection (l : Layout) : Scan Section := do
  let nameOffset ← l.quad
  let type ← l.quad
  let _flags ← l.word
  let _address ← l.word
  let offset ← l.word
  let size ← l.word
  let link ← l.quad
  let info ← l.quad
  let _alignment ← l.word
  let _entrySize ← l.word
  return ⟨nameOffset, type, offset, size, link, info⟩

end Layout

/-- What the file header says about the two tables. -/
structure Header where
  layout : Layout
  segmentsOffset : Nat
  sectionsOffset : Nat
  segmentEntrySize : Nat
  segmentCount : Nat
  sectionEntrySize : Nat
  sectionCount : Nat
  namesIndex : Nat
  deriving DecidableEq, Repr, Inhabited

/-- A file and its section table. -/
structure Object where
  layout : Layout
  sections : List Section
  /-- The bytes of the section of names, as far as the file holds them. -/
  names : Bytes
  file : Bytes
  deriving Repr, Inhabited

/-- The `count` bytes from an offset of a file on, if the file holds them all. -/
def slice? (file : Bytes) (offset count : Nat) : Option Bytes :=
  let found := (file.drop offset).take count
  if found.length = count && offset ≤ file.length then some found else none

namespace Header

/-- The bytes with which every object file starts. -/
def magic : Bytes := [0x7F, 0x45, 0x4C, 0x46]

/-- The layout that the first bytes of a file name. -/
def readLayout : Scan Layout := do
  let start ← Scan.take 4
  let wideness ← Scan.u8
  let order ← Scan.u8
  let version ← Scan.u8
  Scan.skip 9
  if start != magic || wideness < 1 || 2 < wideness then throw .notAnObject
  if order < 1 || 2 < order || version != 1 then throw .badHeader
  return ⟨if order = 1 then .little else .big, wideness = 2⟩

/-- Reads the file header. -/
def read : Scan Header := do
  let layout ← readLayout
  let _type ← layout.half
  let _machine ← layout.half
  let _version ← layout.quad
  let _entry ← layout.word
  let segmentsOffset ← layout.word
  let sectionsOffset ← layout.word
  let _flags ← layout.quad
  let _headerSize ← layout.half
  let segmentEntrySize ← layout.half
  let segmentCount ← layout.half
  let sectionEntrySize ← layout.half
  let sectionCount ← layout.half
  let namesIndex ← layout.half
  return ⟨layout, segmentsOffset, sectionsOffset, segmentEntrySize, segmentCount,
    sectionEntrySize, sectionCount, namesIndex⟩

/-- The first entry of the section table, which holds counts that do not fit the header. -/
def firstSection (h : Header) (file : Bytes) : Except Fault (Option Section) :=
  if h.sectionsOffset = 0 then .ok none
  else if h.sectionEntrySize ≠ h.layout.sectionSize then .error .badSectionTable
  else
    match slice? file h.sectionsOffset h.layout.sectionSize with
    | some bytes => some <$> h.layout.readSection.run' bytes
    | none => .error .badSectionTable

/-- A count of the header that may be kept in the first section instead. -/
def extended (h : Header) (file : Bytes) (inHeader mark : Nat) (field : Section → Nat) :
    Except Fault Nat := do
  if inHeader ≠ mark then return inHeader
  match ← h.firstSection file with
  | some s => return field s
  | none => throw .badSectionTable

/-- Checks that the table of segments lies in the file. -/
def checkSegments (h : Header) (file : Bytes) : Except Fault Unit := do
  if h.segmentsOffset = 0 then return ()
  let count ← h.extended file h.segmentCount 0xFFFF (·.info)
  if count = 0 then return ()
  if h.segmentEntrySize ≠ h.layout.segmentSize then throw .badHeader
  if (slice? file h.segmentsOffset (count * h.layout.segmentSize)).isNone then throw .badHeader

/-- Reads `count` sections. -/
def readSections (l : Layout) : (count : Nat) → Scan (List Section)
  | 0 => return []
  | count + 1 => do
    let first ← l.readSection
    return first :: (← readSections l count)

/-- The section table. A file without one has no sections. -/
def sections (h : Header) (file : Bytes) : Except Fault (List Section) := do
  if h.sectionsOffset = 0 then return []
  let count ← h.extended file h.sectionCount 0 (·.size)
  if count = 0 then return []
  if h.sectionEntrySize ≠ h.layout.sectionSize then throw .badSectionTable
  match slice? file h.sectionsOffset (count * h.layout.sectionSize) with
  | some bytes => (readSections h.layout count).run' bytes
  | none => throw .badSectionTable

/-- The bytes of the section of names. -/
def nameBytes (h : Header) (file : Bytes) (sections : List Section) : Except Fault Bytes := do
  if sections.isEmpty then return []
  let index ← h.extended file h.namesIndex 0xFFFF (·.link)
  if index = 0 then throw .badSectionTable
  match sections[index]? with
  | some s =>
    if s.type = Section.noBits then return []
    if !s.endFits then throw .badSectionTable
    return (slice? file s.offset s.size).getD []
  | none => throw .badSectionTable

end Header

namespace Object

/-- The bytes of a section. -/
def content? (o : Object) (s : Section) : Option Bytes :=
  if s.type = Section.noBits then some [] else slice? o.file s.offset s.size

/-- The name of a section: the bytes up to the next zero of the section of names. -/
def name? (o : Object) (s : Section) : Option Bytes :=
  let rest := o.names.drop s.nameOffset
  if rest.contains 0 then some (rest.takeWhile (· != 0)) else none

/-- The first section of the given name. -/
def find? (o : Object) (name : String) : Option Section :=
  let wanted := Utf8.encode name.toList
  o.sections.find? fun s => o.name? s == some wanted

/-- Whether the symbols of the first table of some type can be read: their bytes, the names they
are given and the wide section indexes that belong to them. -/
def symbolsReadable (o : Object) (type : Nat) : Bool :=
  match o.sections.zipIdx.find? (·.1.type = type) with
  | none => true
  | some (table, index) =>
    (o.content? table).isSome &&
      (table.link = 0 || match o.sections[table.link]? with
        | some names => names.type = Section.stringTable && names.endFits
        | none => false) &&
      (o.sections.all fun s =>
        s.type != Section.symbolIndexes || s.link != index || (o.content? s).isSome)

/-- Whether the relocations that belong to the symbols apply to sections that exist. -/
def relocationsReadable (o : Object) : Bool :=
  match o.sections.findIdx? (·.type = Section.symbolTable) with
  | none => relocationsFor 0
  | some index => relocationsFor index
where
  relocationsFor (symbols : Nat) : Bool :=
    o.sections.all fun s =>
      (s.type != Section.relocations && s.type != Section.relocationsWithAddends) ||
        s.link != symbols || s.info < o.sections.length

/-- Reads a file. -/
def read (file : Bytes) : Except Fault Object := do
  let h ← Header.read.run' file
  h.checkSegments file
  let sections ← h.sections file
  let names ← h.nameBytes file sections
  let o : Object := ⟨h.layout, sections, names, file⟩
  if o.symbolsReadable Section.symbolTable && o.symbolsReadable Section.dynamicSymbols &&
      o.relocationsReadable then return o
  else throw .badSymbols

end Object

end GpuDebug.Elf
