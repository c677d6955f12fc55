import GpuDebug.DebugInfo
import GpuDebug.Dwarf.Unit
import GpuDebug.Elf

/-!
# Code objects

* `CodeObject.read`: the line table of a code object, with the kernel text if that is asked for.

The kernel text stands in a section of its own; a code object without this section is packaged in
the simpler of the two formats.
-/

namespace GpuDebug.CodeObject

open Dwarf (Fault Sections)

/-- The section of the kernel text. -/
def textSection : String := ".hsatext"

/-- The bytes of a section; none if it is missing or does not lie in the file. -/
def sectionOf (o : Elf.Object) (name : String) : Bytes :=
  ((o.find? name).bind o.content?).getD []

/-- The sections of debug information. -/
def sections (o : Elf.Object) : Sections where
  order := o.layout.order
  info := sectionOf o ".debug_info"
  abbreviations := sectionOf o ".debug_abbrev"
  lines := sectionOf o ".debug_line"
  texts := sectionOf o ".debug_str"
  lineTexts := sectionOf o ".debug_line_str"
  textOffsets := sectionOf o ".debug_str_offsets"
  addresses := sectionOf o ".debug_addr"

/-- A fault inside a code object. -/
def malformed (fault : Fault) : LookupFault :=
  .malformed fault.message

/-- The kernel text of an object that has to carry one. -/
def kernelText (o : Elf.Object) : Except LookupFault String :=
  match o.find? textSection with
  | none => .error .noKernelText
  | some s =>
    match o.content? s with
    | some bytes => .ok (String.ofList (Utf8.decode bytes))
    | none => .error (malformed .truncated)

/-- The line table of an object. -/
def lineTable (o : Elf.Object) (sourceText : Option String) : Except LookupFault LineTable :=
  match (sections o).rows with
  | .error fault => .error (malformed fault)
  | .ok [] => .error .noDebugInfo
  | .ok rows => .ok (LineTable.ofRows rows sourceText)

/-- Reads a code object in one of the two formats. -/
def read (image : Bytes) (format : ImageFormat) : Except LookupFault LineTable :=
  match Elf.Object.read image with
  | .error fault => .error (malformed fault)
  | .ok o =>
    match format with
    | .singleLevel => lineTable o none
    | .twoLevel => do
      let text ← kernelText o
      lineTable o (some text)

end GpuDebug.CodeObject
