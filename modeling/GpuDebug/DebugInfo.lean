import GpuDebug.Error
import GpuDebug.Files
import GpuDebug.LineTable
import GpuDebug.Text.Statement

/-!
# Debug information of the current dispatch

The debugger holds the line table of the code object that was published last.

* `DebugInfo`: the line table, and whether it still counts;
* `DebugInfo.load`: reads a code object;
* `DebugInfo.resolveLine`, `DebugInfo.firstAddress`, `DebugInfo.pcInfo`: queries;
* `DebugInfo.statement`: the text of a source line as it is sent to the agent.
-/

namespace GpuDebug

/-- The error for a query that failed. -/
def LookupFault.error (fault : LookupFault) : Error :=
  .debugInfo fault.code fault.message

/-- How a code object is packaged. -/
inductive ImageFormat
  /-- With the kernel text. -/
  | twoLevel
  /-- With a line table only. -/
  | singleLevel
  deriving DecidableEq, Repr, Inhabited

namespace ImageFormat

def name : ImageFormat → String
  | twoLevel => "TwoLevel"
  | singleLevel => "SingleLevel"

end ImageFormat

/-- A reader of code objects. -/
abbrev ImageReader := Bytes → ImageFormat → Except LookupFault LineTable

/-- The line table of the current dispatch. -/
structure DebugInfo where
  reader : ImageReader
  table : Option LineTable
  /-- Cleared when the dispatch of the table has ended. -/
  isCurrent : Bool
  /-- Where kernel text is saved. -/
  dumpPath : String
  /-- The file meant by locations that give a line only. -/
  activeFile : String

/-- What came of a load. -/
structure Loaded where
  format : ImageFormat
  /-- Where the kernel text was saved, if it was. -/
  savedTo : Option String
  deriving DecidableEq, Repr

namespace DebugInfo

/-- Nothing is loaded. -/
def empty (reader : ImageReader) (dumpPath : String) : DebugInfo where
  reader := reader
  table := none
  isCurrent := false
  dumpPath := dumpPath
  activeFile := dumpPath

/-- Whether a table is held and still counts. -/
def isAvailable (d : DebugInfo) : Bool :=
  d.isCurrent && d.table.isSome

/-- Keeps the table, which does not count any more. -/
def setUnavailable (d : DebugInfo) : DebugInfo :=
  { d with isCurrent := false }

/-- Drops the table. -/
def invalidate (d : DebugInfo) : DebugInfo :=
  { d with table := none, isCurrent := false }

/-- Reads a code object, with kernel text if it carries one and without it otherwise. -/
def openImage (reader : ImageReader) (image : Bytes) :
    Except LookupFault (LineTable × ImageFormat) :=
  match reader image .twoLevel with
  | .ok table => .ok (table, .twoLevel)
  | .error .noKernelText => (·, .singleLevel) <$> reader image .singleLevel
  | .error fault => .error fault

/-- Makes a table the current one. Kernel text is saved; whether that works out is of no
consequence for the table. -/
def adopt (d : DebugInfo) (files : Files) (table : LineTable) : Option String × DebugInfo × Files :=
  let current := { d with table := some table, isCurrent := true }
  match table.sourceText with
  | some text =>
    let current := { current with activeFile := d.dumpPath }
    match files.save d.dumpPath (Utf8.encode text.toList) with
    | .ok files => (some d.dumpPath, current, files)
    | .error _ => (none, current, files)
  | none => (none, { current with activeFile := table.firstFile?.getD d.activeFile }, files)

/-- Loads a code object. If it cannot be read, nothing is loaded afterwards. -/
def load (d : DebugInfo) (files : Files) (image : Bytes) :
    Except Error Loaded × DebugInfo × Files :=
  match openImage d.reader image with
  | .error fault => (.error fault.error, d.invalidate, files)
  | .ok (table, format) =>
    let (savedTo, d, files) := d.adopt files table
    (.ok ⟨format, savedTo⟩, d, files)

/-- The table that queries go to. -/
def require (d : DebugInfo) : Except Error LineTable :=
  match d.table with
  | some table => .ok table
  | none => .error .debugInfoUnavailable

/-- The nearest line with code, if there is one. -/
def resolveLine (d : DebugInfo) (file : Option String) (line : UInt64) :
    Except Error (Option CodeLocation) := do
  match (← d.require).nearest file line with
  | .ok place => return some place
  | .error .notFound => return none
  | .error fault => throw fault.error

/-- The lowest address of a place in the source, if it has one. -/
def firstAddress (d : DebugInfo) (place : CodeLocation) : Except Error (Option UInt64) := do
  match (← d.require).addresses place with
  | .ok addresses => return addresses.head?
  | .error .notFound => return none
  | .error fault => throw fault.error

/-- The name by which a line table means the kernel text inside the code object. -/
def embeddedFile : String := "hsa::self().elf"

/-- The line and file of an address inside the code object. -/
def pcInfo (d : DebugInfo) (address : UInt64) : Option (UInt64 × String) := do
  let table ← d.table
  let place ← (table.locate address).toOption
  match place.file with
  | some file =>
    if Text.holds embeddedFile.toList file.toList then return (place.line, d.activeFile)
    else return (place.line, file)
  | none => return (place.line, d.activeFile)

/-- The first statement of a line of the kernel text. -/
def statement (d : DebugInfo) (line : UInt64) : String :=
  let text := (d.table.bind (·.sourceText)).getD ""
  String.ofList (Statement.extract ((Statement.nthLine? line.toNat text.toList).getD []))

end DebugInfo

end GpuDebug
