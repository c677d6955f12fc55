import GpuDebug.Text.Path

/-!
# Line tables

A line table says for addresses of a code object which source line they come from. Its rows are
sorted by address and line.

* `LineTable.ofRows`: the table with the given rows;
* `LineTable.nearest`, `LineTable.addresses`: from lines to addresses;
* `LineTable.locate`: from addresses to lines;
* `LineTable.stepTargets`: where execution may stop after a step.

Queries that find nothing fail with `LookupFault.notFound`.
-/

namespace GpuDebug

/-- What went wrong with debug information. -/
inductive LookupFault
  /-- No row answers the query. -/
  | notFound
  /-- The code object carries no kernel text. -/
  | noKernelText
  /-- The code object carries no line table. -/
  | noDebugInfo
  /-- The code object does not have the form of its format. -/
  | malformed (detail : String)
  deriving DecidableEq, Repr, Inhabited

namespace LookupFault

def kind : LookupFault → String
  | notFound => "NotFound"
  | noKernelText => "NoHighLevelBinary"
  | noDebugInfo => "NoDebugInfo"
  | malformed _ => "Malformed"

def code : LookupFault → Nat
  | notFound => 1
  | noKernelText => 2
  | noDebugInfo => 3
  | malformed _ => 4

def message : LookupFault → String
  | notFound => "location not found"
  | noKernelText => "binary has no high-level section"
  | noDebugInfo => "binary has no debug information"
  | malformed detail => s!"malformed debug information: {detail}"

end LookupFault

/-- A place in the source. -/
structure CodeLocation where
  file : Option String
  line : UInt64
  deriving DecidableEq, Repr, Inhabited

/-- One row of a line table. -/
structure LineRow where
  /-- An address inside the code object. -/
  address : UInt64
  line : UInt64
  file : Option String
  deriving DecidableEq, Repr, Inhabited

namespace LineRow

def location (r : LineRow) : CodeLocation :=
  ⟨r.file, r.line⟩

/-- The order of rows: by address, then by line. -/
def before (r s : LineRow) : Bool :=
  r.address < s.address || (r.address == s.address && r.line ≤ s.line)

/-- Whether a row belongs to a file. No file means every file; paths that differ still match if
they have one file name. -/
def inFile (hint : Option String) (r : LineRow) : Bool :=
  match hint, r.file with
  | none, _ => true
  | some _, none => false
  | some hint, some file => file == hint || Path.fileName? file == Path.fileName? hint

end LineRow

/-- The line table of a code object, with the kernel text if it carries one. -/
structure LineTable where
  rows : List LineRow
  sourceText : Option String
  deriving DecidableEq, Repr, Inhabited

namespace LineTable

/-- The table with the given rows. Rows of one address and line keep their order. -/
def ofRows (rows : List LineRow) (sourceText : Option String) : LineTable :=
  ⟨rows.mergeSort LineRow.before, sourceText⟩

/-- Puts a number into a strictly ascending list, once. -/
def insertOnce (a : UInt64) : List UInt64 → List UInt64
  | [] => [a]
  | b :: bs =>
    if a < b then a :: b :: bs else if a = b then b :: bs else b :: insertOnce a bs

/-- The numbers in strictly ascending order. -/
def ascending (numbers : List UInt64) : List UInt64 :=
  numbers.foldr insertOnce []

/-- The first of the rows with the least line. -/
def leastLine? : List LineRow → Option LineRow
  | [] => none
  | r :: rows =>
    match leastLine? rows with
    | some s => if s.line < r.line then some s else some r
    | none => some r

/-- A list of addresses, or the failure to find any. -/
def found (addresses : List UInt64) : Except LookupFault (List UInt64) :=
  if addresses.isEmpty then .error .notFound else .ok addresses

/-- The closest line at or after `line` that has code. -/
def nearest (t : LineTable) (file : Option String) (line : UInt64) :
    Except LookupFault CodeLocation :=
  match leastLine? (t.rows.filter fun r => r.inFile file && line ≤ r.line) with
  | some r => .ok r.location
  | none => .error .notFound

/-- The addresses of a place in the source, lowest first. -/
def addresses (t : LineTable) (place : CodeLocation) : Except LookupFault (List UInt64) :=
  found (ascending ((t.rows.filter fun r => r.inFile place.file && r.line == place.line).map
    (·.address)))

/-- The place in the source of an address: that of the last row not above it. -/
def locate (t : LineTable) (address : UInt64) : Except LookupFault CodeLocation :=
  match (t.rows.takeWhile (·.address ≤ address)).getLast? with
  | some r => .ok r.location
  | none => .error .notFound

/-- Every address of the table, lowest first. -/
def mapped (t : LineTable) : List UInt64 :=
  ascending (t.rows.map (·.address))

/-- The largest of some numbers, at least `start`. -/
def largest (start : UInt64) (numbers : List UInt64) : UInt64 :=
  numbers.foldl max start

/-- Where execution may stop after a step from `pc`. A step over the line stops on every other
line; a step out stops above the last address of the line. -/
def stepTargets (t : LineTable) (pc : UInt64) (out : Bool) : Except LookupFault (List UInt64) := do
  let current ← t.locate pc
  let own := (t.rows.filter (·.location == current)).map (·.address)
  let others :=
    if out then
      match own with
      | [] => t.rows.filter (pc < ·.address)
      | a :: as => t.rows.filter (largest a as < ·.address)
    else t.rows.filter (·.location != current)
  found (ascending (others.map (·.address)))

/-- The file of the first row that has one. -/
def firstFile? (t : LineTable) : Option String :=
  t.rows.findSome? (·.file)

end LineTable

end GpuDebug
