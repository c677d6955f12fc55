import GpuDebug.Toml.Statement

/-!
# Configuration files as tables

* `Toml.Draft`: a table that grows statement by statement;
* `Toml.document?`: the table that a file describes.
-/

namespace GpuDebug.Toml

/-- A table that grows statement by statement. -/
structure Draft where
  entries : Entries
  /-- The keys of the last header. -/
  place : List String
  deriving Inhabited

namespace Draft

def empty : Draft := ⟨[], []⟩

/-- The table after one more statement. -/
def execute (d : Draft) : Statement → Option Draft
  | .table path => (d.entries.openTable path).map fun entries => ⟨entries, path.keys⟩
  | .row path => (d.entries.addRow path).map fun entries => ⟨entries, path.keys⟩
  | .assign path value =>
    (d.entries.change .implied (fun _ inner => inner.assign path value) d.place .header).map
      fun entries => { d with entries }

end Draft

/-- The table that a file describes. -/
def document? (text : String) : Option Entries := do
  let statements ← statements? text.toList
  let draft ← statements.foldlM Draft.execute Draft.empty
  return draft.entries

end GpuDebug.Toml
