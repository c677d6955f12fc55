import GpuDebug.Toml.Value

/-!
# Growing tables

* `Toml.Path`: the keys that lead to a value;
* `Entries.change`: changes the table that some keys lead to;
* `Entries.assign`: gives a value to a path;
* `Entries.openTable`, `Entries.addRow`: the table, and the next table of an array, that a header names.

No key is given twice, a complete table does not grow, and a table with a header does not grow
by dotted keys.
-/

namespace GpuDebug.Toml

/-- The keys that lead to a value: those of the tables around it, and its own. -/
structure Path where
  tables : List String
  key : String
  deriving DecidableEq, Repr, Inhabited

/-- All keys of a path. -/
def Path.keys (path : Path) : List String :=
  path.tables ++ [path.key]

namespace Entries

/-- Changes the table that some keys lead to, from a table of the given origin. A missing table
on the way is made with origin `made`; in an array of tables the way leads through the last. -/
def change (made : Origin) (f : Origin → Entries → Option Entries) :
    (keys : List String) → (origin : Origin) → Entries → Option Entries
  | [], origin, entries => f origin entries
  | key :: keys, _, entries =>
    match entries.lookup key with
    | none =>
      (change made f keys made []).map fun inner => entries.insert key (.table made inner)
    | some (.table origin inner) =>
      if origin = .inline || (made = .dotted && origin = .header) then none
      else
        (change made f keys origin inner).map fun inner =>
          entries.insert key (.table origin inner)
    | some (.array .header rows) =>
      match rows.getLast? with
      | some (.table origin inner) =>
        (change made f keys origin inner).map fun inner =>
          entries.insert key (.array .header (rows.dropLast ++ [.table origin inner]))
      | _ => none
    | some _ => none

/-- A value for a new key. -/
def add (key : String) (value : Value) (entries : Entries) : Option Entries :=
  if (entries.lookup key).isSome then none else some (entries.insert key value)

/-- Gives a value to a path. Behind tables, it must end in a table that has no other origin than
such paths. -/
def assign (path : Path) (value : Value) (entries : Entries) : Option Entries :=
  change .dotted
    (fun origin inner =>
      if path.tables.isEmpty || origin = .dotted then add path.key value inner else none)
    path.tables .header entries

/-- Gives values to paths, one after the other. -/
def assignAll (fields : List (Path × Value)) : Option Entries :=
  fields.foldlM (fun entries (path, value) => entries.assign path value) []

/-- The table that a header names: a new one, or one on the way to an earlier one. -/
def openTable (path : Path) (entries : Entries) : Option Entries :=
  change .implied
    (fun _ inner =>
      match inner.lookup path.key with
      | none => some (inner.insert path.key (.table .header []))
      | some (.table .implied found) => some (inner.insert path.key (.table .header found))
      | some _ => none)
    path.tables .header entries

/-- A new table at the end of the array that a header names. -/
def addRow (path : Path) (entries : Entries) : Option Entries :=
  change .implied
    (fun _ inner =>
      let rows : Option (List Value) :=
        match inner.lookup path.key with
        | none => some []
        | some (.array .header rows) => some rows
        | some _ => none
      rows.map fun rows =>
        inner.insert path.key (.array .header (rows ++ [.table .header []])))
    path.tables .header entries

end Entries

end GpuDebug.Toml
