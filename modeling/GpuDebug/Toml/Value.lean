/-!
# Values of configuration files

* `Toml.Value`: a value, with the way in which a table or an array was written;
* `Toml.Entries`: the keys of a table in the order in which they were given.
-/

namespace GpuDebug.Toml

/-- The way in which a table or an array comes into being, which decides how it may grow. -/
inductive Origin
  /-- It was written as a value, in brackets, and is complete. -/
  | inline
  /-- It has a header of its own. -/
  | header
  /-- It lies on the way to the table of a header. -/
  | implied
  /-- It lies on the way to the key of a value. -/
  | dotted
  deriving DecidableEq, Repr, Inhabited

/-- A value. Numbers with a fraction, dates and times are kept as they are written. -/
inductive Value
  | text (value : String)
  | integer (value : Int)
  | fraction (written : String)
  | boolean (value : Bool)
  | moment (written : String)
  | array (origin : Origin) (items : List Value)
  | table (origin : Origin) (entries : List (String × Value))
  deriving Repr, Inhabited

/-- The keys of a table and their values. -/
abbrev Entries := List (String × Value)

namespace Entries

/-- The entries with a value for `key`, in the place of an older one. -/
def insert (key : String) (value : Value) : Entries → Entries
  | [] => [(key, value)]
  | entry :: entries =>
    if entry.1 = key then (key, value) :: entries else entry :: insert key value entries

theorem lookup_insert (key : String) (value : Value) (entries : Entries) :
    (insert key value entries).lookup key = some value := by
  induction entries with
  | nil => simp [insert]
  | cons entry entries ih =>
    obtain ⟨k, v⟩ := entry
    by_cases h : k = key
    · simp [insert, h]
    · have hk : (key == k) = false := by simpa using Ne.symm h
      simp [insert, h, List.lookup_cons, hk, ih]

end Entries

end GpuDebug.Toml
