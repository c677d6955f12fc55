import GpuDebug.Toml.Value

/-!
# Sections of a configuration

A section gives values to settings, by name in a table or by place in an array. A date has no
settings, so it stands for a section without any.

* `Setting`: types whose values can be read from a configuration;
* `Section`: the values that have not been read yet;
* `Section.next`: the value of the next setting;
* `Settings`: types whose values are described by a section.

A value that no setting asks for is passed over.
-/

namespace GpuDebug

open Toml (Entries Value)

/-- Types whose values can be read from a configuration. -/
class Setting (α : Type) where
  ofValue? : Value → Option α

instance : Setting String where
  ofValue?
    | .text value => some value
    | _ => none

instance : Setting Bool where
  ofValue?
    | .boolean value => some value
    | _ => none

instance : Setting Nat where
  ofValue?
    | .integer (.ofNat n) => some n
    | _ => none

instance : Setting Int32 where
  ofValue?
    | .integer n => if Int32.minValue.toInt ≤ n && n ≤ Int32.maxValue.toInt then some (Int32.ofInt n) else none
    | _ => none

/-- The values of a section that have not been read yet. -/
inductive Section
  | named (entries : Entries)
  | ordered (items : List Value)
  deriving Repr, Inhabited

namespace Section

def ofValue? : Value → Option Section
  | .table _ entries => some (.named entries)
  | .array _ items => some (.ordered items)
  | .moment _ => some (.named [])
  | _ => none

/-- The value of the next setting, which has the given name, and the values that are left. -/
def take (name : String) : Section → Option Value × Section
  | .named entries => (entries.lookup name, .named entries)
  | .ordered [] => (none, .ordered [])
  | .ordered (value :: values) => (some value, .ordered values)

/-- Reads the next setting; `standard` is its value where the section gives none. -/
def next {α : Type} [Setting α] (name : String) (standard : Option α) : StateT Section Option α :=
  fun s =>
    match s.take name with
    | (some value, rest) => (Setting.ofValue? value).map fun a => (a, rest)
    | (none, rest) => standard.map fun a => (a, rest)

end Section

/-- Types whose values are described by the settings of a section, in this order. -/
class Settings (α : Type) where
  settings : StateT Section Option α

/-- The value that a section describes. -/
def Section.describes? (α : Type) [Settings α] (s : Section) : Option α :=
  (Settings.settings.run s).map Prod.fst

instance {α : Type} [Settings α] : Setting α where
  ofValue? value := (Section.ofValue? value).bind (Section.describes? α)

end GpuDebug
