import GpuDebug.Wire.Bytes
import GpuDebug.Text.Numeral

/-!
# JSON

Everything that the debugger shows can also be had in a form for other programs.

* `Json`: a JSON value;
* `ToJson`: types whose values have a JSON form;
* `Json.record`: a record, from the names of its fields and a tuple of their values.

Fields keep the order in which they are given.
-/

namespace GpuDebug

/-- A JSON value. Numbers are integers. -/
inductive Json
  | null
  | bool (value : Bool)
  | number (value : Int)
  | text (value : String)
  | list (items : List Json)
  | fields (entries : List (String × Json))
  deriving Repr, Inhabited

/-- Types whose values have a JSON form. -/
class ToJson (α : Type) where
  toJson : α → Json

export ToJson (toJson)

/-- Types whose values are written one after the other in a list or record. -/
class ToJsonItems (α : Type) where
  items : α → List Json

instance (priority := low) {α : Type} [ToJson α] : ToJsonItems α := ⟨fun a => [toJson a]⟩

instance {α β : Type} [ToJson α] [ToJsonItems β] : ToJsonItems (α × β) :=
  ⟨fun (a, b) => toJson a :: ToJsonItems.items b⟩

/-- A tuple is a list of its components. -/
instance {α β : Type} [ToJson α] [ToJsonItems β] : ToJson (α × β) :=
  ⟨fun p => .list (ToJsonItems.items p)⟩

namespace Json

/-- The record with some fields, named in a text with single spaces between the names. -/
def record {α : Type} [ToJsonItems α] (names : String) (values : α) : Json :=
  .fields ((names.splitOn " ").zip (ToJsonItems.items values))

/-- The fields of a record, and none of other values. -/
def entries : Json → List (String × Json)
  | .fields entries => entries
  | _ => []

/-- The record with the fields of two records. -/
def append (first second : Json) : Json :=
  .fields (first.entries ++ second.entries)

/-- Bytes as pairs of hexadecimal digits. -/
def hexText (bytes : Bytes) : String :=
  String.ofList (bytes.flatMap fun b => Numeral.hexLow 2 b.toNat)

end Json

instance : ToJson Json := ⟨id⟩

instance : ToJson Unit := ⟨fun _ => .null⟩

instance : ToJson Bool := ⟨.bool⟩

instance : ToJson Int := ⟨.number⟩

instance : ToJson Nat := ⟨fun n => .number n⟩

instance : ToJson Int32 := ⟨fun n => .number n.toInt⟩

instance : ToJson Int64 := ⟨fun n => .number n.toInt⟩

instance : ToJson UInt32 := ⟨fun n => .number n.toNat⟩

instance : ToJson UInt64 := ⟨fun n => .number n.toNat⟩

instance : ToJson String := ⟨.text⟩

instance {α : Type} [ToJson α] : ToJson (List α) := ⟨fun items => .list (items.map toJson)⟩

instance {α : Type} [ToJson α] : ToJson (Option α) := ⟨fun value => value.elim .null toJson⟩

/-- Bytes are shown without the zeros at their end, beside their full number. -/
instance : ToJson Bytes where
  toJson bytes :=
    let shown := (bytes.reverse.dropWhile (· == 0)).reverse
    .record "len hex" (bytes.length, Json.hexText shown)

end GpuDebug
