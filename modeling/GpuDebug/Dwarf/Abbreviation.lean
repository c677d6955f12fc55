import GpuDebug.Dwarf.Scan

/-!
# Abbreviations

An entry of a unit starts with the code of an abbreviation, which says what attributes follow and
in which form.

* `AttributeShape`, `Abbreviation`: one attribute, and all attributes of an entry;
* `Abbreviation.readTable`: the abbreviations of a unit.
-/

namespace GpuDebug.Dwarf

open Scan

/-- The name and the form of an attribute, and its value if the abbreviation carries that. -/
structure AttributeShape where
  name : Nat
  form : Nat
  constant? : Option Int
  deriving DecidableEq, Repr, Inhabited

/-- The attributes of the entries with some code. -/
structure Abbreviation where
  code : Nat
  attributes : List AttributeShape
  deriving DecidableEq, Repr, Inhabited

namespace AttributeShape

/-- The form whose value stands in the abbreviation. -/
def implicitForm : Nat := 0x21

/-- The shape of the next attribute, unless the list ends here. -/
def read : Scan (Option AttributeShape) := do
  let name ← unsigned16
  let form ← unsigned16
  if name = 0 then
    if form = 0 then return none else throw .badAbbreviation
  else if form = 0 then throw .badAbbreviation
  else if form = implicitForm then return some ⟨name, form, some (← Scan.signed)⟩
  else return some ⟨name, form, none⟩

/-- Shapes up to the end of their list; each has at least two bytes. -/
def readAll : (fuel : Nat) → Scan (List AttributeShape)
  | 0 => throw .truncated
  | fuel + 1 => do
    match ← read with
    | none => return []
    | some shape => return shape :: (← readAll fuel)

end AttributeShape

namespace Abbreviation

/-- The next abbreviation, unless the table ends here. -/
def read : Scan (Option Abbreviation) := do
  let code ← unsigned
  if code = 0 then return none
  let tag ← unsigned16
  let children ← u8
  if tag = 0 || 1 < children then throw .badAbbreviation
  return some ⟨code, ← AttributeShape.readAll (← get).length⟩

/-- Abbreviations up to the end of their table. -/
def readAll : (fuel : Nat) → Scan (List Abbreviation)
  | 0 => throw .truncated
  | fuel + 1 => do
    match ← read with
    | none => return []
    | some abbreviation => return abbreviation :: (← readAll fuel)

/-- Whether no code occurs twice. -/
def codesDiffer : List Abbreviation → Bool
  | [] => true
  | a :: others => others.all (·.code != a.code) && codesDiffer others

/-- A table of abbreviations with different codes. -/
def readTable : Scan (List Abbreviation) := do
  let table ← readAll ((← get).length + 1)
  if codesDiffer table then return table else throw .badAbbreviation

end Abbreviation

end GpuDebug.Dwarf
