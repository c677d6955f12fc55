import GpuDebug.Dim
import GpuDebug.Text.Blank
import GpuDebug.Text.Numeral

/-!
# Coordinate arguments

Conditions and focus commands name coordinates as `wg:1,2,3`.

* `Dim.component?`: one component at the start of a text;
* `Dim.components?`: three components at the start of a text;
* `Dim.argument?`: the coordinate behind a name, somewhere in a text.

Only the first occurrence of the name counts. Blanks may stand around the colon and before the
commas and components; what follows the third component is not looked at.
-/

namespace GpuDebug.Dim

/-- The largest component. -/
def largest : Nat := 0x7FFFFFFF

/-- A run of decimal digits at the start of a text, after blanks, and what follows it. -/
def component? (cs : List Char) : Option (Int32 × List Char) :=
  let body := Text.trimStart cs
  match Numeral.value? 10 (body.takeWhile Char.isDigit) with
  | some n => if n ≤ largest then some (Int32.ofNat n, body.dropWhile Char.isDigit) else none
  | none => none

/-- A component behind a comma. -/
def nextComponent? (cs : List Char) : Option (Int32 × List Char) :=
  (Text.after? [','] (Text.trimStart cs)).bind component?

/-- Three components with commas between them. -/
def components? (cs : List Char) : Option Dim := do
  let (x, cs) ← component? cs
  let (y, cs) ← nextComponent? cs
  let (z, _) ← nextComponent? cs
  return ⟨x, y, z⟩

/-- The coordinate behind the first occurrence of `name` and a colon. An empty name needs no
colon. -/
def argument? (text name : String) : Option Dim :=
  let name := Text.trimStart name.toList
  match Text.cut? name text.toList with
  | none => none
  | some (_, rest) =>
    if name.isEmpty then components? rest
    else (Text.after? [':'] (Text.trimStart rest)).bind components?

end GpuDebug.Dim
