/-!
# Numerals

Numbers in the grammars and listings, in any radix up to sixteen.

* `Numeral.digit?`: the value of a digit;
* `Numeral.value?`: the number that a sequence of digits denotes;
* `Numeral.hex`: the hexadecimal digits of a number, in lower case;
* `Numeral.padLeft`, `Numeral.padRight`: a text filled up to a width.
-/

namespace GpuDebug.Numeral

/-- The value of a digit below `radix`, letters in either case. -/
def digit? (radix : Nat) (c : Char) : Option Nat :=
  let value :=
    if '0' ≤ c && c ≤ '9' then c.toNat - '0'.toNat
    else if 'a' ≤ c && c ≤ 'f' then c.toNat - 'a'.toNat + 10
    else if 'A' ≤ c && c ≤ 'F' then c.toNat - 'A'.toNat + 10
    else 16
  if value < radix && value < 16 then some value else none

/-- The number denoted by more digits after those of `start`. -/
def extend? (radix : Nat) : (start : Nat) → List Char → Option Nat
  | start, [] => some start
  | start, c :: cs =>
    match digit? radix c with
    | some d => extend? radix (start * radix + d) cs
    | none => none

/-- The number denoted by a non-empty sequence of digits. -/
def value? (radix : Nat) : List Char → Option Nat
  | [] => none
  | digits@(_ :: _) => extend? radix 0 digits

/-- The character of a digit below sixteen. -/
def hexDigit (value : Nat) : Char :=
  if value < 10 then Char.ofNat ('0'.toNat + value) else Char.ofNat ('a'.toNat + (value - 10))

/-- The `width` lowest hexadecimal digits. -/
def hexLow : (width : Nat) → Nat → List Char
  | 0, _ => []
  | width + 1, n => hexLow width (n / 16) ++ [hexDigit (n % 16)]

/-- The hexadecimal digits of a number, at least one. -/
def hex (n : Nat) : String :=
  String.ofList (hexLow (n.log2 / 4 + 1) n)

/-- The text with `fill` before it up to `width` characters. -/
def padLeft (fill : Char) (width : Nat) (s : String) : String :=
  String.ofList (List.replicate (width - s.length) fill) ++ s

/-- The text with spaces behind it up to `width` characters. -/
def padRight (width : Nat) (s : String) : String :=
  s ++ String.ofList (List.replicate (width - s.length) ' ')

end GpuDebug.Numeral
