import GpuDebug.Text.Numeral
import GpuDebug.Toml.Value

/-!
# Literals of configuration files

A literal is a value without quotes or brackets: a truth value, a number, a date or a time.

* `Literal.cut`: the literal at the start of a text, and what follows it;
* `Literal.value?`: the value of a literal.
-/

namespace GpuDebug.Toml.Literal

/-! ## Integers -/

/-- The digits without their underscores, each of which must stand between two digits. -/
def ungrouped? : List Char → Option (List Char)
  | [] => some []
  | c :: rest =>
    if c = '_' then none
    else
      match rest with
      | '_' :: d :: rest => if d = '_' then none else (ungrouped? (d :: rest)).map (c :: ·)
      | rest => (ungrouped? rest).map (c :: ·)

/-- The number with the given digits, of which there must be one. -/
def digits? (radix : Nat) (cs : List Char) : Option Nat :=
  (ungrouped? cs).bind (Numeral.value? radix)

/-- The number with the given decimal digits, which do not start with a superfluous zero. -/
def decimal? (cs : List Char) : Option Nat :=
  match cs with
  | '0' :: _ :: _ => none
  | cs => digits? 10 cs

/-- Whether a minus stands before a number, and what stands behind the sign. -/
def signed : List Char → Bool × List Char
  | '-' :: rest => (true, rest)
  | '+' :: rest => (false, rest)
  | rest => (false, rest)

/-- One more than the greatest integer of 64 bits. -/
def integerBound : Nat := 0x8000000000000000

/-- The integer of 64 bits that a literal denotes. -/
def integer? (cs : List Char) : Option Int :=
  let unsigned : Option Nat → Option Int := fun n =>
    n.bind fun n => if n < integerBound then some n else none
  match cs with
  | '0' :: 'x' :: rest => unsigned (digits? 16 rest)
  | '0' :: 'o' :: rest => unsigned (digits? 8 rest)
  | '0' :: 'b' :: rest => unsigned (digits? 2 rest)
  | cs =>
    match signed cs with
    | (false, rest) => unsigned (decimal? rest)
    | (true, rest) => (decimal? rest).bind fun n => if n ≤ integerBound then some (-n) else none

/-! ## Fractions -/

/-- The least number that is nearer to 2^1024 than to the greatest finite number of 64 bits, or
as near. -/
def tooLarge : Nat := Nat.pow 2 1024 - Nat.pow 2 970

/-- Whether `digits * 10 ^ exponent` is below `tooLarge`. The first and the last case spare the
computation of powers that cannot matter. -/
def isFinite (digits : Nat) (exponent : Int) : Bool :=
  let width : Int := (Nat.toDigits 10 digits).length
  if digits = 0 || width + exponent < 300 then true
  else if 320 < width + exponent then false
  else digits * Nat.pow 10 exponent.toNat < tooLarge * Nat.pow 10 (-exponent).toNat

def isDigit (c : Char) : Bool :=
  c.isDigit || c == '_'

/-- The exponent behind a number, zero if none is written. -/
def exponent? : List Char → Option Int
  | [] => some 0
  | c :: rest =>
    if c = 'e' || c = 'E' then
      let (negative, rest) := signed rest
      (digits? 10 rest).map fun n => if negative then -n else n
    else none

/-- Whether a literal is a number with a fraction or an exponent, infinite or none at all. A
positive number must be finite. -/
def isFraction (cs : List Char) : Bool :=
  let (negative, cs) := signed cs
  if cs = "inf".toList || cs = "nan".toList then true
  else
    let whole := cs.takeWhile isDigit
    match decimal? whole, cs.dropWhile isDigit with
    | none, _ | some _, [] => false
    | some _, '.' :: rest =>
      let part := rest.takeWhile isDigit
      match digits? 10 part, exponent? (rest.dropWhile isDigit) with
      | some _, some exponent =>
        let places := (part.filter Char.isDigit).length
        let digits := (Numeral.value? 10 ((whole ++ part).filter Char.isDigit)).getD 0
        negative || isFinite digits (exponent - places)
      | _, _ => false
    | some digits, rest =>
      match exponent? rest with
      | some exponent => negative || isFinite digits exponent
      | none => false

/-! ## Dates and times -/

/-- The number with the given decimal digits, if it lies within bounds. -/
def within? (low high : Nat) (cs : List Char) : Option Nat :=
  (Numeral.value? 10 cs).filter fun n => low ≤ n && n ≤ high

/-- The number of days of a month. -/
def monthLength (year month : Nat) : Nat :=
  if month = 2 then
    if year % 4 = 0 && (year % 100 ≠ 0 || year % 400 = 0) then 29 else 28
  else if month = 4 || month = 6 || month = 9 || month = 11 then 30
  else 31

def isDate : List Char → Bool
  | [y₁, y₂, y₃, y₄, '-', m₁, m₂, '-', d₁, d₂] =>
    match within? 0 9999 [y₁, y₂, y₃, y₄], within? 1 12 [m₁, m₂] with
    | some year, some month => (within? 1 (monthLength year month) [d₁, d₂]).isSome
    | _, _ => false
  | _ => false

/-- What follows the hour and the minute of a time. -/
def afterMinute? : List Char → Option (List Char)
  | h₁ :: h₂ :: ':' :: m₁ :: m₂ :: rest =>
    if (within? 0 23 [h₁, h₂]).isSome && (within? 0 59 [m₁, m₂]).isSome then some rest else none
  | _ => none

/-- What follows a time of day, whose last minute may have 61 seconds. -/
def afterTime? (cs : List Char) : Option (List Char) :=
  match afterMinute? cs with
  | some (':' :: s₁ :: s₂ :: rest) =>
    if (within? 0 60 [s₁, s₂]).isNone then none
    else
      match rest with
      | '.' :: c :: rest => if c.isDigit then some (rest.dropWhile Char.isDigit) else none
      | rest => some rest
  | _ => none

/-- Whether a text is nothing, or the distance from the time of the zero meridian. -/
def isOffset : List Char → Bool
  | [] => true
  | c :: rest =>
    if c = 'Z' || c = 'z' then rest.isEmpty
    else (c = '+' || c = '-') && afterMinute? rest == some []

/-- Whether a literal is a date, a time, or a date and a time. -/
def isMoment (cs : List Char) : Bool :=
  isDate cs || afterTime? cs == some [] ||
    match cs.drop 10 with
    | c :: rest =>
      isDate (cs.take 10) && (c = 'T' || c = 't' || c = ' ') &&
        (afterTime? rest).any isOffset
    | [] => false

/-! ## Literals -/

/-- The value of a literal. -/
def value? (cs : List Char) : Option Value :=
  if cs = "true".toList then some (.boolean true)
  else if cs = "false".toList then some (.boolean false)
  else
    match integer? cs with
    | some n => some (.integer n)
    | none =>
      if isFraction cs then some (.fraction (String.ofList cs))
      else if isMoment cs then some (.moment (String.ofList cs))
      else none

def isLiteral (c : Char) : Bool :=
  c.isAlphanum || c == '+' || c == '-' || c == '_' || c == '.' || c == ':'

/-- The literal at the start of a text, and what follows it. A space may stand between a date
and a time. -/
def cut (cs : List Char) : List Char × List Char :=
  let word := cs.takeWhile isLiteral
  match cs.dropWhile isLiteral with
  | ' ' :: c :: rest =>
    if isDate word && c.isDigit then
      (word ++ ' ' :: (c :: rest).takeWhile isLiteral, (c :: rest).dropWhile isLiteral)
    else (word, ' ' :: c :: rest)
  | rest => (word, rest)

end GpuDebug.Toml.Literal
