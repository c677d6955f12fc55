import GpuDebug.Text.Blank
import GpuDebug.Text.Numeral

/-!
# Integer literals

Line numbers are written like unsigned integer literals in C: `0x` or `0X` before hexadecimal
digits, a leading `0` before octal ones, decimal digits otherwise. Blanks may surround the
literal; signs may not. A literal of 2^64 or more is none.

* `CInteger.value?`: the number that a text denotes.
-/

namespace GpuDebug.CInteger

/-- The radix of a literal and the digits behind its mark. -/
def digits : List Char → Nat × List Char
  | '0' :: 'x' :: rest => (16, rest)
  | '0' :: 'X' :: rest => (16, rest)
  | '0' :: c :: rest => (8, c :: rest)
  | cs => (10, cs)

/-- The number that a text denotes, if it is a literal below 2^64. -/
def value? (cs : List Char) : Option UInt64 :=
  let (radix, ds) := digits (Text.trim cs)
  match Numeral.value? radix ds with
  | some n => if n < UInt64.size then some (UInt64.ofNat n) else none
  | none => none

end GpuDebug.CInteger
