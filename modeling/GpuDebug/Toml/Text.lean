import GpuDebug.Text.Numeral

/-!
# Texts and layout in configuration files

A text stands in double quotes, with escapes, or in single quotes, as it is; three quotes instead
of one admit line ends.

* `Toml.skipBlanks`, `Toml.skipLayout`: what may stand between the parts of a line, and between
  the items of an array;
* `Toml.lineEnd?`: the rest of a line behind its last part;
* `Toml.text?`: the text that is written in quotes.
-/

namespace GpuDebug.Toml

/-! ## Layout -/

/-- The characters between the parts of a line. -/
def isSpace (c : Char) : Bool :=
  c == ' ' || c == '\t'

/-- The characters of comments and, but for quotes and backslashes, of texts. -/
def isPrinting (c : Char) : Bool :=
  c == '\t' || (' ' ≤ c && c ≤ '~') || 0x80 ≤ c.toNat

def skipBlanks (cs : List Char) : List Char :=
  cs.dropWhile isSpace

/-- What follows a line end. -/
def newline? : List Char → Option (List Char)
  | '\n' :: rest => some rest
  | '\r' :: '\n' :: rest => some rest
  | _ => none

/-- What follows the end of a line: blanks, a comment and a line end, all of which may be missing
where the file ends. -/
def lineEnd? (cs : List Char) : Option (List Char) :=
  let rest :=
    match skipBlanks cs with
    | '#' :: rest => rest.dropWhile isPrinting
    | rest => rest
  if rest.isEmpty then some [] else newline? rest

/-- Passes over blanks, line ends and comments. -/
def skipLayout (comment : Bool) : List Char → List Char
  | [] => []
  | '\n' :: rest => skipLayout false rest
  | '\r' :: '\n' :: rest => skipLayout false rest
  | c :: rest =>
    if comment then
      if isPrinting c then skipLayout true rest else c :: rest
    else if isSpace c then skipLayout false rest
    else if c = '#' then skipLayout true rest
    else c :: rest

/-! ## Texts -/

/-- The marks around a text. -/
structure Quotes where
  /-- The mark, a single or a double quote. -/
  mark : Char
  /-- Whether the mark is written three times, so that the text may have many lines. -/
  tripled : Bool
  deriving DecidableEq, Repr

namespace Quotes

/-- The end of a text: the marks that still belong to it, and what follows. Up to two marks may
stand before a closing triple. -/
def closing? (q : Quotes) (cs : List Char) : Option (List Char × List Char) :=
  let marks := min (if q.tripled then 5 else 1) (cs.takeWhile (· == q.mark)).length
  let close := if q.tripled then 3 else 1
  if marks < close then none else some (List.replicate (marks - close) q.mark, cs.drop marks)

/-- Whether a character stands for itself, apart from quotes and backslashes. -/
def admits (q : Quotes) (c : Char) : Bool :=
  isPrinting c || (q.tripled && c == '\n')

end Quotes

/-- The character that a letter behind a backslash stands for. -/
def escape? : Char → Option Char
  | 'b' => some '\x08'
  | 't' => some '\t'
  | 'n' => some '\n'
  | 'f' => some '\x0c'
  | 'r' => some '\r'
  | '"' => some '"'
  | '\\' => some '\\'
  | _ => none

/-- The character with the given number in hexadecimal digits. -/
def codePoint? (digits : List Char) : Option Char :=
  match Numeral.value? 16 digits with
  | some n => if n.isValidChar then some (Char.ofNat n) else none
  | none => none

/-- A text with one more character before it. -/
def prepend? (c : Option Char) (text : Option (List Char × List Char)) :
    Option (List Char × List Char) :=
  match c, text with
  | some c, some (cs, rest) => some (c :: cs, rest)
  | _, _ => none

/-- The text up to the closing marks, and what follows them. A backslash at the end of a line
joins the next lines to it: while `joining`, blanks and line ends are passed over. -/
def escaped? (q : Quotes) (joining : Bool) : List Char → Option (List Char × List Char)
  | [] => none
  | c :: rest =>
    match q.closing? (c :: rest) with
    | some result => some result
    | none =>
      if c = '\\' then
        if q.tripled && (newline? (skipBlanks rest)).isSome then escaped? q true rest
        else
          match rest with
          | 'u' :: h₁ :: h₂ :: h₃ :: h₄ :: rest =>
            prepend? (codePoint? [h₁, h₂, h₃, h₄]) (escaped? q false rest)
          | 'U' :: h₁ :: h₂ :: h₃ :: h₄ :: h₅ :: h₆ :: h₇ :: h₈ :: rest =>
            prepend? (codePoint? [h₁, h₂, h₃, h₄, h₅, h₆, h₇, h₈]) (escaped? q false rest)
          | c :: rest => prepend? (escape? c) (escaped? q false rest)
          | [] => none
      else if q.tripled && c == '\r' && rest.head? == some '\n' then escaped? q joining rest
      else if !q.admits c then none
      else if joining && (isSpace c || c == '\n') then escaped? q true rest
      else prepend? (some c) (escaped? q false rest)

/-- The text up to the closing marks as it is, and what follows them. -/
def verbatim? (q : Quotes) : List Char → Option (List Char × List Char)
  | [] => none
  | c :: rest =>
    match q.closing? (c :: rest) with
    | some result => some result
    | none =>
      if q.tripled && c == '\r' && rest.head? == some '\n' then verbatim? q rest
      else if q.admits c then prepend? (some c) (verbatim? q rest)
      else none

/-- The text behind its opening marks. -/
def quoted? (q : Quotes) (cs : List Char) : Option (String × List Char) :=
  let cs := if q.tripled then (newline? cs).getD cs else cs
  let text := if q.mark = '"' then escaped? q false cs else verbatim? q cs
  text.map fun (cs, rest) => (String.ofList cs, rest)

/-- The text that stands in single marks. -/
def quotedLine? : List Char → Option (String × List Char)
  | '"' :: rest => quoted? ⟨'"', false⟩ rest
  | '\'' :: rest => quoted? ⟨'\'', false⟩ rest
  | _ => none

/-- The text that is written in quotes at the start of `cs`, and what follows it. -/
def text? : List Char → Option (String × List Char)
  | '"' :: '"' :: '"' :: rest => quoted? ⟨'"', true⟩ rest
  | '\'' :: '\'' :: '\'' :: rest => quoted? ⟨'\'', true⟩ rest
  | cs => quotedLine? cs

end GpuDebug.Toml
