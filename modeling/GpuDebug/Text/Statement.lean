import GpuDebug.Text.Blank
import GpuDebug.Text.Utf8

/-!
# Statements

The agent is sent the text of a source line, cut to its first statement.

* `Statement.nthLine?`: a line of a text, counted from one;
* `Statement.extract`: the first statement of a text.
-/

namespace GpuDebug.Statement

/-- The first line of a text, and the text behind its end if it has one. A carriage return
before the line feed belongs to the end. -/
def firstLine : List Char → List Char × Option (List Char)
  | [] => ([], none)
  | '\n' :: rest => ([], some rest)
  | '\r' :: '\n' :: rest => ([], some rest)
  | c :: rest =>
    let (line, after) := firstLine rest
    (c :: line, after)

/-- Line `index` of a text, counted from zero. Nothing behind the last line end is no line. -/
def lineAt? : (index : Nat) → List Char → Option (List Char)
  | _, [] => none
  | 0, cs => some (firstLine cs).1
  | index + 1, cs => (firstLine cs).2.bind (lineAt? index)

/-- Line `line` of a text, counted from one. -/
def nthLine? (line : Nat) (cs : List Char) : Option (List Char) :=
  match line with
  | 0 => none
  | index + 1 => lineAt? index cs

/-- Whether a character ends a line. -/
def isLineEnd (c : Char) : Bool :=
  c == '\n' || c == '\r'

/-- The text up to its first semicolon, that one included. -/
def throughSemicolon : List Char → List Char
  | [] => []
  | ';' :: _ => [';']
  | c :: cs => c :: throughSemicolon cs

/-- The most bytes of a statement. -/
def limit : Nat := 255

/-- The first statement of a text: blanks before it are dropped, it ends at the first semicolon or
line end, has at most `limit` bytes, and is a blank if nothing is left. -/
def extract (cs : List Char) : List Char :=
  let line := (Text.trimStart cs).takeWhile (!isLineEnd ·)
  match Utf8.fitting (throughSemicolon line) limit with
  | [] => [' ']
  | statement => statement

end GpuDebug.Statement
