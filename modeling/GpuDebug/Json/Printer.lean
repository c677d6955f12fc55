import GpuDebug.Json

/-!
# Writing JSON

* `Json.escape`: a character inside a text;
* `Json.compact`: a value on one line, without blanks;
* `Json.pretty`: a value on several lines, two spaces deeper at each level.

Both write behind a text that is given, so that a long value is written in one pass.
-/

namespace GpuDebug.Json

/-- A character inside a text. Only quotes, backslashes and control characters are escaped. -/
def escape (c : Char) : List Char :=
  if c = '"' then ['\\', '"']
  else if c = '\\' then ['\\', '\\']
  else if c = '\n' then ['\\', 'n']
  else if c = '\r' then ['\\', 'r']
  else if c = '\t' then ['\\', 't']
  else if c = '\x08' then ['\\', 'b']
  else if c = '\x0c' then ['\\', 'f']
  else if c.toNat < 0x20 then '\\' :: 'u' :: Numeral.hexLow 4 c.toNat
  else [c]

/-- A text between quotes. -/
def quote (s : String) : String :=
  "\"" ++ String.ofList (s.toList.flatMap escape) ++ "\""

mutual

/-- Writes a value on one line behind `front`. -/
def compactAfter (front : String) : Json → String
  | .null => front ++ "null"
  | .bool value => front ++ (if value then "true" else "false")
  | .number value => front ++ toString value
  | .text value => front ++ quote value
  | .list items => compactItems (front ++ "[") "" items ++ "]"
  | .fields entries => compactFields (front ++ "\x7b") "" entries ++ "\x7d"

/-- Writes items with commas between them; `mark` stands before the first one. -/
def compactItems (front mark : String) : List Json → String
  | [] => front
  | item :: items => compactItems (compactAfter (front ++ mark) item) "," items

/-- Writes fields with commas between them; `mark` stands before the first one. -/
def compactFields (front mark : String) : List (String × Json) → String
  | [] => front
  | (name, value) :: entries =>
    compactFields (compactAfter (front ++ mark ++ quote name ++ ":") value) "," entries

end

/-- A value on one line. -/
def compact (value : Json) : String :=
  compactAfter "" value

/-- The start of a new line at a level. -/
def newLine (level : Nat) : String :=
  "\n" ++ String.ofList (List.replicate (2 * level) ' ')

mutual

/-- Writes a value behind `front`; what it contains is one level deeper than `level`. -/
def prettyAfter (front : String) (level : Nat) : Json → String
  | .list (item :: items) =>
    prettyItems (front ++ "[") "" (level + 1) (item :: items) ++ newLine level ++ "]"
  | .fields (entry :: entries) =>
    prettyFields (front ++ "\x7b") "" (level + 1) (entry :: entries) ++ newLine level ++ "\x7d"
  | .list [] => front ++ "[]"
  | .fields [] => front ++ "\x7b\x7d"
  | .null => front ++ "null"
  | .bool value => front ++ (if value then "true" else "false")
  | .number value => front ++ toString value
  | .text value => front ++ quote value

/-- Writes items on lines of their own; `mark` stands before the first one. -/
def prettyItems (front mark : String) (level : Nat) : List Json → String
  | [] => front
  | item :: items =>
    prettyItems (prettyAfter (front ++ mark ++ newLine level) level item) "," level items

/-- Writes fields on lines of their own; `mark` stands before the first one. -/
def prettyFields (front mark : String) (level : Nat) : List (String × Json) → String
  | [] => front
  | (name, value) :: entries =>
    let start := front ++ mark ++ newLine level ++ quote name ++ ": "
    prettyFields (prettyAfter start level value) "," level entries

end

/-- A value on several lines. -/
def pretty (value : Json) : String :=
  prettyAfter "" 0 value

end GpuDebug.Json
