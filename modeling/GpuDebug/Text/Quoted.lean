import GpuDebug.Text.Numeral
import GpuDebug.Text.Visible

/-!
# Quoted texts and records

* `Quoted.text`: a text between quotes, on one line;
* `Quoted.record`: a record with named fields, on one line;
* `Quoted.call`: a name with values behind it, on one line.
-/

namespace GpuDebug.Quoted

/-- A character inside quotes. Quotes, backslashes and hidden characters are escaped. -/
def escape (c : Char) : List Char :=
  if c = '"' then ['\\', '"']
  else if c = '\\' then ['\\', '\\']
  else if c = '\n' then ['\\', 'n']
  else if c = '\r' then ['\\', 'r']
  else if c = '\t' then ['\\', 't']
  else if c = '\x00' then ['\\', '0']
  else if Visible.isHidden c then
    '\\' :: 'u' :: '\x7b' :: (Numeral.hex c.toNat).toList ++ ['\x7d']
  else [c]

/-- A text between quotes. -/
def text (s : String) : String :=
  "\"" ++ String.ofList (s.toList.flatMap escape) ++ "\""

/-- A record with named fields. -/
def record (name : String) (fields : List (String × String)) : String :=
  name ++ " \x7b " ++ ", ".intercalate (fields.map fun (field, value) => field ++ ": " ++ value) ++
    " \x7d"

/-- A name with one value behind it. -/
def call (name value : String) : String :=
  name ++ "(" ++ value ++ ")"

/-- Values in brackets. -/
def list (values : List String) : String :=
  "[" ++ ", ".intercalate values ++ "]"

end GpuDebug.Quoted
