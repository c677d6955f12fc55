import GpuDebug.Toml.Literal
import GpuDebug.Toml.Table
import GpuDebug.Toml.Text

/-!
# Lines of configuration files

* `Toml.Statement`: what a line does;
* `Toml.value?`: the value at the start of a text;
* `Toml.statements?`: the statements of a file.

Arrays and tables in brackets nest at most 79 deep, and a path has at most 79 keys.
-/

namespace GpuDebug.Toml

/-- What a line does. -/
inductive Statement
  /-- The following values belong to this table. -/
  | table (path : Path)
  /-- The following values belong to a new table at the end of this array. -/
  | row (path : Path)
  | assign (path : Path) (value : Value)
  deriving Repr, Inhabited

/-- The greatest number of keys of a path, and of brackets around a value. -/
def depth : Nat := 79

/-! ## Keys -/

/-- The characters of keys without quotes. -/
def isBare (c : Char) : Bool :=
  c.isAlphanum || c == '_' || c == '-'

def key? (cs : List Char) : Option (String × List Char) :=
  match cs.takeWhile isBare with
  | [] => quotedLine? cs
  | bare => some (String.ofList bare, cs.dropWhile isBare)

/-- A path of at most `room` keys with points between them. -/
def pathWithin? : (room : Nat) → List Char → Option (Path × List Char)
  | 0, _ => none
  | room + 1, cs =>
    match key? (skipBlanks cs) with
    | none => none
    | some (key, rest) =>
      match skipBlanks rest with
      | '.' :: rest =>
        (pathWithin? room rest).map fun (path, rest) =>
          ({ path with tables := key :: path.tables }, rest)
      | rest => some (⟨[], key⟩, rest)

/-- The path at the start of a text, and what follows it. -/
def path? (cs : List Char) : Option (Path × List Char) :=
  pathWithin? depth cs

/-! ## Values -/

/-- The items of an array behind its opening bracket, and what follows the closing one. A comma
may stand behind the last item. -/
def items? (value? : List Char → Option (Value × List Char)) (cs : List Char) :
    Option (List Value × List Char) :=
  match skipLayout false cs with
  | ']' :: rest => some ([], rest)
  | start =>
    match value? start with
    | none => none
    | some (value, rest) =>
      match skipLayout false rest with
      | ',' :: rest =>
        if rest.length < cs.length then
          (items? value? rest).map fun (values, rest) => (value :: values, rest)
        else none
      | ']' :: rest => some ([value], rest)
      | _ => none
termination_by cs.length

/-- A path, an equals sign and a value. -/
def assignment? (value? : List Char → Option (Value × List Char)) (cs : List Char) :
    Option ((Path × Value) × List Char) :=
  match path? cs with
  | some (path, '=' :: rest) =>
    (value? (skipBlanks rest)).map fun (value, rest) => ((path, value), rest)
  | _ => none

/-- The assignments of a table in brackets, of which there is one at least, and what follows the
closing bracket. -/
def fields? (value? : List Char → Option (Value × List Char)) (cs : List Char) :
    Option (List (Path × Value) × List Char) :=
  match assignment? value? cs with
  | none => none
  | some (field, rest) =>
    match skipBlanks rest with
    | ',' :: rest =>
      if rest.length < cs.length then
        (fields? value? rest).map fun (fields, rest) => (field :: fields, rest)
      else none
    | '}' :: rest => some ([field], rest)
    | _ => none
termination_by cs.length

/-- The value at the start of a text, with at most `room` brackets around its parts, and what
follows it. -/
def valueWithin? : (room : Nat) → List Char → Option (Value × List Char)
  | room, '[' :: rest =>
    match room with
    | 0 => none
    | room + 1 => (items? (valueWithin? room) rest).map fun (values, rest) =>
      (.array .inline values, rest)
  | room, '\x7b' :: rest =>
    match room with
    | 0 => none
    | room + 1 =>
      match skipBlanks rest with
      | '\x7d' :: rest => some (.table .inline [], rest)
      | _ =>
        (fields? (valueWithin? room) rest).bind fun (fields, rest) =>
          (Entries.assignAll fields).map fun entries => (.table .inline entries, rest)
  | _, '"' :: rest => (text? ('"' :: rest)).map fun (text, rest) => (.text text, rest)
  | _, '\'' :: rest => (text? ('\'' :: rest)).map fun (text, rest) => (.text text, rest)
  | _, cs => (Literal.value? (Literal.cut cs).1).map fun value => (value, (Literal.cut cs).2)

/-- The value at the start of a text, and what follows it. -/
def value? (cs : List Char) : Option (Value × List Char) :=
  valueWithin? depth cs

/-! ## Lines -/

/-- The path of a header up to its closing brackets. -/
def header? (close : List Char) (cs : List Char) : Option (Path × List Char) :=
  (path? cs).bind fun (path, rest) =>
    if close.isPrefixOf rest then some (path, rest.drop close.length) else none

/-- The statement at the start of a text, if there is one before the line ends, and the lines
that follow. -/
def line? (cs : List Char) : Option (Option Statement × List Char) :=
  match (lineEnd? cs : Option (List Char)) with
  | some rest => some (none, rest)
  | none =>
    let statement : Option (Statement × List Char) :=
      match skipBlanks cs with
      | '[' :: '[' :: rest => (header? [']', ']'] rest).map fun (path, rest) => (.row path, rest)
      | '[' :: rest => (header? [']'] rest).map fun (path, rest) => (.table path, rest)
      | cs => (assignment? value? cs).map fun ((path, value), rest) => (.assign path value, rest)
    statement.bind fun (statement, rest) =>
      (lineEnd? rest).map fun rest => (some statement, rest)

/-- The statements of the lines of a text. -/
def lines? (cs : List Char) : Option (List Statement) :=
  if cs.isEmpty then some []
  else
    match line? cs with
    | none => none
    | some (statement, rest) =>
      if rest.length < cs.length then
        (lines? rest).map fun statements => statement.toList ++ statements
      else none
termination_by cs.length

/-- The statements of a file, which may start with a byte order mark. -/
def statements? : List Char → Option (List Statement)
  | '\uFEFF' :: cs => lines? cs
  | cs => lines? cs

end GpuDebug.Toml
