/-!
# File paths

* `Path.components`: the names in a path, in order;
* `Path.fileName?`: the last name of a path;
* `Path.baseName`: the last name, or the path itself if it has none.

Empty names and the name `.` do not count. A path that ends in `..` has no file name.
-/

namespace GpuDebug.Path

/-- Cuts a text at every slash. -/
def split : List Char → List (List Char)
  | [] => [[]]
  | c :: cs =>
    if c = '/' then [] :: split cs
    else
      match split cs with
      | front :: others => (c :: front) :: others
      | [] => [[c]]

/-- The names in a path. -/
def components (path : String) : List String :=
  ((split path.toList).map String.ofList).filter fun name => name != "" && name != "."

/-- The last name of a path. -/
def fileName? (path : String) : Option String :=
  match (components path).getLast? with
  | some name => if name = ".." then none else some name
  | none => none

/-- The last name of a path, or the path itself if it has none. -/
def baseName (path : String) : String :=
  (fileName? path).getD path

end GpuDebug.Path
