import GpuDebug.Text.Path
import GpuDebug.Wire.Bytes

/-!
# Files

The debugger reads a few files and saves others. A store of files is a finite table from places to
files and directories, below one working directory.

* `FileFault`: why a file cannot be used, with the texts of the operating system;
* `Files.find`: where a path leads;
* `Files.read`, `Files.write`, `Files.touch`, `Files.remove`: whole files;
* `Files.writeAt`, `Files.readAt`: a file that stays open;
* `Files.save`: a file that is read-only afterwards.

Nothing exists outside the working directory.
-/

namespace GpuDebug

/-- Why a file cannot be used. -/
inductive FileFault
  | notFound
  | isDirectory
  | notDirectory
  | nameTooLong
  | zeroInName
  /-- Any other fault that the operating system reports. -/
  | other (code : Nat) (text : String)
  deriving DecidableEq, Repr, Inhabited

namespace FileFault

/-- The number that the operating system gives the fault, if the fault comes from there. -/
def code? : FileFault → Option Nat
  | notFound => some 2
  | isDirectory => some 21
  | notDirectory => some 20
  | nameTooLong => some 36
  | zeroInName => none
  | other code _ => some code

/-- The class of the fault. -/
def kind : FileFault → String
  | notFound => "NotFound"
  | isDirectory => "IsADirectory"
  | notDirectory => "NotADirectory"
  | nameTooLong => "InvalidFilename"
  | zeroInName => "InvalidInput"
  | other code _ => if code = 13 then "PermissionDenied" else "Uncategorized"

def text : FileFault → String
  | notFound => "No such file or directory"
  | isDirectory => "Is a directory"
  | notDirectory => "Not a directory"
  | nameTooLong => "File name too long"
  | zeroInName => "file name contained an unexpected NUL byte"
  | other _ text => text

/-- The text with the number behind it. -/
def message (fault : FileFault) : String :=
  match fault.code? with
  | some code => s!"{fault.text} (os error {code})"
  | none => fault.text

end FileFault

/-- What a place holds. -/
inductive Node
  | file (bytes : Bytes) (readOnly : Bool)
  | directory
  deriving DecidableEq, Repr, Inhabited

/-- A place: the names on the way from the working directory. -/
abbrev Place := List String

/-- The files and directories below the working directory. -/
structure Files where
  nodes : List (Place × Node)
  deriving DecidableEq, Repr

namespace Files

def empty : Files := ⟨[]⟩

instance : Inhabited Files := ⟨empty⟩

/-- What a place holds; the working directory itself is a directory. -/
def node? (fs : Files) (place : Place) : Option Node :=
  if place.isEmpty then some .directory else fs.nodes.lookup place

/-- Puts a node at a place, over what was there. -/
def put (fs : Files) (place : Place) (node : Node) : Files :=
  ⟨(place, node) :: fs.nodes.filter (·.1 != place)⟩

/-- Follows the names of a path from a directory. Only the last name may lead to nothing. -/
def walk (fs : Files) (here : Place) : List String → Except FileFault Place
  | [] => .ok here
  | name :: rest =>
    if name = ".." then walk fs here.dropLast rest
    else
      let next := here ++ [name]
      match fs.node? next with
      | some .directory => walk fs next rest
      | some (.file _ _) => if rest.isEmpty then .ok next else .error .notDirectory
      | none => if rest.isEmpty then .ok next else .error .notFound

/-- The longest name, in bytes. -/
def longestName : Nat := 255

/-- Whether a path can only name a directory. -/
def namesDirectory (path : String) : Bool :=
  match (Path.split path.toList).getLast? with
  | some last => last.isEmpty || last == ['.']
  | none => false

/-- Where a path leads, and what is there. -/
def find (fs : Files) (path : String) : Except FileFault (Place × Option Node) := do
  if path.toList.contains '\x00' then throw .zeroInName
  if path.isEmpty || path.toList.head? = some '/' then throw .notFound
  let names := Path.components path
  if names.any fun name => longestName < name.utf8ByteSize then throw .nameTooLong
  let place ← fs.walk [] names
  match fs.node? place with
  | some (.file bytes readOnly) =>
    if namesDirectory path then throw .notDirectory
    else return (place, some (.file bytes readOnly))
  | found => return (place, found)

/-- Whether a path leads to a file or directory, which can then be opened for reading. -/
def openForReading (fs : Files) (path : String) : Except FileFault Unit := do
  let (_, node) ← fs.find path
  if node.isNone then throw .notFound

/-- The bytes of a file. -/
def read (fs : Files) (path : String) : Except FileFault Bytes := do
  match ← fs.find path with
  | (_, some (.file bytes _)) => return bytes
  | (_, some .directory) => throw .isDirectory
  | (_, none) => throw .notFound

/-- Whether a file is read-only, if there is one. -/
def isReadOnly (fs : Files) (path : String) : Bool :=
  match fs.find path with
  | .ok (_, some (.file _ readOnly)) => readOnly
  | _ => false

/-- Replaces a file or creates it. The access rights of a file that exists are kept. -/
def write (fs : Files) (path : String) (bytes : Bytes) : Except FileFault Files := do
  match ← fs.find path with
  | (place, some (.file _ readOnly)) => return fs.put place (.file bytes readOnly)
  | (_, some .directory) => throw .isDirectory
  | (place, none) =>
    if namesDirectory path then throw .isDirectory
    else return fs.put place (.file bytes false)

/-- Replaces a file or creates it, and makes it read-only. -/
def save (fs : Files) (path : String) (bytes : Bytes) : Except FileFault Files := do
  match ← (← fs.write path bytes).find path with
  | (place, _) => return fs.put place (.file bytes true)

/-- Creates an empty file where there is nothing and a file can be. -/
def touch (fs : Files) (path : String) : Files :=
  match fs.find path with
  | .ok (_, none) => (fs.write path []).toOption.getD fs
  | _ => fs

/-- Removes a file; a directory stays. -/
def remove (fs : Files) (path : String) : Files :=
  match fs.find path with
  | .ok (place, some (.file _ _)) => ⟨fs.nodes.filter (·.1 != place)⟩
  | _ => fs

/-- Whether a file that exists can be opened for writing. -/
def openForWriting (fs : Files) (path : String) : Except FileFault Unit := do
  match ← fs.find path with
  | (_, some (.file _ _)) => return ()
  | (_, some .directory) => throw .isDirectory
  | (_, none) => throw .notFound

/-- Writes into an open file at an offset; a gap before the offset is filled with zeros. -/
def writeAt (fs : Files) (path : String) (offset : Nat) (bytes : Bytes) : Files :=
  match fs.find path with
  | .ok (place, some (.file previous readOnly)) =>
    let front := Wire.padTo offset (previous.take offset)
    fs.put place (.file (front ++ bytes ++ previous.drop (offset + bytes.length)) readOnly)
  | _ => fs

/-- Up to `most` bytes of an open file from an offset on. -/
def readAt (fs : Files) (path : String) (offset most : Nat) : Except FileFault Bytes := do
  return ((← fs.read path).drop offset).take most

/-- The directories on the way to a place, the outermost first. -/
def ancestors (place : Place) : List Place :=
  (List.range place.length).filterMap fun n => if n = 0 then none else some (place.take n)

/-- Puts a file at a path, with every directory on the way to it. -/
def provide (fs : Files) (path : String) (bytes : Bytes) : Files :=
  let place := Path.components path
  let withParents := (ancestors place).foldl (fun fs parent => fs.put parent .directory) fs
  match withParents.write path bytes with
  | .ok written => written
  | .error _ => withParents

end Files

end GpuDebug
