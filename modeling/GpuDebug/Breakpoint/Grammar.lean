import GpuDebug.Breakpoint.Request
import GpuDebug.Text.CInteger

/-!
# The grammar of breakpoint locations

A location starts with a fixed marker. Behind a colon follow a kernel name, a line of the active
file, or a file and a line; nothing but the marker means every kernel. A condition may stand
behind the location, after the word `if`.

* `Grammar.claims`: whether a text is meant as such a location at all;
* `Grammar.parseLocation`: the location that a text names;
* `Grammar.parse`: the request that a text makes.
-/

namespace GpuDebug

/-- The two texts that the grammar depends on. -/
structure Grammar where
  /-- The literal that every location starts with. -/
  marker : String
  /-- The file of a location that gives a line only. -/
  activeFile : String
  deriving DecidableEq, Repr

/-- What is wrong with the text of a location. -/
inductive LocationFault
  | noMarker
  | noColon
  | badLine
  | manyColons
  deriving DecidableEq, Repr

namespace LocationFault

def description : LocationFault → String
  | noMarker => "missing prefix"
  | noColon => "expected ':' after prefix"
  | badLine => "invalid line number"
  | manyColons => "too many ':' separators"

/-- The error for a faulty text. -/
def error (fault : LocationFault) (text : String) : Error :=
  .breakpointText s!"{fault.description}: \"{text}\""

end LocationFault

namespace Grammar

/-- Whether a text is meant as a location on the device. -/
def claims (g : Grammar) (text : String) : Bool :=
  (Text.after? g.marker.toList (Text.trimStart text.toList)).isSome

/-- The location named behind the colon. -/
def parseTarget (g : Grammar) (rest : List Char) : Except LocationFault Location :=
  if rest.isEmpty then .ok (.anywhere Location.anyKernel)
  else
    match CInteger.value? rest with
    | some line => .ok (.source (some g.activeFile) line none)
    | none =>
      match Text.cut? [':'] rest with
      | none => .ok (.kernel (String.ofList (Text.trimEnd rest)))
      | some (file, line) =>
        if Text.holds [':'] line then .error .manyColons
        else
          match CInteger.value? line with
          | none => .error .badLine
          | some line =>
            let file := Text.trim file
            .ok (.source (if file.isEmpty then none else some (String.ofList file)) line none)

/-- The location that a text names, or what is wrong with it. -/
def location (g : Grammar) (cs : List Char) : Except LocationFault Location :=
  match Text.after? g.marker.toList (Text.trimStart cs) with
  | none => .error .noMarker
  | some rest =>
    let rest := Text.trimStart rest
    if rest.isEmpty then .ok (.anywhere Location.anyKernel)
    else
      match Text.after? [':'] rest with
      | none => .error .noColon
      | some rest => g.parseTarget (Text.trimStart rest)

def parseLocation (g : Grammar) (text : String) : Except Error Location :=
  match g.location text.toList with
  | .ok location => .ok location
  | .error fault => .error (fault.error text)

/-- Splits a condition off a text: it starts at the first `if` between blanks. -/
def splitCondition (text : String) : String × Option String :=
  match Text.cut? " if ".toList text.toList with
  | some (location, rest) =>
    (String.ofList location, some (String.ofList (Text.trimStart (" if ".toList ++ rest))))
  | none => (text, none)

/-- The request that a text makes. A separate condition replaces one in the text. -/
def parse (g : Grammar) (number : Int32) (text : String) (condition : Option String) :
    Except Error Request := do
  let (locationText, inline) := splitCondition text
  let location ← g.parseLocation locationText
  let condition ← Condition.parse (condition <|> inline)
  return ⟨number, condition, location⟩

end Grammar

end GpuDebug
