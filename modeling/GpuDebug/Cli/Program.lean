import GpuDebug.Breakpoint.Grammar
import GpuDebug.Breakpoint.Listing
import GpuDebug.Cli.Arguments
import GpuDebug.Cli.Failure
import GpuDebug.Config.File
import GpuDebug.Json.Printer
import GpuDebug.Packet.Capture
import GpuDebug.Segment.Listing

/-!
# The program for the command line

The program shows how a location is understood, what a capture of notifications holds, and which
segments are loaded.

* `Cli.describe`: the lines about the text of a location;
* `Cli.Surroundings`: what the program can do to its surroundings;
* `Cli.run`: the whole program, for any surroundings;
* `Cli.Surroundings.files`: surroundings that are a store of files and shared memory.
-/

namespace GpuDebug.Cli

/-! ## Locations -/

/-- The lines that show the target of a request. -/
def locationLines : Location → List String
  | .kernel name => ["kernel:    " ++ name]
  | .anywhere pattern => ["pattern:   " ++ pattern]
  | .source file line _ =>
    ["file:      " ++ file.getD Breakpoint.unknownFile, s!"line:      {line}"]
  | .unknown => []

/-- The target of a request in JSON. -/
def locationJson : Location → Json
  | .kernel name => .fields [("kernel", toJson name)]
  | .anywhere pattern => .fields [("any", toJson pattern)]
  | .source file line _ => .fields [("file", toJson file), ("line", toJson line)]
  | .unknown => .null

/-- A request as lines. -/
def requestLines (r : Request) : List String :=
  ["kind:      " ++ r.kind.name] ++ locationLines r.location ++
    ["condition: " ++ (Breakpoint.ofRequest r).printCondition.getD "none"]

/-- A request in JSON, its fields in alphabetical order. -/
def requestJson (r : Request) : Json :=
  .fields
    [("condition", toJson (Breakpoint.ofRequest r).printCondition),
      ("kind", toJson r.kind.name), ("location", locationJson r.location)]

/-- The lines about the text of a location. -/
def describe (g : Grammar) (text : String) (condition : Option String) (asJson : Bool) :
    Except Error (List String) :=
  if !g.claims text then .ok [s!"Not a GPU breakpoint (expected prefix \"{g.marker}\")"]
  else
    (g.parse 1 text condition).map fun r =>
      if asJson then [(requestJson r).pretty] else requestLines r

/-! ## The program -/

/-- What the program can do to its surroundings. -/
structure Surroundings (m : Type → Type) where
  read : (path : String) → m (Except FileFault Bytes)
  /-- Opens a log, which creates an empty file where there is none; it does not matter if that
  fails. -/
  touch : (path : String) → m Unit
  /-- The load map in the region with the given settings. -/
  loadMap : RegionConfig → m (Option Bytes)

/-- What a run shows. -/
structure Outcome where
  code : UInt32
  output : List String
  errors : List String
  deriving DecidableEq, Repr

namespace Outcome

def ofLines : Except Failure (List String) → Outcome
  | .ok lines => ⟨0, lines, []⟩
  | .error failure => ⟨1, [], [failure.line]⟩

/-- A line on how to use the program. -/
def usage : String :=
  "Usage: wavepoint [--config FILE] parse-breakpoint|decode-notifications|loadmap"

def ofRefusal : Refusal → Outcome
  | .helpWanted => ⟨0, [usage], []⟩
  | .versionWanted => ⟨0, ["wavepoint 0.1.0"], []⟩
  | .wrongUsage detail => ⟨2, [], ["error: " ++ detail, usage]⟩

end Outcome

variable {m : Type → Type} [Monad m]

/-- The configuration to use. -/
def configuration (s : Surroundings m) : Option String → m (Except Error Config)
  | none => pure (.ok Config.standard)
  | some path => Config.ofContent <$> s.read path

/-- Makes sure that there is a file for the log, if the log goes to a file. -/
def prepareLog (s : Surroundings m) (settings : LogSettings) : m Unit :=
  if settings.toFile && settings.path != "" then s.touch settings.path else pure ()

/-- The lines that a command shows. -/
def execute (s : Surroundings m) (c : Config) : Command → m (Except Failure (List String))
  | .parseBreakpoint text condition activeFile asJson =>
    pure ((describe ⟨c.marker, activeFile⟩ text condition asJson).mapError .error)
  | .decodeNotifications file => do
    match ← s.read file with
    | .error fault => return .error (.file fault)
    | .ok bytes => return (Capture.lines bytes).mapError .error
  | .loadMap => do
    let region ← s.loadMap c.regions.loadMap
    return ((SegmentTable.ofRegion region).map SegmentTable.listing).mapError .error

/-- The whole program. The configuration is read before the log is prepared, and the log is
prepared before the command does anything. -/
def run (s : Surroundings m) (arguments : List String) : m Outcome := do
  match Invocation.parse arguments with
  | .error refusal => return Outcome.ofRefusal refusal
  | .ok invocation =>
    match ← configuration s invocation.config with
    | .error e => return Outcome.ofLines (.error (.error e))
    | .ok c =>
      prepareLog s c.logging
      return Outcome.ofLines (← execute s c invocation.command)

/-- Surroundings that are a store of files and shared memory. -/
def Surroundings.files (memory : SharedMemory) : Surroundings (StateM Files) where
  read path := return (← get).read path
  touch path := modify (·.touch path)
  loadMap _ := return memory.read .loadMap

end GpuDebug.Cli
