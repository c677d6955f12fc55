/-!
# Log settings

* `LogSettings`: where the log goes and what its lines carry;
* `LogLevel.ofName`: the level that a name stands for.
-/

namespace GpuDebug

/-- The least grave events that are logged. -/
inductive LogLevel
  | trace
  | debug
  | info
  | warn
  | error
  deriving DecidableEq, Repr, Inhabited

namespace LogLevel

def name : LogLevel → String
  | trace => "TRACE"
  | debug => "DEBUG"
  | info => "INFO"
  | warn => "WARN"
  | error => "ERROR"

/-- The level that a name stands for, in any case; every other name stands for `warn`. No
character outside ASCII has a lower case among the letters of the names. -/
def ofName (name : String) : LogLevel :=
  let name := name.map Char.toLower
  if name = "trace" then trace
  else if name = "debug" then debug
  else if name = "info" then info
  else if name = "error" then error
  else warn

end LogLevel

/-- Where the log goes and what its lines carry. -/
structure LogSettings where
  /-- Log to the standard error stream. -/
  toConsole : Bool
  /-- Log to the file at `path`. -/
  toFile : Bool
  path : String
  timestamps : Bool
  /-- Show the place in the program that logs. -/
  places : Bool
  /-- Show the part of the program that logs. -/
  targets : Bool
  colors : Bool
  level : String
  deriving DecidableEq, Repr

namespace LogSettings

/-- Warnings, on the console. -/
def console : LogSettings where
  toConsole := true
  toFile := false
  path := "wavepoint.log"
  timestamps := true
  places := false
  targets := true
  colors := false
  level := "warn"

instance : Inhabited LogSettings := ⟨console⟩

/-- For work on the debugger itself. -/
def debugging : LogSettings :=
  { console with level := "debug", places := true }

/-- For a debugger that runs inside another one and has to leave the console to it. -/
def hosted : LogSettings :=
  { console with toConsole := false, toFile := true }

def withFile (s : LogSettings) (path : String) : LogSettings :=
  { s with toFile := true, path }

def withLevel (s : LogSettings) (level : String) : LogSettings :=
  { s with level }

end LogSettings

end GpuDebug
