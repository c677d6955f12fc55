import GpuDebug.Log
import GpuDebug.Memory

/-!
# Configuration

Every setting has a default that agrees with what the agent does by itself.

* `Config`: the settings of a session;
* `Config.standard`: the settings where nothing is configured.
-/

namespace GpuDebug

/-- The key and the largest size of a shared region. -/
structure RegionConfig where
  key : Int32
  maxSize : Nat
  deriving DecidableEq, Repr, Inhabited

/-- The paths of the two pipes. -/
structure PipePaths where
  toAgent : String
  fromAgent : String
  deriving DecidableEq, Repr

/-- The agent writes the machine code of a code object to a file, which can be saved. -/
structure IsaConfig where
  /-- Save the file after every new code object. -/
  shown : Bool
  agentPath : String
  savePath : String
  deriving DecidableEq, Repr

/-- The functions of the agent that are called by evaluating expressions. -/
structure AgentFunctions where
  setFocus : String
  kill : String
  deriving DecidableEq, Repr

/-- The settings of a session. -/
structure Config where
  /-- The literal that every breakpoint location starts with. -/
  marker : String
  /-- How many requests can wait. -/
  pendingCapacity : Nat
  /-- Where kernel text is saved. -/
  dumpPath : String
  /-- Ask the agent to log everything. -/
  agentLogging : Bool
  /-- While this variable is set, the agent's logging is never switched off. -/
  loggingVariable : String
  pipes : PipePaths
  regions : PerRegion RegionConfig
  isa : IsaConfig
  functions : AgentFunctions
  logging : LogSettings
  deriving DecidableEq, Repr

namespace PipePaths

def standard : PipePaths := ⟨"fifo-gdb-w", "fifo-agent-w"⟩

instance : Inhabited PipePaths := ⟨standard⟩

end PipePaths

namespace IsaConfig

def standard : IsaConfig := ⟨false, "hsail_isa_dump.txt", "temp_isa"⟩

instance : Inhabited IsaConfig := ⟨standard⟩

end IsaConfig

namespace AgentFunctions

def standard : AgentFunctions := ⟨"SetHsailThreadCmdInfo", "KillHsailDebug"⟩

instance : Inhabited AgentFunctions := ⟨standard⟩

end AgentFunctions

namespace RegionConfig

def mebibyte : Nat := 1024 * 1024

/-- The regions as the agent creates them. -/
def standard : PerRegion RegionConfig where
  binaryImage := ⟨1234, 8 * mebibyte⟩
  waveInfo := ⟨2222, 4 * mebibyte⟩
  loadMap := ⟨3333, mebibyte⟩
  momentaryBreakpoints := ⟨4444, mebibyte⟩

end RegionConfig

namespace Config

def standard : Config where
  marker := "rocm"
  pendingCapacity := 1024
  dumpPath := "temp_source"
  agentLogging := false
  loggingVariable := "ROCM_GDB_ENABLE_LOG"
  pipes := PipePaths.standard
  regions := RegionConfig.standard
  isa := IsaConfig.standard
  functions := AgentFunctions.standard
  logging := LogSettings.hosted

instance : Inhabited Config := ⟨standard⟩

/-- The largest sizes of the regions. -/
def limits (c : Config) : PerRegion Nat :=
  c.regions.map (·.maxSize)

/-- Whether the agent's logging must stay on. -/
def forcesLogging (c : Config) (environment : List String) : Bool :=
  environment.contains c.loggingVariable

end Config

end GpuDebug
