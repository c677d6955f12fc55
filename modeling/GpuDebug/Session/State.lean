import GpuDebug.Breakpoint.Grammar
import GpuDebug.Breakpoint.Pending
import GpuDebug.Channel
import GpuDebug.Config
import GpuDebug.DebugInfo
import GpuDebug.Focus
import GpuDebug.Host
import GpuDebug.Inbox
import GpuDebug.Kernels
import GpuDebug.Segment

/-!
# The state of a debugger

A `Debugger` is a session with the agent, the host that it serves and the world around both.
Operations are programs over this state that may fail; what was done before a failure stays done.

* `AgentState`: what the agent reported last;
* `Session`: everything that a session remembers;
* `Debugger`, `Op`: the whole state, and operations on it;
* `attempt`: an operation whose failure is its result;
* `notify`, `send`, `readWaves`: what most operations need.
-/

namespace GpuDebug

/-- What the agent reported last. -/
structure AgentState where
  /-- Set between the start and the end of debugging. -/
  debugging : Bool
  activeWaves : UInt32
  predispatch : PredispatchState
  /-- The host thread that launched the dispatch. -/
  dispatchThread : Option Int32
  debugThread : Option Int32
  lastError : Option Int32
  deriving DecidableEq, Repr

namespace AgentState

/-- Nothing was reported. -/
def silent : AgentState where
  debugging := false
  activeWaves := 0
  predispatch := .unknown
  dispatchThread := none
  debugThread := none
  lastError := none

instance : Inhabited AgentState := ⟨silent⟩

end AgentState

/-- Everything that a session remembers. -/
structure Session where
  config : Config
  debugInfo : DebugInfo
  segments : SegmentTable
  pending : Pending
  channel : Channel
  inbox : Option Inbox
  kernels : KernelCatalog
  focus : Focus
  devices : DeviceTable
  agent : AgentState

namespace Session

/-- A new session: both channels are closed and nothing is loaded. -/
def ofConfig (config : Config) (reader : ImageReader) : Session where
  config := config
  debugInfo := DebugInfo.empty reader config.dumpPath
  segments := SegmentTable.empty
  pending := Pending.ofCapacity config.pendingCapacity
  channel := Channel.closed
  inbox := none
  kernels := KernelCatalog.empty
  focus := Focus.unknown
  devices := DeviceTable.empty
  agent := AgentState.silent

/-- The grammar of breakpoint locations in the session. -/
def grammar (s : Session) : Grammar :=
  ⟨s.config.marker, s.debugInfo.activeFile⟩

end Session

/-- A session, its host and the world around both. -/
structure Debugger where
  session : Session
  host : Host
  world : World

/-- An operation. What it did before it failed stays done. -/
abbrev Op (α : Type) := EStateM Error Debugger α

namespace Op

/-- Runs an operation whose failure is its result. -/
def attempt {α : Type} (op : Op α) : Op (Except Error α) := fun d =>
  match op d with
  | .ok a d => .ok (.ok a) d
  | .error e d => .ok (.error e) d

/-- A value, or the failure to have it. -/
def ofExcept {α : Type} : Except Error α → Op α
  | .ok a => pure a
  | .error e => throw e

def session : Op Session := do
  return (← get).session

def world : Op World := do
  return (← get).world

def host : Op Host := do
  return (← get).host

def modifySession (f : Session → Session) : Op Unit :=
  modify fun d => { d with session := f d.session }

def modifyWorld (f : World → World) : Op Unit :=
  modify fun d => { d with world := f d.world }

def modifyHost (f : Host → Host) : Op Unit :=
  modify fun d => { d with host := f d.host }

def modifyAgent (f : AgentState → AgentState) : Op Unit :=
  modifySession fun s => { s with agent := f s.agent }

/-- What stands before the lines shown to the user. -/
def noticeMark : String := "[ROCm-gdb]: "

/-- Shows a line to the user. -/
def notify (text : String) : Op Unit :=
  modifyHost (·.display (noticeMark ++ text))

/-- Sends a command to the agent. -/
def send (command : Command) : Op Unit := do
  let (result, channel, world) := (← session).channel.send (← world) command
  modifySession ({ · with channel })
  modifyWorld fun _ => world
  ofExcept result

/-- The live waves. While no wave is reported the region is not looked at. -/
def readWaves : Op (List Wave) := do
  let count := (← session).agent.activeWaves.toNat
  if count = 0 then return []
  match (← world).memory.read .waveInfo with
  | some raw => ofExcept (Wave.decodeTable raw count)
  | none => return []

/-- Reads the load map that the agent publishes now. -/
def refreshSegments : Op Unit := do
  let segments ← ofExcept (SegmentTable.ofRegion ((← world).memory.read .loadMap))
  modifySession ({ · with segments })

/-- Moves the focus, and announces the new one. -/
def moveFocus (target : Focus) (waves : List Wave) : Op FocusChange := do
  let (change, focus) := (← session).focus.move target waves
  modifySession ({ · with focus })
  if change.isVisible then notify focus.announcement
  return change

/-- Evaluates an expression in the debugged program. -/
def evaluate (expression : String) : Op Unit := do
  let host ← ofExcept ((← host).evaluate expression)
  modifyHost fun _ => host

end Op

end GpuDebug
