import GpuDebug.Session.Breakpoints

/-!
# Notifications from the agent

* `Op.dispatchNotification`: applies one notification to the session;
* `Op.handleEvent`: reads at most one notification and applies it;
* `Op.onNewBinary`: what a new code object sets off.
-/

namespace GpuDebug.Op

/-- Loads the code object that the agent published. -/
def loadImage : Op Loaded := do
  let s ← session
  let w ← world
  match ← ofExcept (w.memory.readImage s.config.regions.binaryImage.maxSize) with
  | none => throw .debugInfoUnavailable
  | some image =>
    let (result, debugInfo, files) := s.debugInfo.load w.files image
    modifySession ({ · with debugInfo })
    modifyWorld ({ · with files })
    ofExcept result

/-- Saves a copy of the machine code that the agent wrote to a file. -/
def saveIsa : Op Unit := do
  let isa := (← session).config.isa
  let files := (← world).files
  match files.read isa.agentPath with
  | .error fault => throw (.inputOutput fault.message)
  | .ok bytes =>
    match files.save isa.savePath bytes with
    | .error fault => throw (.inputOutput fault.message)
    | .ok files => modifyWorld ({ · with files })

/-- The line that tells the user about a code object without debug information. -/
def noDebugInfoNotice : String :=
  "The code object for the current dispatch does not contain debug information"

/-- Takes over a new code object. Whatever fails on the way to its line table and segments only
takes features away; breakpoints are then resolved again, those of the host first. -/
def onNewBinary (launch : Launch) : Op Unit := do
  modifySession fun s => { s with debugInfo := s.debugInfo.invalidate }
  let loaded ← attempt loadImage
  if loaded.toOption.isNone then notify noDebugInfoNotice
  modifySession fun s => { s with kernels := s.kernels.register launch }
  if loaded.toOption.isSome && (← session).config.isa.shown then
    let _ ← attempt saveIsa
  let _ ← attempt refreshSegments
  let _ ← adjustAll
  let _ ← flushPending

/-- The session after debugging has ended. The line table of a dispatch that is complete does not
count any more. -/
def endDebugging (completed : Bool) (s : Session) : Session :=
  { s with
    debugInfo := if completed then s.debugInfo.setUnavailable else s.debugInfo
    focus := Focus.unknown
    devices := s.devices.unsetActive
    agent := { s.agent with debugging := false, activeWaves := 0 } }

/-- Follows the focus of the agent. -/
def onFocusChange (target : Focus) : Op Unit := do
  let waves ← readWaves
  let _ ← moveFocus target waves

/-- Applies one notification. -/
def dispatchNotification : Notification → Op Unit
  | .newBinary kernel groupSize gridSize => onNewBinary ⟨kernel, groupSize, gridSize⟩
  | .predispatch state hostThread =>
    modifyAgent ({ · with predispatch := state, dispatchThread := some hostThread })
  | .startDebugThread thread => modifyAgent ({ · with debugThread := some thread })
  | .breakpointHit numbers hits activeWaves => do
    updateStatistics numbers hits
    modifyAgent ({ · with activeWaves })
  | .beginDebugging => modifyAgent ({ · with debugging := true, activeWaves := 0 })
  | .endDebugging completed => modifySession (endDebugging completed)
  | .focusChange workGroup workItem => onFocusChange ⟨workGroup, workItem⟩
  | .agentError code => do
    modifyAgent ({ · with lastError := some code })
    notify s!"Agent Error: {code}"
  | .killComplete successful =>
    if successful then modifyAgent ({ · with activeWaves := 0 })
    else notify "Could not kill waves safely"
  | .newActiveWaves count => modifyAgent ({ · with activeWaves := count })
  | .devices reported => modifySession ({ · with devices := DeviceTable.ofDevices reported })
  | .unknown _ => pure ()

/-- One read from the agent. -/
def pollInbox (inbox : Inbox) : Op Poll := do
  let (result, inbox, world) := inbox.poll (← world)
  modifySession ({ · with inbox := some inbox })
  modifyWorld fun _ => world
  ofExcept result

/-- Reads at most one notification and applies it. -/
def handleEvent : Op Poll := do
  match (← session).inbox with
  | none => return .idle
  | some inbox =>
    let outcome ← pollInbox inbox
    match outcome with
    | .idle => pure ()
    | .short count =>
      notify s!"Incomplete notification from the agent ({count} of {Notification.size} bytes)"
    | .packet notification => dispatchNotification notification
    return outcome

end GpuDebug.Op
