import GpuDebug.Session.Breakpoints

/-!
# The course of a session

* `Op.attachInbox`, `Op.attachFile`: the first stage, listening to the agent;
* `Op.openChannel`, `Op.openFile`: the second stage, commanding the agent;
* `Op.setAgentLogging`, `Op.killWaves`, `Op.switchFocus`, `Op.selectDispatchThread`: what users ask
  for;
* `Op.close`, `Op.cleanUp`: the end.
-/

namespace GpuDebug.Op

/-- Starts listening to the agent. -/
def attachInbox (inbox : Inbox) : Op Unit :=
  modifySession ({ · with inbox := some inbox })

/-- Starts listening to the agent through the configured file. -/
def attachFile : Op Unit := do
  let path := (← session).config.pipes.fromAgent
  attachInbox (← ofExcept (Inbox.onFile (← world).files path))

/-- Switches the agent's logging. While the logging variable is set it is never switched off. The
choice is kept for a channel that is opened later. -/
def setAgentLogging (enabled : Bool) : Op Unit := do
  let config := (← session).config
  if !enabled && config.forcesLogging (← world).environment then
    notify s!"Agent logging stays on while {config.loggingVariable} is set"
  else
    modifySession fun s => { s with config := { s.config with agentLogging := enabled } }
    if (← session).channel.isOpen then
      send (.setLogging (if enabled then .enableAll else .disableAll))

/-- Starts commanding the agent: the buffered requests go out. Gives the number of those sent. -/
def openChannel (channel : Channel) : Op Nat := do
  modifySession ({ · with channel, kernels := KernelCatalog.empty })
  let config := (← session).config
  if config.agentLogging || config.forcesLogging (← world).environment then setAgentLogging true
  flushPending

/-- Starts commanding the agent through the configured file. -/
def openFile : Op Nat := do
  let path := (← session).config.pipes.toAgent
  openChannel (← ofExcept (Channel.onFile (← world).files path))

/-- Asks the agent to kill every live wave, and says whether there was one. -/
def killWaves (quits : Bool) : Op Bool := do
  let s ← session
  if !s.agent.debugging || s.agent.activeWaves = 0 then return false
  let flag := if quits then 1 else 0
  evaluate s!"{s.config.functions.kill}({flag})"
  return true

/-- The expression that moves the focus of the debugged program. -/
def focusExpression (function : String) (f : Focus) : String :=
  s!"{function}({f.workGroup},{f.workItem})"

/-- Moves the focus of the debugged program and of the debugger, if the target executes. -/
def switchFocus (arguments : String) : Op FocusChange := do
  let target ← ofExcept (Focus.parse arguments)
  let waves ← readWaves
  if !Wave.isActive waves target.workGroup target.workItem then
    notify "work-group and work-item provided not active"
    return .rejected
  evaluate (focusExpression (← session).config.functions.setFocus target)
  moveFocus target waves

/-- Selects the host thread that launched the dispatch, and says whether it exists. -/
def selectDispatchThread : Op Bool := do
  match (← session).agent.dispatchThread with
  | none => return false
  | some thread =>
    let (found, host) := (← host).select thread
    modifyHost fun _ => host
    return found

/-- Closes both channels, removes their files and the shared regions, and forgets the code
object. -/
def close : Op Unit := do
  let s ← session
  let paths := s.channel.path.toList ++ (s.inbox.bind (·.path)).toList
  modifyWorld fun w =>
    { w with files := paths.foldl Files.remove w.files, memory := w.memory.removeAll }
  modifySession ({ · with
    channel := s.channel.close
    inbox := none
    segments := SegmentTable.empty
    debugInfo := s.debugInfo.invalidate })

/-- Forgets what belongs to a debugged program that has ended. -/
def cleanUp : Op Unit :=
  modifySession ({ · with kernels := KernelCatalog.empty })

end GpuDebug.Op
