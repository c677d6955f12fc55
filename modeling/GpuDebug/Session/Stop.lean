import GpuDebug.Session.State
import GpuDebug.StopReport

/-!
# Why the device stopped

* `Session.entryReport?`: the report for a stop before any wave ran;
* `Session.waveReport?`: the report for one live wave;
* `Op.reportStop`: works out the reason and tells the user.

Of several waves the first one with something to report counts, in the order of the wave table.
-/

namespace GpuDebug

namespace Session

/-- The report for a stop at the entry to the active kernel: a breakpoint on this kernel comes
before one on every kernel. -/
def entryReport? (s : Session) (breakpoints : BreakpointTable) : Option StopReport := do
  let kernel ← s.kernels.activeName?
  let b ← breakpoints.entries.find? (·.request.location == .kernel kernel) <|>
    breakpoints.entries.find? (·.request.kind == .anywhere)
  return .kernelEntry b.number kernel b.printCondition

/-- The breakpoint at a process address, that of the least number if there are several. -/
def breakpointAt? (breakpoints : BreakpointTable) (pc : UInt64) : Option Breakpoint :=
  breakpoints.entries.find? (·.pc == some pc)

/-- The report for a wave that stands on no breakpoint. -/
def lineReport? (s : Session) (pc : UInt64) : Option StopReport := do
  let address ← (s.segments.toCode pc).toOption
  let (line, file) ← s.debugInfo.pcInfo address
  if line = 0 then none
  else return .sourceLine pc (s.debugInfo.statement line) (Path.baseName file) line

/-- The report for a live wave, and the focus that it asks for. A wave on a breakpoint whose
condition it does not satisfy gives none. -/
def waveReport? (s : Session) (breakpoints : BreakpointTable) (w : Wave) :
    Option (StopReport × Option Focus) :=
  match breakpointAt? breakpoints w.pc with
  | some b =>
    let c := b.request.condition
    if c.admits w.workGroup then
      let focus := if c.code = .equal then some ⟨c.workGroup, c.workItem⟩ else none
      some (.breakpoint b.number b.printLocation b.printCondition, focus)
    else none
  | none => (s.lineReport? w.pc).map (·, none)

/-- The focus for a wave that the user did not choose: its first lane that executes. -/
def firstFocus (w : Wave) : Focus :=
  ⟨w.workGroup, (w.firstActiveItem? <|> w.workItems.head?).getD Dim.zero⟩

end Session

namespace Op

/-- Moves the focus without a word, and says whether the user should be told. -/
def moveFocusSilently (target : Focus) (waves : List Wave) : Op Bool := do
  let (change, focus) := (← session).focus.move target waves
  modifySession ({ · with focus })
  return change.isVisible

/-- The report for the first of some waves that has one. An unknown focus goes to the first wave,
and a condition takes the focus to its coordinates. -/
def reportWaves (first : Wave) (waves : List Wave) : Op (Option StopReport) := do
  let moved ← if (← session).focus.isUnknown then moveFocusSilently (Session.firstFocus first) waves
    else pure false
  let s ← session
  let breakpoints := (← host).breakpoints
  let found := waves.findSome? (s.waveReport? breakpoints)
  let movedAgain ← match found.bind (·.2) with
    | some target => moveFocusSilently target waves
    | none => pure false
  if moved || movedAgain then notify (← session).focus.announcement
  return found.map (·.1)

/-- The report for the current stop, if there is something to report. -/
def findReport : Op (Option StopReport) := do
  match ← readWaves with
  | [] =>
    let s ← session
    if s.agent.predispatch = .entered then return s.entryReport? (← host).breakpoints
    else return none
  | first :: others => reportWaves first (first :: others)

/-- Works out why the device stopped and tells the user. -/
def reportStop : Op (Option StopReport) := do
  let report ← findReport
  match report with
  | some r => r.lines.forM notify
  | none => pure ()
  return report

end Op

end GpuDebug
