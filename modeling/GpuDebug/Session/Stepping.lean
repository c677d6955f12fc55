import GpuDebug.Momentary
import GpuDebug.Session.State

/-!
# Stepping

A step plants momentary breakpoints at every address where it may end and lets the dispatch run.

* `StepKind`: into, over or out of the current line;
* `Op.currentPc`: where the wave in focus stands;
* `Op.step`: plants the breakpoints of one step.
-/

namespace GpuDebug

/-- The kind of a step. -/
inductive StepKind
  | into
  | over
  | out
  deriving DecidableEq, Repr, Inhabited

namespace Op

/-- The address, inside the code object, of the wave in focus, or of the first wave if none is in
focus; zero while no wave is live. -/
def currentPc : Op UInt64 := do
  let waves ← readWaves
  let s ← session
  match s.focus.wave? waves <|> waves.head? with
  | some w => ofExcept (s.segments.toCode w.pc)
  | none => return 0

/-- Lets the stopped dispatch run. -/
def continueDispatch : Op Unit :=
  send .continueDispatch

/-- The kind of step that is made at an address: before the first line has been reached a step over
it is a step into it. -/
def effectiveKind (kind : StepKind) (pc : UInt64) : StepKind :=
  if pc = 0 && kind = .over then .into else kind

/-- Where a step may end. -/
def stepAddresses (table : LineTable) (kind : StepKind) (pc : UInt64) :
    Except LookupFault (List UInt64) :=
  match kind with
  | .into => .ok table.mapped
  | .over => table.stepTargets pc false
  | .out => table.stepTargets pc true

/-- The momentary breakpoint at an address. -/
def momentaryAt (table : LineTable) (address : UInt64) : Momentary :=
  match table.locate address with
  | .ok place => ⟨address, place.line⟩
  | .error _ => ⟨address, 0⟩

/-- Writes momentary breakpoints to shared memory. The region must stay larger than the table. -/
def publishMomentary (entries : List Momentary) : Op Unit := do
  let table := Momentary.encodeTable entries
  let limit := (← session).config.regions.momentaryBreakpoints.maxSize
  if limit ≤ table.length then
    throw (.sharedMemory <|
      s!"{entries.length} step addresses need {table.length} bytes, " ++
        s!"momentary region holds {limit}")
  let memory ← ofExcept ((← world).memory.write .momentaryBreakpoints table)
  modifyWorld ({ · with memory })

/-- Tells the agent of `count` momentary breakpoints and lets the dispatch run. -/
def startStep (count : Nat) : Op Nat := do
  if 0x80000000 ≤ count then throw (.internal s!"{count} momentary breakpoints")
  send (.momentary (Int32.ofNat count))
  continueDispatch
  return count

/-- Gives a step up, with a word to the user. -/
def abandonStep (text : String) : Op Nat := do
  notify text
  return 0

/-- Plants the breakpoints of one step in a line table. -/
def plantStep (table : LineTable) (kind : StepKind) (pc : UInt64) (count : UInt32) : Op Nat := do
  if count != 1 then
    notify "Only single steps are currently supported, converting to single step"
  match stepAddresses table kind pc with
  | .error fault => throw fault.error
  | .ok [] => abandonStep "Could not perform GPU step"
  | .ok addresses =>
    publishMomentary (addresses.map (momentaryAt table))
    startStep addresses.length

/-- Makes one source step, and gives the number of breakpoints planted for it. Without debug
information, or without a line to step from, the step is given up. -/
def step (kind : StepKind) (count : UInt32) : Op Nat := do
  let pc ← currentPc
  let kind := effectiveKind kind pc
  let d := (← session).debugInfo
  match if d.isAvailable then d.table else none with
  | none => abandonStep "could not perform GPU step"
  | some table =>
    if kind != .into && pc = 0 then abandonStep "could not perform GPU step"
    else plantStep table kind pc count

end Op

end GpuDebug
