import GpuDebug.Session.State

/-!
# Setting breakpoints

A request is sent to the agent as soon as the agent can take it, and waits until then.

* `Op.resolve`: sends a request, or buffers it;
* `Op.flushPending`: sends the buffered requests that can be sent now;
* `Op.adjustAll`: resolves source breakpoints again in a new code object;
* `Op.updateStatistics`, `Op.deleteBreakpoint`, `Op.disableBreakpoint`: the other changes.
-/

namespace GpuDebug

/-- What came of handing a request to the agent. -/
inductive Resolution
  /-- Sent; source breakpoints with their process address. -/
  | sent (pc : Option UInt64)
  /-- Kept until the agent, or the debug information, is there. -/
  | buffered
  /-- The line has no code. -/
  | notMapped
  deriving DecidableEq, Repr, Inhabited

namespace Resolution

def isSent : Resolution → Bool
  | sent _ => true
  | _ => false

end Resolution

namespace Session

/-- Whether a request can be sent now. Source lines need debug information as well. -/
def readyFor (s : Session) (r : Request) : Bool :=
  s.channel.isOpen && (r.kind != .source || s.debugInfo.isAvailable)

end Session

namespace Op

/-- The request that a text makes in the session. -/
def parseBreakpoint (number : Int32) (text : String) (condition : Option String) : Op Request := do
  ofExcept ((← session).grammar.parse number text condition)

/-- The line number that a packet carries. -/
def packetLine (line : UInt64) : Except Error Int32 :=
  if line.toNat < 0x80000000 then .ok (Int32.ofNat line.toNat)
  else .error (.internal s!"line {line} does not fit a packet")

/-- The line that tells the user about a line without code. -/
def unmappedNotice (line : UInt64) (file : String) : String :=
  s!"[rocm-gdb: No line {line} in {file}]"

/-- Sends a breakpoint on a source line. There is one line table for each code object, so lines
are looked up without a file. -/
def sendSource (r : Request) (file : Option String) (line : UInt64) : Op Resolution := do
  match ← ofExcept ((← session).debugInfo.resolveLine none line) with
  | none =>
    let shown := file.getD (← session).debugInfo.activeFile
    modifyHost (·.display (unmappedNotice line shown))
    return .notMapped
  | some place =>
    match ← ofExcept ((← session).debugInfo.firstAddress place) with
    | none => return .notMapped
    | some address =>
      if (← session).segments.executing.isNone then refreshSegments
      let pc ← ofExcept ((← session).segments.toProcess address)
      let statement := (← session).debugInfo.statement place.line
      let packetLine ← ofExcept (packetLine place.line)
      send (.createSource r.number pc packetLine statement r.condition.toPacket)
      modifyHost (·.update r.number fun b =>
        { b with request := r.withStatement statement, pc := some pc, codeAddress := some address })
      return .sent (some pc)

/-- Sends a breakpoint that the agent can take. -/
def sendRequest (r : Request) : Op Resolution :=
  match r.location with
  | .kernel name | .anywhere name => do
    send (.createKernel r.number name r.condition.toPacket)
    return .sent none
  | .source file line _ => sendSource r file line
  | .unknown => throw (.internal s!"breakpoint {r.number} has no location")

/-- Buffers a request. -/
def buffer (r : Request) : Op Unit := do
  let (_, pending) ← ofExcept ((← session).pending.push r)
  modifySession ({ · with pending })

/-- Sends a request, or buffers it until the agent can take it. -/
def resolve (r : Request) : Op Resolution := do
  if (← session).readyFor r then sendRequest r
  else
    buffer r
    return .buffered

/-- Takes the request out of a slot of the pending cache. -/
def takePending (slot : Nat) : Op (Option Request) := do
  let (taken, pending) := (← session).pending.take slot
  modifySession ({ · with pending })
  return taken

/-- Drops the buffered request of a breakpoint, and says whether there was one. -/
def removePending (number : Int32) : Op Bool := do
  let (found, pending) := (← session).pending.remove number
  modifySession ({ · with pending })
  return found

/-- The failures after which no further request can be sent. -/
def stopsFlush (e : Error) : Bool :=
  e.breaksContract || e == .agentNotReady

/-- Sends the request of one slot, and says whether it was sent. If the channel broke, the request
is buffered again. -/
def flushSlot (slot : Nat) : Op Bool := do
  match ← takePending slot with
  | none => return false
  | some r =>
    match ← attempt (sendRequest r) with
    | .ok outcome => return outcome.isSent
    | .error e =>
      if stopsFlush e then
        buffer r
        throw e
      return false

/-- Sends the requests of some slots, and counts those that were sent. -/
def flushSlots : List Nat → Op Nat
  | [] => return 0
  | slot :: slots => do
    let sent ← flushSlot slot
    let others ← flushSlots slots
    return (if sent then 1 else 0) + others

/-- Sends every buffered request that can be sent now, and counts those that were sent. -/
def flushPending : Op Nat := do
  let s ← session
  flushSlots (s.pending.readySlots s.readyFor)

/-- The request of a breakpoint that was placed in an earlier code object. -/
def placedRequest? (b : Breakpoint) : Option Request :=
  if b.codeAddress.isSome && b.request.kind == .source then some b.request else none

/-- Resolves one breakpoint again, if it was placed in an earlier code object. A copy that a failed
reload buffered is dropped first. -/
def adjust (number : Int32) : Op Bool := do
  match ((← host).breakpoints.get? number).bind placedRequest? with
  | none => return false
  | some r =>
    let _ ← removePending number
    match ← attempt (resolve r) with
    | .ok _ => return true
    | .error e =>
      if e.breaksContract then throw e
      return false

/-- Resolves some breakpoints again, and counts those that could be. -/
def adjustEach : List Int32 → Op Nat
  | [] => return 0
  | number :: numbers => do
    let adjusted ← adjust number
    let others ← adjustEach numbers
    return (if adjusted then 1 else 0) + others

/-- Resolves every source breakpoint again, because addresses do not survive a new code object. -/
def adjustAll : Op Nat := do
  adjustEach (← host).breakpoints.numbers

/-- The host after one report of hits. -/
def countHits (number count : Int32) (h : Host) : Host :=
  if number < 0 then h
  else h.update number ({ · with hitCount := count.toInt.toNat })

/-- Replaces the hit counts of breakpoints by those that the agent reports. Slots that are not used
and numbers that the host does not know are passed over. -/
def updateStatistics (numbers counts : List Int32) : Op Unit :=
  modifyHost fun h => (numbers.zip counts).foldl (fun h (number, count) => countHits number count h) h

/-- Forgets a breakpoint: drops a buffered copy and tells the agent, if it listens. -/
def deleteBreakpoint (number : Int32) : Op Unit := do
  let _ ← removePending number
  if (← session).channel.isOpen then send (.delete number)

/-- Switches a breakpoint off. -/
def disableBreakpoint (number : Int32) : Op Unit := do
  send (.disable number)
  modifyHost (·.update number ({ · with enabled := false }))

end Op

end GpuDebug
