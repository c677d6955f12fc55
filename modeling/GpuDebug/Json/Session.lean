import GpuDebug.Inbox
import GpuDebug.Json.Packets
import GpuDebug.Session.Breakpoints
import GpuDebug.StopReport

/-!
# Requests, reports and outcomes in JSON

The JSON forms of what a session takes and gives: requests for breakpoints and their outcomes, stop
reports, places in the source, failures.
-/

namespace GpuDebug

instance : ToJson Error := ⟨fun e => .record "error message" (e.kind, e.message)⟩

instance : ToJson LookupFault where
  toJson fault := .record "error code message" (fault.kind, fault.code, fault.message)

/-- A success is a record with one field, a failure is the cause. -/
instance {α ε : Type} [ToJson α] [ToJson ε] : ToJson (Except ε α) where
  toJson
    | .ok a => .record "ok" (toJson a)
    | .error e => toJson e

instance : ToJson Location where
  toJson l := match l with
    | .unknown => .record "kind" l.kind.name
    | .kernel name => .record "kind name" (l.kind.name, name)
    | .anywhere pattern => .record "kind pattern" (l.kind.name, pattern)
    | .source file line statement =>
      .record "kind file line source_line" (l.kind.name, file, line, statement)

instance : ToJson Condition where
  toJson c := .record "text code wg wi packet"
    (c.text, c.code.name, c.workGroup, c.workItem, c.toPacket)

instance : ToJson Request where
  toJson r := .record "number location kernel_name condition"
    (r.number, r.location, r.location.kernelName?, r.condition)

instance : ToJson StopReport where
  toJson r := match r with
    | .kernelEntry number kernel condition =>
      .record "lines kind number kernel condition"
        (r.lines, "KernelEntry", number, kernel, condition)
    | .breakpoint number location condition =>
      .record "lines kind number location condition"
        (r.lines, "Breakpoint", number, location, condition)
    | .sourceLine pc statement file line =>
      .record "lines kind pc source_line file line"
        (r.lines, "SourceLine", pc, statement, file, line)

instance : ToJson Resolution where
  toJson
    | .sent pc => .record "sent" pc
    | .buffered => .text "Buffered"
    | .notMapped => .text "NotMapped"

instance : ToJson FocusChange := ⟨fun c => .record "change visible" (c.name, c.isVisible)⟩

instance : ToJson Poll where
  toJson
    | .idle => .text "Idle"
    | .short count => .record "short" count
    | .packet notification => .record "packet" notification

instance : ToJson CodeLocation := ⟨fun place => .record "file line" (place.file, place.line)⟩

instance : ToJson LineRow := ⟨fun r => toJson (r.address, r.line, r.file)⟩

instance : ToJson Dispatch where
  toJson d := .record "wg grid count groups" (d.groupSize, d.gridSize, d.count, d.groupCount)

instance : ToJson Breakpoint where
  toJson b := toJson (b.number, b.pc, b.codeAddress, b.hitCount, b.enabled, b.printLocation,
    b.printCondition)

instance : ToJson AgentState where
  toJson a := toJson (a.debugging, a.activeWaves, a.predispatch.name, a.dispatchThread,
    a.debugThread, a.lastError)

end GpuDebug
