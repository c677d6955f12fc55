/-!
# Causes of failure

Every operation of the debugger that can fail fails with an `Error`. The constructors name the
cause; the text shown to the user is computed from it by `Error.message`.

* `Error.kind`: the name of the cause;
* `Error.message`: the text shown to the user;
* `Error.breaksContract`: the failures after which the agent can no longer be trusted.
-/

namespace GpuDebug

/-- Why an operation failed. -/
inductive Error
  /-- The text of a breakpoint location does not follow the grammar. -/
  | breakpointText (detail : String)
  /-- The text of a breakpoint condition does not follow the grammar. -/
  | conditionText (detail : String)
  /-- The arguments of the focus command do not follow the grammar. -/
  | focusText (detail : String)
  /-- A query of the debug information failed with the given code. -/
  | debugInfo (code : Int) (detail : String)
  /-- No code object with debug information is loaded. -/
  | debugInfoUnavailable
  /-- No loaded segment is flagged as executing. -/
  | noExecutingSegment
  /-- The command channel is closed. -/
  | agentNotReady
  /-- Every slot of the pending cache is taken. -/
  | cacheFull (capacity : Nat)
  /-- The agent's pipe took only part of a packet. -/
  | shortWrite (written expected : Nat)
  /-- A packet from the agent has the wrong length. -/
  | shortRead (read expected : Nat)
  /-- A record does not have the agreed form. -/
  | invalidPacket (detail : String)
  /-- A shared region could not be accessed. -/
  | sharedMemory (detail : String)
  /-- The configuration cannot be used. -/
  | configuration (detail : String)
  /-- A value could not be converted to or from text. -/
  | serialization (detail : String)
  /-- The operating system refused a read or a write. -/
  | inputOutput (detail : String)
  /-- A request that the debugger itself should never have made. -/
  | internal (detail : String)
  deriving DecidableEq, Repr, Inhabited

namespace Error

/-- The name of the cause. -/
def kind : Error → String
  | breakpointText _ => "BreakpointSyntax"
  | conditionText _ => "ConditionSyntax"
  | focusText _ => "FocusSyntax"
  | debugInfo _ _ => "DebugInfo"
  | debugInfoUnavailable => "DebugInfoUnavailable"
  | noExecutingSegment => "NoExecutingSegment"
  | agentNotReady => "AgentNotReady"
  | cacheFull _ => "CacheFull"
  | shortWrite _ _ => "ShortWrite"
  | shortRead _ _ => "ShortRead"
  | invalidPacket _ => "InvalidPacket"
  | sharedMemory _ => "SharedMemory"
  | configuration _ => "Config"
  | serialization _ => "Serialization"
  | inputOutput _ => "Io"
  | internal _ => "Internal"

/-- The text shown to the user. -/
def message : Error → String
  | breakpointText detail => s!"Invalid GPU breakpoint: {detail}"
  | conditionText detail => s!"Invalid breakpoint condition: {detail}"
  | focusText detail => s!"Invalid focus arguments: {detail}"
  | debugInfo code detail => s!"Debug information error (code {code}): {detail}"
  | debugInfoUnavailable => "Debug information is not available for the current dispatch"
  | noExecutingSegment => "No executing segment found"
  | agentNotReady => "Agent is not ready"
  | cacheFull capacity => s!"Breakpoint cache is full ({capacity} entries)"
  | shortWrite written expected => s!"Short write to agent: {written} of {expected} bytes"
  | shortRead read expected => s!"Short read from agent: {read} of {expected} bytes"
  | invalidPacket detail => s!"Invalid packet: {detail}"
  | sharedMemory detail => s!"Shared memory error: {detail}"
  | configuration detail => s!"Configuration error: {detail}"
  | serialization detail => s!"Serialization error: {detail}"
  | inputOutput detail => s!"I/O error: {detail}"
  | internal detail => s!"Internal error: {detail}"

/-- The failures that break the contract with the agent: it took or sent a record of the wrong
size, or the record does not have the agreed form. -/
def breaksContract : Error → Bool
  | shortWrite _ _ | shortRead _ _ | invalidPacket _ => true
  | _ => false

end Error

end GpuDebug
