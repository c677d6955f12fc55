import GpuDebug.Error
import GpuDebug.Files
import GpuDebug.Text.Quoted

/-!
# Failures of a command

* `Error.summary`: an error as a record, with its cause by name;
* `FileFault.summary`: a fault of a file as a record;
* `Cli.Failure`: why a command fails.
-/

namespace GpuDebug

/-- The cause of an error and what it carries, on one line. -/
def Error.summary (e : Error) : String :=
  match e with
  | breakpointText detail | conditionText detail | focusText detail | invalidPacket detail
  | sharedMemory detail | configuration detail | serialization detail | internal detail =>
    Quoted.call e.kind (Quoted.text detail)
  | debugInfo code detail =>
    Quoted.record e.kind [("code", toString code), ("message", Quoted.text detail)]
  | cacheFull capacity => Quoted.record e.kind [("capacity", toString capacity)]
  | shortWrite written expected =>
    Quoted.record e.kind [("written", toString written), ("expected", toString expected)]
  | shortRead read expected =>
    Quoted.record e.kind [("read", toString read), ("expected", toString expected)]
  | inputOutput detail =>
    Quoted.call e.kind
      (Quoted.record "Custom" [("kind", "Other"), ("error", Quoted.text detail)])
  | debugInfoUnavailable | noExecutingSegment | agentNotReady => e.kind

/-- A fault of a file on one line. -/
def FileFault.summary (fault : FileFault) : String :=
  let rest := [("kind", fault.kind), ("message", Quoted.text fault.text)]
  match fault.code? with
  | some code => Quoted.record "Os" (("code", toString code) :: rest)
  | none => Quoted.record "Error" rest

namespace Cli

/-- Why a command fails. -/
inductive Failure
  | error (e : Error)
  | file (fault : FileFault)
  deriving DecidableEq, Repr

/-- The line that reports a failure. -/
def Failure.line : Failure → String
  | error e => "Error: " ++ e.summary
  | file fault => "Error: " ++ fault.summary

end Cli

end GpuDebug
