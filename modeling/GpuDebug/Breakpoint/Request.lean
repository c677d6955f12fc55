import GpuDebug.Breakpoint.Condition

/-!
# Breakpoint requests

A request is what the user asked for, before any address is known.

* `Location`: the target of a breakpoint;
* `Request`: a target, a condition and the host's number of the breakpoint;
* `Request.sameTarget`: when two requests name one target.
-/

namespace GpuDebug

/-- The kind of a target. -/
inductive LocationKind
  | unknown
  | kernel
  | source
  | anywhere
  deriving DecidableEq, Repr, Inhabited

namespace LocationKind

def name : LocationKind → String
  | unknown => "Unknown"
  | kernel => "KernelFunction"
  | source => "SourceLocation"
  | anywhere => "AnyLocation"

end LocationKind

/-- The target of a breakpoint. -/
inductive Location
  | unknown
  /-- The entry to every dispatch of one kernel. -/
  | kernel (name : String)
  /-- A source line; `statement` is its text, once the line was resolved. -/
  | source (file : Option String) (line : UInt64) (statement : Option String)
  /-- The entry to every dispatch. -/
  | anywhere (pattern : String)
  deriving DecidableEq, Repr, Inhabited

namespace Location

/-- The kernel name that stands for every kernel. -/
def anyKernel : String := "*"

def kind : Location → LocationKind
  | unknown => .unknown
  | kernel _ => .kernel
  | source .. => .source
  | anywhere _ => .anywhere

/-- The kernel name that is sent to the agent, for a breakpoint on the entry of a kernel. -/
def kernelName? : Location → Option String
  | kernel name => some name
  | anywhere pattern => some pattern
  | _ => none

/-- The same target: the same kernel name, the same pattern, or the same file and line. The
statement does not count. -/
def sameTarget : Location → Location → Bool
  | unknown, unknown => true
  | kernel a, kernel b => a == b
  | anywhere a, anywhere b => a == b
  | source file line _, source file' line' _ => line == line' && file == file'
  | _, _ => false

end Location

/-- What the user asked for. -/
structure Request where
  /-- The host's number of the breakpoint, `-1` once the request is cleared. -/
  number : Int32
  condition : Condition
  location : Location
  deriving DecidableEq, Repr

namespace Request

def kind (r : Request) : LocationKind :=
  r.location.kind

/-- A request without a target. -/
def isUnknown (r : Request) : Bool :=
  r.kind == .unknown

/-- The request that is left after another one was cleared. -/
def cleared : Request := ⟨-1, Condition.cleared, .unknown⟩

instance : Inhabited Request := ⟨cleared⟩

def sameTarget (r s : Request) : Bool :=
  r.location.sameTarget s.location

/-- The request for a source line with the text of the line filled in. -/
def withStatement (r : Request) (statement : String) : Request :=
  match r.location with
  | .source file line _ => { r with location := .source file line (some statement) }
  | _ => r

end Request

end GpuDebug
