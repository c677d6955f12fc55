import GpuDebug.Breakpoint.Listing

/-!
# Stop reports

* `StopReport`: why the device stopped;
* `StopReport.lines`: the lines shown to the user.
-/

namespace GpuDebug

/-- Why the device stopped. -/
inductive StopReport
  /-- At the entry to a kernel, before any wave ran. -/
  | kernelEntry (number : Int32) (kernel : String) (condition : Option String)
  /-- On a breakpoint, given as in a listing. -/
  | breakpoint (number : Int32) (location : String) (condition : Option String)
  /-- At a source line without a breakpoint. -/
  | sourceLine (pc : UInt64) (statement : String) (file : String) (line : UInt64)
  deriving DecidableEq, Repr, Inhabited

namespace StopReport

def lines : StopReport → List String
  | kernelEntry number kernel condition =>
    let tail := match condition with
      | some text => " " ++ text
      | none => ""
    [s!"Breakpoint {number} at GPU Kernel, {kernel}(){tail}"]
  | breakpoint number location condition =>
    s!"Breakpoint {number} at {location}" ::
      (condition.map fun text => s!"Condition: {text}").toList
  | sourceLine pc statement file line =>
    [Breakpoint.addressColumn pc.toNat ++ s!"\t {statement} {file}@line {line}"]

end StopReport

end GpuDebug
