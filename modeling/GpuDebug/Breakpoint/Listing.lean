import GpuDebug.Breakpoint.Request
import GpuDebug.Text.Numeral

/-!
# Breakpoints of the host

* `Breakpoint`: what the host debugger stores for one breakpoint on the device;
* `Breakpoint.printLocation`, `Breakpoint.printCondition`: its columns in a listing.
-/

namespace GpuDebug

/-- What the host stores for one breakpoint. -/
structure Breakpoint where
  number : Int32
  request : Request
  /-- The process address that was sent to the agent. -/
  pc : Option UInt64
  /-- The address inside the code object from which `pc` was computed. -/
  codeAddress : Option UInt64
  /-- The agent's count, as last reported. -/
  hitCount : Nat
  enabled : Bool
  deriving DecidableEq, Repr, Inhabited

namespace Breakpoint

/-- A breakpoint that was not resolved yet. -/
def ofRequest (request : Request) : Breakpoint where
  number := request.number
  request := request
  pc := none
  codeAddress := none
  hitCount := 0
  enabled := true

/-- The address column of breakpoints on kernels, which have no address. -/
def noAddress : String := "---    "

/-- The address column of a source breakpoint, four digits at least. -/
def addressColumn (pc : Nat) : String :=
  "PC:0x" ++ Numeral.padLeft '0' 4 (Numeral.hex pc) ++ " "

/-- The file shown for a line whose file is not known. -/
def unknownFile : String := "<unknown>"

/-- The address and description columns. -/
def printLocation (b : Breakpoint) : String :=
  match b.request.location with
  | .kernel name =>
    if name.toList.head? = some '*' then s!"{noAddress}Every GPU dispatch({name})"
    else noAddress ++ name
  | .anywhere pattern => s!"{noAddress}Every GPU dispatch({pattern})"
  | .source file line statement =>
    let address := addressColumn (b.pc.getD 0).toNat
    match statement with
    | some text =>
      let shown := file.getD unknownFile
      s!"{address}{text} {shown}@line {line}"
    | none => address ++ "Unknown HSAIL source line"
  | .unknown => "Unknown GPU breakpoint type"

/-- The condition column; only an equality is worth showing. -/
def printCondition (b : Breakpoint) : Option String :=
  let c := b.request.condition
  if c.code = .equal then some s!"WG: {c.workGroup} and WI: {c.workItem}  Active" else none

end Breakpoint

end GpuDebug
