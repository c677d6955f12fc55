import GpuDebug.Packet.Condition

/-!
# Commands to the agent

Every command is one packet of `Command.size` bytes; fields that a command does not use are zero.

* `Command`: a command, with one constructor function for each kind;
* `Command.isValid`, `Command.validate`: the fields that each kind requires;
* `Command.encode`, `Command.decode`: the packet.
-/

namespace GpuDebug

/-- The kind of a command. -/
inductive CommandTag
  | unknown
  | createBreakpoint
  | deleteBreakpoint
  | disableBreakpoint
  | momentaryBreakpoint
  | continueDispatch
  | setLogging
  deriving DecidableEq, Repr, Inhabited

namespace CommandTag

def code : CommandTag → UInt32
  | unknown => 0
  | createBreakpoint => 1
  | deleteBreakpoint => 2
  | disableBreakpoint => 3
  | momentaryBreakpoint => 4
  | continueDispatch => 5
  | setLogging => 6

/-- Codes without a meaning read as `unknown`. -/
def ofCode (code : UInt32) : CommandTag :=
  if code = 1 then createBreakpoint
  else if code = 2 then deleteBreakpoint
  else if code = 3 then disableBreakpoint
  else if code = 4 then momentaryBreakpoint
  else if code = 5 then continueDispatch
  else if code = 6 then setLogging
  else unknown

def name : CommandTag → String
  | unknown => "Unknown"
  | createBreakpoint => "CreateBreakpoint"
  | deleteBreakpoint => "DeleteBreakpoint"
  | disableBreakpoint => "DisableBreakpoint"
  | momentaryBreakpoint => "MomentaryBreakpoint"
  | continueDispatch => "ContinueDispatch"
  | setLogging => "SetLogging"

@[simp] theorem ofCode_code (t : CommandTag) : ofCode t.code = t := by
  cases t <;> rfl

end CommandTag

/-- The agent's own logging, switched by a command. -/
inductive LoggingDirective
  | unknown
  | enableAll
  | disableAll
  deriving DecidableEq, Repr, Inhabited

namespace LoggingDirective

def code : LoggingDirective → UInt32
  | unknown => 0
  | enableAll => 1
  | disableAll => 2

/-- Codes without a meaning read as `unknown`. -/
def ofCode (code : UInt32) : LoggingDirective :=
  if code = 1 then enableAll else if code = 2 then disableAll else unknown

def name : LoggingDirective → String
  | unknown => "Unknown"
  | enableAll => "EnableAll"
  | disableAll => "DisableAll"

@[simp] theorem ofCode_code (d : LoggingDirective) : ofCode d.code = d := by
  cases d <;> rfl

end LoggingDirective

/-- A command to the agent. -/
structure Command where
  tag : CommandTag
  /-- The host's number of the breakpoint. -/
  breakpoint : Int32
  /-- The process address of the breakpoint. -/
  pc : UInt64
  line : Int32
  condition : PacketCondition
  logging : LoggingDirective
  momentaryCount : Int32
  /-- The statement at `line`; the agent never reads source files itself. -/
  statement : String
  kernel : String
  deriving DecidableEq, Repr, Inhabited

namespace Command

/-- The width of the statement field. -/
def statementWidth : Nat := 256

/-- The width of the kernel field. -/
def kernelWidth : Nat := 256

/-- The size of every command packet. -/
def size : Nat := 4 + 4 + 8 + 4 + 28 + 4 + 4 + statementWidth + kernelWidth

/-- A command of which only the kind is set. -/
def blank (tag : CommandTag) : Command where
  tag := tag
  breakpoint := 0
  pc := 0
  line := 0
  condition := .none
  logging := .unknown
  momentaryCount := 0
  statement := ""
  kernel := ""

/-- Creates a breakpoint at a source line that was found at `pc`. -/
def createSource (breakpoint : Int32) (pc : UInt64) (line : Int32) (statement : String)
    (condition : PacketCondition) : Command :=
  { blank .createBreakpoint with breakpoint, pc, line, condition, statement }

/-- Creates a breakpoint on the entry to every dispatch of `kernel`. -/
def createKernel (breakpoint : Int32) (kernel : String) (condition : PacketCondition) : Command :=
  { blank .createBreakpoint with breakpoint, condition, kernel }

def delete (breakpoint : Int32) : Command :=
  { blank .deleteBreakpoint with breakpoint }

def disable (breakpoint : Int32) : Command :=
  { blank .disableBreakpoint with breakpoint }

/-- Announces `count` momentary breakpoints in shared memory. -/
def momentary (count : Int32) : Command :=
  { blank .momentaryBreakpoint with momentaryCount := count }

def continueDispatch : Command :=
  blank .continueDispatch

def setLogging (logging : LoggingDirective) : Command :=
  { blank .setLogging with logging }

/-- Whether the fields that the kind of command requires are set. -/
def isValid (c : Command) : Bool :=
  match c.tag with
  | .createBreakpoint => 0 ≤ c.breakpoint && (c.kernel != "" || 0 < c.line)
  | .deleteBreakpoint | .disableBreakpoint => 0 ≤ c.breakpoint
  | .momentaryBreakpoint => 0 < c.momentaryCount
  | .continueDispatch => true
  | .setLogging => c.logging != .unknown
  | .unknown => false

/-- The error for a command whose required fields are not set. -/
def incomplete (c : Command) : Error :=
  .invalidPacket <|
    s!"{c.tag.name} packet is missing required fields " ++
      s!"(id {c.breakpoint}, line {c.line}, count {c.momentaryCount})"

def validate (c : Command) : Except Error Unit :=
  if c.isValid then .ok () else .error c.incomplete

/-- The packet of a command. -/
def encode (c : Command) : Bytes :=
  Wire.u32 c.tag.code ++ Wire.i32 c.breakpoint ++ Wire.u64 c.pc ++ Wire.i32 c.line ++
    c.condition.encode ++ Wire.u32 c.logging.code ++ Wire.i32 c.momentaryCount ++
    Wire.text c.statement statementWidth ++ Wire.text c.kernel kernelWidth

open Wire in
/-- Reads a command packet. -/
def decode : Decoder Command := do
  let tag ← Cursor.u32
  let breakpoint ← Cursor.i32
  let pc ← Cursor.u64
  let line ← Cursor.i32
  let condition ← PacketCondition.decode
  let logging ← Cursor.u32
  let momentaryCount ← Cursor.i32
  let statement ← Cursor.text statementWidth
  let kernel ← Cursor.text kernelWidth
  return {
    tag := CommandTag.ofCode tag
    breakpoint, pc, line, condition
    logging := LoggingDirective.ofCode logging
    momentaryCount, statement, kernel }

@[simp] theorem length_encode (c : Command) : c.encode.length = size := by
  simp [encode, PacketCondition.encode, size, statementWidth, kernelWidth]

end Command

end GpuDebug
