import GpuDebug.Device
import GpuDebug.Dim
import GpuDebug.Packet.Command

/-!
# Notifications from the agent

Every notification is one packet of `Notification.size` bytes: a tag, and a payload filled up
with zeros.

* `Notification`: what the agent reports;
* `Notification.encode`, `Notification.decode`: the packet. Decoding fails only on a wrong length.
-/

namespace GpuDebug

/-- Where the dispatching host thread stands. -/
inductive PredispatchState
  | unknown
  | entered
  | left
  deriving DecidableEq, Repr, Inhabited

namespace PredispatchState

def code : PredispatchState → UInt32
  | unknown => 0
  | entered => 1
  | left => 2

/-- Codes without a meaning read as `unknown`. -/
def ofCode (code : UInt32) : PredispatchState :=
  if code = 1 then entered else if code = 2 then left else unknown

def name : PredispatchState → String
  | unknown => "Unknown"
  | entered => "EnteredPredispatch"
  | left => "LeftPredispatch"

@[simp] theorem ofCode_code (s : PredispatchState) : ofCode s.code = s := by
  cases s <;> rfl

end PredispatchState

/-- An event reported by the agent. -/
inductive Notification
  /-- A code object was published, for a dispatch of `kernel`. -/
  | newBinary (kernel : String) (groupSize gridSize : Dim)
  | predispatch (state : PredispatchState) (hostThread : Int32)
  | startDebugThread (thread : Int32)
  /-- Breakpoints were hit; a negative number marks a slot that is not used. -/
  | breakpointHit (numbers hits : List Int32) (activeWaves : UInt32)
  | beginDebugging
  | endDebugging (dispatchCompleted : Bool)
  | focusChange (workGroup workItem : Dim)
  | agentError (code : Int32)
  | killComplete (successful : Bool)
  | newActiveWaves (count : UInt32)
  | devices (reported : List Device)
  /-- A tag without a meaning, kept so that reading can go on. -/
  | unknown (tag : UInt32)
  deriving DecidableEq, Repr, Inhabited

namespace Notification

/-- The number of breakpoints that one notification reports. -/
def hitSlots : Nat := 32

/-- The size of every notification packet. -/
def size : Nat := 4 + 8 + Device.most * Device.size

def tag : Notification → UInt32
  | newBinary .. => 1
  | predispatch .. => 2
  | startDebugThread _ => 3
  | breakpointHit .. => 4
  | beginDebugging => 5
  | endDebugging _ => 6
  | focusChange .. => 7
  | agentError _ => 8
  | killComplete _ => 9
  | newActiveWaves _ => 10
  | devices _ => 11
  | unknown tag => tag

/-- The first `count` entries of a list, filled up with `fill`. -/
def slots (count : Nat) (fill : Int32) (entries : List Int32) : List Int32 :=
  entries.take count ++ List.replicate (count - entries.length) fill

/-- The bytes behind the tag, without the zeros at the end of the packet. -/
def payload : Notification → Bytes
  | newBinary kernel groupSize gridSize =>
    Wire.text kernel Command.kernelWidth ++ groupSize.encode ++ gridSize.encode
  | predispatch state hostThread => Wire.u32 state.code ++ Wire.i32 hostThread
  | startDebugThread thread => Wire.i32 thread
  | breakpointHit numbers hits activeWaves =>
    (slots hitSlots (-1) numbers).flatMap Wire.i32 ++ (slots hitSlots 0 hits).flatMap Wire.i32 ++
      Wire.u32 activeWaves
  | beginDebugging => []
  | endDebugging dispatchCompleted => Wire.flag dispatchCompleted
  | focusChange workGroup workItem => workGroup.encode ++ workItem.encode
  | agentError code => Wire.i32 code
  | killComplete successful => Wire.flag successful
  | newActiveWaves count => Wire.u32 count
  | devices reported =>
    let kept := reported.take Device.most
    Wire.u32 (UInt32.ofNat kept.length) ++ Wire.gap 4 ++ kept.flatMap Device.encode
  | unknown _ => []

/-- The packet of a notification. -/
def encode (n : Notification) : Bytes :=
  Wire.padTo size (Wire.u32 n.tag ++ n.payload)

open Wire in
/-- Reads the payload behind a tag. -/
def decodePayload (tag : UInt32) : Decoder Notification :=
  match tag.toNat with
  | 1 => do
    let kernel ← Cursor.text Command.kernelWidth
    let groupSize ← Dim.decode
    let gridSize ← Dim.decode
    return newBinary kernel groupSize gridSize
  | 2 => do
    let state ← Cursor.u32
    let hostThread ← Cursor.i32
    return predispatch (PredispatchState.ofCode state) hostThread
  | 3 => return startDebugThread (← Cursor.i32)
  | 4 => do
    let numbers ← Cursor.times Cursor.i32 hitSlots
    let hits ← Cursor.times Cursor.i32 hitSlots
    let activeWaves ← Cursor.u32
    return breakpointHit numbers hits activeWaves
  | 5 => return beginDebugging
  | 6 => return endDebugging (← Cursor.flag)
  | 7 => do
    let workGroup ← Dim.decode
    let workItem ← Dim.decode
    return focusChange workGroup workItem
  | 8 => return agentError (← Cursor.i32)
  | 9 => return killComplete (← Cursor.flag)
  | 10 => return newActiveWaves (← Cursor.u32)
  | 11 => do
    let count ← Cursor.u32
    Cursor.skip 4
    let kept ← Cursor.times Device.decode (min count.toNat Device.most)
    return devices kept
  | _ => return unknown tag

open Wire in
/-- Reads one whole packet. -/
def decode (bytes : Bytes) : Except Error Notification :=
  if bytes.length = size then
    Decoder.decode (do decodePayload (← Cursor.u32)) bytes
  else
    .error (.shortRead bytes.length size)

end Notification

end GpuDebug
