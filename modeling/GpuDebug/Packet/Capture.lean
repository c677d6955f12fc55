import GpuDebug.Packet.Notification
import GpuDebug.Text.Quoted

/-!
# Captured notifications

A capture holds the bytes that the agent wrote to its pipe. It is cut into packets, and what does
not fill a packet at the end is only counted.

* `Notification.summary`: a notification on one line;
* `Capture.packets`: the whole packets of a capture;
* `Capture.lines`: the lines that describe a capture.
-/

namespace GpuDebug

/-- A coordinate as a record. -/
def Dim.summary (d : Dim) : String :=
  Quoted.record "WaveDim3" [("x", toString d.x), ("y", toString d.y), ("z", toString d.z)]

/-- A device as a record. -/
def Device.summary (d : Device) : String :=
  Quoted.record "DeviceDescriptor"
    [("name", Quoted.text d.name), ("chip_id", toString d.chip),
      ("shader_engines", toString d.shaderEngines), ("compute_units", toString d.computeUnits),
      ("simds_per_cu", toString d.simdsPerUnit), ("waves_per_cu", toString d.wavesPerUnit),
      ("engine_clock_mhz", toString d.engineClock), ("memory_clock_mhz", toString d.memoryClock),
      ("active", toString d.active)]

namespace Notification

/-- The hits of a report: a number and a count for each slot that is used. -/
def hitTexts (numbers hits : List Int32) : List String :=
  ((numbers.zip hits).filter fun hit => 0 ≤ hit.1).map fun hit => s!"{hit.1}x{hit.2}"

/-- A notification on one line. -/
def summary : Notification → String
  | newBinary kernel groupSize gridSize =>
    Quoted.record "NewBinary" [("kernel_name", Quoted.text kernel),
      ("work_group_size", groupSize.summary), ("grid_size", gridSize.summary)]
  | predispatch state hostThread =>
    Quoted.record "Predispatch" [("state", state.name), ("host_tid", toString hostThread)]
  | startDebugThread thread => Quoted.record "StartDebugThread" [("tid", toString thread)]
  | breakpointHit numbers hits activeWaves =>
    "BreakpointHit " ++ Quoted.list (hitTexts numbers hits) ++ s!" active_waves={activeWaves}"
  | beginDebugging => "BeginDebugging"
  | endDebugging dispatchCompleted =>
    Quoted.record "EndDebugging" [("dispatch_completed", toString dispatchCompleted)]
  | focusChange workGroup workItem =>
    Quoted.record "FocusChange" [("work_group", workGroup.summary), ("work_item", workItem.summary)]
  | agentError code => Quoted.record "AgentError" [("code", toString code)]
  | killComplete successful => Quoted.record "KillComplete" [("successful", toString successful)]
  | newActiveWaves count => Quoted.record "NewActiveWaves" [("count", toString count)]
  | devices reported => Quoted.call "Devices" (Quoted.list (reported.map Device.summary))
  | unknown tag => Quoted.call "Unknown" (toString tag)

end Notification

namespace Capture

/-- The first `count` packets. -/
def pieces : (count : Nat) → Bytes → List Bytes
  | 0, _ => []
  | count + 1, bytes =>
    bytes.take Notification.size :: pieces count (bytes.drop Notification.size)

/-- The whole packets of a capture. -/
def packets (bytes : Bytes) : List Bytes :=
  pieces (bytes.length / Notification.size) bytes

/-- The line that describes the packet with the given index. -/
def packetLine (packet : Bytes) (index : Nat) : Except Error String := do
  let n ← Notification.decode packet
  return "#" ++ Numeral.padRight 4 (toString index) ++ " " ++ n.summary

/-- The lines that describe the packets of a capture. -/
def packetLines (bytes : Bytes) : Except Error (List String) :=
  (packets bytes).zipIdx.mapM fun (packet, index) => packetLine packet index

/-- The line that counts the bytes behind the last packet, if there are any. -/
def trailer (bytes : Bytes) : List String :=
  let trailing := bytes.length % Notification.size
  if trailing = 0 then []
  else [s!"{trailing} trailing bytes do not form a packet ({Notification.size} bytes each)"]

/-- The lines that describe a capture. -/
def lines (bytes : Bytes) : Except Error (List String) := do
  return (← packetLines bytes) ++ trailer bytes

end Capture

end GpuDebug
