import GpuDebug.Json
import GpuDebug.Momentary
import GpuDebug.Packet.Notification
import GpuDebug.Segment
import GpuDebug.Wave

/-!
# Packets and records in JSON

The JSON forms of everything that goes between the debugger and the agent. A coordinate is a list
of three numbers, a notification a record with its type.
-/

namespace GpuDebug

instance : ToJson Dim := ⟨fun d => toJson (d.x, d.y, d.z)⟩

instance : ToJson PacketCondition where
  toJson c := .record "code wg wi" (c.code.name, c.workGroup, c.workItem)

instance : ToJson Command where
  toJson c := .record "tag id pc line cond logging count source kernel"
    (c.tag.name, c.breakpoint, c.pc, c.line, c.condition, c.logging.name, c.momentaryCount,
      c.statement, c.kernel)

/-- The names of the fields of a device. -/
def Device.fieldNames : String :=
  "name chip_id shader_engines compute_units simds_per_cu waves_per_cu engine_clock_mhz " ++
    "memory_clock_mhz active max_waves"

instance : ToJson Device where
  toJson d := .record Device.fieldNames
    (d.name, d.chip, d.shaderEngines, d.computeUnits, d.simdsPerUnit, d.wavesPerUnit,
      d.engineClock, d.memoryClock, d.active, d.maxWaves)

/-- The name of the kind of a notification. -/
def Notification.typeName : Notification → String
  | newBinary .. => "NewBinary"
  | predispatch .. => "Predispatch"
  | startDebugThread _ => "StartDebugThread"
  | breakpointHit .. => "BreakpointHit"
  | beginDebugging => "BeginDebugging"
  | endDebugging _ => "EndDebugging"
  | focusChange .. => "FocusChange"
  | agentError _ => "AgentError"
  | killComplete _ => "KillComplete"
  | newActiveWaves _ => "NewActiveWaves"
  | devices _ => "Devices"
  | unknown _ => "Unknown"

instance : ToJson Notification where
  toJson n := match n with
    | .newBinary kernel groupSize gridSize =>
      .record "type kernel wg grid" (n.typeName, kernel, groupSize, gridSize)
    | .predispatch state thread => .record "type state tid" (n.typeName, state.name, thread)
    | .startDebugThread thread => .record "type tid" (n.typeName, thread)
    | .breakpointHit numbers hits activeWaves =>
      .record "type ids hits waves" (n.typeName, numbers, hits, activeWaves)
    | .beginDebugging => .record "type" n.typeName
    | .endDebugging completed => .record "type completed" (n.typeName, completed)
    | .focusChange workGroup workItem => .record "type wg wi" (n.typeName, workGroup, workItem)
    | .agentError code => .record "type code" (n.typeName, code)
    | .killComplete successful => .record "type successful" (n.typeName, successful)
    | .newActiveWaves count => .record "type count" (n.typeName, count)
    | .devices reported => .record "type devices" (n.typeName, reported)
    | .unknown tag => .record "type tag" (n.typeName, tag)

instance : ToJson Wave where
  toJson w := .record "wg items mask pc addr first"
    (w.workGroup, w.workItems, w.executing, w.pc, w.address, w.firstActiveItem?)

/-- The names of the fields of a segment. -/
def Segment.fieldNames : String :=
  "device executable storage_type storage_base storage_size storage_offset base size elf exec"

instance : ToJson Segment where
  toJson s := .record Segment.fieldNames
    (s.device, s.executable, s.storageType, s.storageBase, s.storageSize, s.storageOffset, s.base,
      s.size, s.codeBase, s.isExecuted)

instance : ToJson Momentary := ⟨fun m => .record "pc line" (m.pc, m.line)⟩

end GpuDebug
