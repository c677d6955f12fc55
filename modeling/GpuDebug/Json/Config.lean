import GpuDebug.Config
import GpuDebug.Json

/-!
# Settings in JSON

The settings of a session with the keys of the configuration file.
-/

namespace GpuDebug

instance : ToJson RegionConfig := ⟨fun r => .record "key max_size" (r.key, r.maxSize)⟩

instance : ToJson PipePaths := ⟨fun p => .record "gdb_to_agent agent_to_gdb" (p.toAgent, p.fromAgent)⟩

instance : ToJson (PerRegion RegionConfig) where
  toJson p := .record "binary wave_info loadmap momentary"
    (p.binaryImage, p.waveInfo, p.loadMap, p.momentaryBreakpoints)

instance : ToJson IsaConfig where
  toJson isa := .record "show agent_isa_path dump_path" (isa.shown, isa.agentPath, isa.savePath)

instance : ToJson AgentFunctions := ⟨fun f => .record "set_focus kill" (f.setFocus, f.kill)⟩

/-- The names of the log settings. -/
def LogSettings.fieldNames : String :=
  "console_enabled file_enabled file_path timestamps file_info show_target ansi_colors level"

instance : ToJson LogSettings where
  toJson s := .record LogSettings.fieldNames
    (s.toConsole, s.toFile, s.path, s.timestamps, s.places, s.targets, s.colors, s.level)

/-- The names of the settings. -/
def Config.fieldNames : String :=
  "breakpoint_prefix pending_capacity source_dump_path agent_logging agent_logging_env fifo " ++
    "shared_memory isa inferior_functions logging"

instance : ToJson Config where
  toJson c := .record Config.fieldNames
    (c.marker, c.pendingCapacity, c.dumpPath, c.agentLogging, c.loggingVariable, c.pipes,
      c.regions, c.isa, c.functions, c.logging)

end GpuDebug
