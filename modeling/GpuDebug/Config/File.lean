import GpuDebug.Config
import GpuDebug.Config.Section
import GpuDebug.Files
import GpuDebug.Text.Blank
import GpuDebug.Text.Utf8
import GpuDebug.Toml.Document

/-!
# Configuration files

* `Config.ofText`: the configuration that a text describes;
* `Config.ofFile`: the configuration in a file.

A setting that is not given has its standard value, so an empty file describes the standard
configuration. Only a region needs both of its settings.
-/

namespace GpuDebug

open Section (next)

instance : Settings PipePaths where
  settings := return {
    toAgent := ← next "gdb_to_agent" PipePaths.standard.toAgent
    fromAgent := ← next "agent_to_gdb" PipePaths.standard.fromAgent }

instance : Settings RegionConfig where
  settings := return { key := ← next "key" none, maxSize := ← next "max_size" none }

instance : Settings (PerRegion RegionConfig) where
  settings := return {
    binaryImage := ← next "binary" RegionConfig.standard.binaryImage
    waveInfo := ← next "wave_info" RegionConfig.standard.waveInfo
    loadMap := ← next "loadmap" RegionConfig.standard.loadMap
    momentaryBreakpoints := ← next "momentary" RegionConfig.standard.momentaryBreakpoints }

instance : Settings IsaConfig where
  settings := return {
    shown := ← next "show" IsaConfig.standard.shown
    agentPath := ← next "agent_isa_path" IsaConfig.standard.agentPath
    savePath := ← next "dump_path" IsaConfig.standard.savePath }

instance : Settings AgentFunctions where
  settings := return {
    setFocus := ← next "set_focus" AgentFunctions.standard.setFocus
    kill := ← next "kill" AgentFunctions.standard.kill }

/-- The settings of a log that is configured start from those of the console. -/
instance : Settings LogSettings where
  settings := return {
    toConsole := ← next "console_enabled" LogSettings.console.toConsole
    toFile := ← next "file_enabled" LogSettings.console.toFile
    path := ← next "file_path" LogSettings.console.path
    timestamps := ← next "timestamps" LogSettings.console.timestamps
    places := ← next "file_info" LogSettings.console.places
    targets := ← next "show_target" LogSettings.console.targets
    colors := ← next "ansi_colors" LogSettings.console.colors
    level := ← next "level" LogSettings.console.level }

instance : Settings Config where
  settings := return {
    marker := ← next "breakpoint_prefix" Config.standard.marker
    pendingCapacity := ← next "pending_capacity" Config.standard.pendingCapacity
    dumpPath := ← next "source_dump_path" Config.standard.dumpPath
    agentLogging := ← next "agent_logging" Config.standard.agentLogging
    loggingVariable := ← next "agent_logging_env" Config.standard.loggingVariable
    pipes := ← next "fifo" Config.standard.pipes
    regions := ← next "shared_memory" Config.standard.regions
    isa := ← next "isa" Config.standard.isa
    functions := ← next "inferior_functions" Config.standard.functions
    logging := ← next "logging" Config.standard.logging }

namespace Config

/-- Refuses the settings that no session can work with. -/
def validate (c : Config) : Except Error Config :=
  if (Text.trim c.marker.toList).isEmpty then
    .error (.configuration "breakpoint_prefix must not be empty")
  else if c.pendingCapacity = 0 then
    .error (.configuration "pending_capacity must be positive")
  else .ok c

/-- The configuration that a text describes. -/
def ofText (text : String) : Except Error Config :=
  match (Toml.document? text).bind fun entries => Section.describes? Config (.named entries) with
  | none => .error (.configuration "Failed to parse config")
  | some c => c.validate

/-- The configuration in a file with the given content. -/
def ofContent (content : Except FileFault Bytes) : Except Error Config :=
  let unread (detail : String) := Error.configuration s!"Failed to read config file: {detail}"
  match content with
  | .error fault => .error (unread fault.message)
  | .ok bytes =>
    if Utf8.isValid bytes then ofText (String.ofList (Utf8.decode bytes))
    else .error (unread "stream did not contain valid UTF-8")

/-- The configuration in a file. -/
def ofFile (files : Files) (path : String) : Except Error Config :=
  ofContent (files.read path)

end Config

end GpuDebug
