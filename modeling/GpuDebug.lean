import GpuDebug.Breakpoint.Condition
import GpuDebug.Breakpoint.Grammar
import GpuDebug.Breakpoint.Listing
import GpuDebug.Breakpoint.Pending
import GpuDebug.Breakpoint.Request
import GpuDebug.Channel
import GpuDebug.Cli.Arguments
import GpuDebug.Cli.Failure
import GpuDebug.Cli.Program
import GpuDebug.CodeObject
import GpuDebug.Config
import GpuDebug.Config.File
import GpuDebug.Config.Section
import GpuDebug.DebugInfo
import GpuDebug.Device
import GpuDebug.Dim
import GpuDebug.Dim.Argument
import GpuDebug.Dwarf.Abbreviation
import GpuDebug.Dwarf.Form
import GpuDebug.Dwarf.LineProgram
import GpuDebug.Dwarf.Scan
import GpuDebug.Dwarf.Unit
import GpuDebug.Elf
import GpuDebug.Error
import GpuDebug.Files
import GpuDebug.Focus
import GpuDebug.Host
import GpuDebug.Inbox
import GpuDebug.Json
import GpuDebug.Json.Config
import GpuDebug.Json.Packets
import GpuDebug.Json.Printer
import GpuDebug.Json.Session
import GpuDebug.Kernels
import GpuDebug.LineTable
import GpuDebug.Log
import GpuDebug.Main
import GpuDebug.Memory
import GpuDebug.Momentary
import GpuDebug.Packet.Capture
import GpuDebug.Packet.Command
import GpuDebug.Packet.Condition
import GpuDebug.Packet.Notification
import GpuDebug.Proofs.Agreement
import GpuDebug.Proofs.ArgumentForms
import GpuDebug.Proofs.Backdrop
import GpuDebug.Proofs.BreakpointTable
import GpuDebug.Proofs.Buffering
import GpuDebug.Proofs.Calm
import GpuDebug.Proofs.CaptureListing
import GpuDebug.Proofs.Catalog
import GpuDebug.Proofs.Changes
import GpuDebug.Proofs.CommandFormat
import GpuDebug.Proofs.Composition
import GpuDebug.Proofs.ConditionForms
import GpuDebug.Proofs.ConditionLayouts
import GpuDebug.Proofs.Contract
import GpuDebug.Proofs.Course
import GpuDebug.Proofs.Creation
import GpuDebug.Proofs.DebugHistory
import GpuDebug.Proofs.Decoding
import GpuDebug.Proofs.Degrading
import GpuDebug.Proofs.Deletion
import GpuDebug.Proofs.Disabling
import GpuDebug.Proofs.Draining
import GpuDebug.Proofs.ExactFlush
import GpuDebug.Proofs.Exchange
import GpuDebug.Proofs.Faults
import GpuDebug.Proofs.FieldLists
import GpuDebug.Proofs.FileWriting
import GpuDebug.Proofs.Flushing
import GpuDebug.Proofs.FocusArguments
import GpuDebug.Proofs.FocusCommand
import GpuDebug.Proofs.FocusMoves
import GpuDebug.Proofs.Framing
import GpuDebug.Proofs.GroupCounts
import GpuDebug.Proofs.HitCounts
import GpuDebug.Proofs.HitReports
import GpuDebug.Proofs.Holding
import GpuDebug.Proofs.InlineConditions
import GpuDebug.Proofs.KernelEntry
import GpuDebug.Proofs.LaunchHistory
import GpuDebug.Proofs.LineNumbers
import GpuDebug.Proofs.Lines
import GpuDebug.Proofs.Listening
import GpuDebug.Proofs.LiteralStyles
import GpuDebug.Proofs.Literals
import GpuDebug.Proofs.LoadMap
import GpuDebug.Proofs.LoadMapFormat
import GpuDebug.Proofs.LocationForms
import GpuDebug.Proofs.Lookup
import GpuDebug.Proofs.NearestLine
import GpuDebug.Proofs.Noise
import GpuDebug.Proofs.NotificationFormat
import GpuDebug.Proofs.OneLine
import GpuDebug.Proofs.OneRequest
import GpuDebug.Proofs.Operation
import GpuDebug.Proofs.Overlay
import GpuDebug.Proofs.Passing
import GpuDebug.Proofs.Pending
import GpuDebug.Proofs.PublishedImage
import GpuDebug.Proofs.Quiet
import GpuDebug.Proofs.Reading
import GpuDebug.Proofs.Records
import GpuDebug.Proofs.Reload
import GpuDebug.Proofs.Renewal
import GpuDebug.Proofs.RepeatedStops
import GpuDebug.Proofs.Requests
import GpuDebug.Proofs.Sending
import GpuDebug.Proofs.Setting
import GpuDebug.Proofs.Slots
import GpuDebug.Proofs.StatementText
import GpuDebug.Proofs.StepLines
import GpuDebug.Proofs.StepPlanting
import GpuDebug.Proofs.StepTargets
import GpuDebug.Proofs.Still
import GpuDebug.Proofs.StoppedWaves
import GpuDebug.Proofs.Tally
import GpuDebug.Proofs.Translation
import GpuDebug.Proofs.Trimming
import GpuDebug.Proofs.Utf8
import GpuDebug.Proofs.Validity
import GpuDebug.Proofs.View
import GpuDebug.Proofs.WaveFormat
import GpuDebug.Proofs.WholePackets
import GpuDebug.Segment
import GpuDebug.Segment.Listing
import GpuDebug.Session.Breakpoints
import GpuDebug.Session.Events
import GpuDebug.Session.Lifecycle
import GpuDebug.Session.State
import GpuDebug.Session.Stepping
import GpuDebug.Session.Stop
import GpuDebug.StopReport
import GpuDebug.Text.Blank
import GpuDebug.Text.CInteger
import GpuDebug.Text.Numeral
import GpuDebug.Text.Path
import GpuDebug.Text.Quoted
import GpuDebug.Text.Statement
import GpuDebug.Text.Utf8
import GpuDebug.Text.Visible
import GpuDebug.Toml.Document
import GpuDebug.Toml.Literal
import GpuDebug.Toml.Statement
import GpuDebug.Toml.Table
import GpuDebug.Toml.Text
import GpuDebug.Toml.Value
import GpuDebug.Wave
import GpuDebug.Wire.Bytes
import GpuDebug.Wire.Cursor
import GpuDebug.Wire.Field
import GpuDebug.World
