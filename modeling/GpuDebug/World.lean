import GpuDebug.Files
import GpuDebug.Memory
import GpuDebug.Packet.Notification

/-!
# The world around the debugger

Everything that the debugger shares with others: the pipe to the agent, the pipe from it, the
shared regions, the files and the environment variables.

* `Reply`: what the pipe to the agent does with a packet;
* `Fate`, `Transmission`: what became of a command that was written;
* `Arrival`: what one read from the agent's pipe finds;
* `World`: all of it, with a log of the transmissions.
-/

namespace GpuDebug

/-- What the pipe to the agent does with the next packet. -/
inductive Reply
  /-- Takes all of it. -/
  | accept
  /-- Takes at most so many bytes. -/
  | atMost (count : Nat)
  /-- Fails and takes nothing. -/
  | refuse (detail : String)
  /-- Takes all of it and fails to pass it on. -/
  | keep (detail : String)
  deriving DecidableEq, Repr, Inhabited

/-- What became of a packet. -/
inductive Fate
  | delivered
  /-- All bytes were taken, and passing them on failed. -/
  | unflushed
  /-- Only so many bytes were taken. -/
  | cut (count : Nat)
  /-- No byte was taken. -/
  | refused
  deriving DecidableEq, Repr, Inhabited

/-- Where packets to the agent go. -/
inductive Target
  | pipe
  /-- A file that stays open, and where in it the next packet goes. -/
  | file (path : String) (offset : Nat)
  deriving DecidableEq, Repr, Inhabited

/-- A command that was written. -/
structure Transmission where
  command : Command
  fate : Fate
  target : Target
  deriving DecidableEq, Repr, Inhabited

namespace Transmission

/-- The bytes that were taken. -/
def bytes (t : Transmission) : Bytes :=
  match t.fate with
  | .delivered | .unflushed => t.command.encode
  | .cut count => t.command.encode.take count
  | .refused => []

/-- Whether the whole packet was taken. -/
def isComplete (t : Transmission) : Bool :=
  match t.fate with
  | .delivered | .unflushed => true
  | .cut _ | .refused => false

end Transmission

/-- What one read from the agent's pipe finds. -/
inductive Arrival
  | bytes (content : Bytes)
  /-- Nothing has arrived. -/
  | wouldBlock
  /-- The read was interrupted before anything arrived. -/
  | interrupted
  | failure (detail : String)
  deriving DecidableEq, Repr, Inhabited

/-- Everything that the debugger shares with others. -/
structure World where
  /-- What the pipe will do with the next packets; it accepts all after those. -/
  replies : List Reply
  /-- What the next reads will find. -/
  arrivals : List Arrival
  memory : SharedMemory
  files : Files
  /-- The names of the environment variables that are set. -/
  environment : List String
  /-- Every command written so far, the first one first. -/
  transmissions : List Transmission
  deriving DecidableEq, Repr

namespace World

/-- A world without files, arrivals and variables. -/
def ofMemory (memory : SharedMemory) : World where
  replies := []
  arrivals := []
  memory := memory
  files := Files.empty
  environment := []
  transmissions := []

instance : Inhabited World := ⟨ofMemory default⟩

/-- Takes the next reply of the pipe. -/
def nextReply (w : World) : Reply × World :=
  match w.replies with
  | reply :: others => (reply, { w with replies := others })
  | [] => (.accept, w)

/-- Adds a command to the log. -/
def log (w : World) (t : Transmission) : World :=
  { w with transmissions := w.transmissions ++ [t] }

/-- The bytes that the pipe took. -/
def pipeBytes (transmissions : List Transmission) : Bytes :=
  (transmissions.filter (·.target = .pipe)).flatMap (·.bytes)

end World

end GpuDebug
