import GpuDebug.World

/-!
# The command channel

Commands go to the agent one packet at a time, each in one write. A packet that is not valid, a
write that fails and a write that is cut short close the channel.

* `Channel`: open or closed, with the number of packets sent;
* `Channel.send`: sends one command;
* `Channel.onFile`: a channel on a file.
-/

namespace GpuDebug

/-- The writing end of the command pipe. -/
structure Channel where
  /-- Where packets go; `none` once the channel is closed. -/
  target : Option Target
  /-- The path of a channel on a file, kept after closing. -/
  path : Option String
  sent : Nat
  deriving DecidableEq, Repr

namespace Channel

def closed : Channel := ⟨none, none, 0⟩

instance : Inhabited Channel := ⟨closed⟩

/-- A new channel on the pipe. -/
def onPipe : Channel := ⟨some .pipe, none, 0⟩

/-- A new channel on a file that exists. -/
def onFile (files : Files) (path : String) : Except Error Channel :=
  match files.openForWriting path with
  | .ok _ => .ok ⟨some (.file path 0), some path, 0⟩
  | .error fault => .error (.inputOutput fault.message)

def isOpen (c : Channel) : Bool :=
  c.target.isSome

theorem isOpen_iff {c : Channel} : c.isOpen = true ↔ ∃ target, c.target = some target :=
  Option.isSome_iff_exists

theorem isOpen_eq_false_iff {c : Channel} : c.isOpen = false ↔ c.target = none := by
  rw [isOpen, Option.isSome_eq_false_iff, Option.isNone_iff_eq_none]

def close (c : Channel) : Channel :=
  { c with target := none }

/-- What the pipe makes of a packet: the fate of the packet and the error for the sender. -/
def fateOf (reply : Reply) : Fate × Option Error :=
  match reply with
  | .accept => (.delivered, none)
  | .atMost count =>
    if Command.size ≤ count then (.delivered, none)
    else (.cut count, some (.shortWrite count Command.size))
  | .refuse detail => (.refused, some (.inputOutput detail))
  | .keep detail => (.unflushed, some (.inputOutput detail))

/-- The channel after a packet of the given fate. -/
def after (c : Channel) : Fate → Channel
  | .delivered => { c with sent := c.sent + 1 }
  | .unflushed => c
  | .cut _ | .refused => c.close

/-- The result of sending, the channel and the world after it. -/
abbrev Sending := Except Error Unit × Channel × World

/-- Sends a command over the pipe. -/
def sendPipe (c : Channel) (w : World) (command : Command) : Sending :=
  let (reply, w) := w.nextReply
  let (fate, error?) := fateOf reply
  let result := match error? with
    | none => .ok ()
    | some e => .error e
  (result, c.after fate, w.log ⟨command, fate, .pipe⟩)

/-- Sends a command into a file; files take everything. -/
def sendFile (c : Channel) (w : World) (path : String) (offset : Nat) (command : Command) :
    Sending :=
  let files := w.files.writeAt path offset command.encode
  let target := Target.file path (offset + Command.size)
  (.ok (), { c with target := some target, sent := c.sent + 1 },
    World.log { w with files } ⟨command, .delivered, .file path offset⟩)

/-- Sends one command. -/
def send (c : Channel) (w : World) (command : Command) : Sending :=
  match c.target with
  | none => (.error .agentNotReady, c, w)
  | some target =>
    match command.validate with
    | .error e => (.error e, c.close, w)
    | .ok _ =>
      match target with
      | .pipe => c.sendPipe w command
      | .file path offset => c.sendFile w path offset command

end Channel

end GpuDebug
