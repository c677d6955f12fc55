import GpuDebug.World

/-!
# Reading notifications

Each poll performs one read of at most one packet.

* `Inbox`: the reading end of the notification pipe;
* `Inbox.poll`: what one read brings: nothing, too few bytes, or a notification.
-/

namespace GpuDebug

/-- What one read brings. -/
inductive Poll
  | idle
  /-- Fewer bytes than a packet has; they are dropped. -/
  | short (count : Nat)
  | packet (notification : Notification)
  deriving DecidableEq, Repr, Inhabited

/-- Where notifications come from. -/
inductive Source
  | pipe
  /-- A file that stays open, and where in it the next read starts. -/
  | file (path : String) (offset : Nat)
  deriving DecidableEq, Repr, Inhabited

/-- The reading end of the notification pipe. -/
structure Inbox where
  source : Source
  path : Option String
  /-- How many reads brought too few bytes. -/
  shortReads : Nat
  deriving DecidableEq, Repr, Inhabited

namespace Inbox

/-- A reader of the pipe. -/
def onPipe : Inbox := ⟨.pipe, none, 0⟩

/-- A reader of a file. -/
def onFile (files : Files) (path : String) : Except Error Inbox :=
  match files.openForReading path with
  | .ok _ => .ok ⟨.file path 0, some path, 0⟩
  | .error fault => .error (.inputOutput fault.message)

/-- One read from the pipe: at most one packet of what arrived first; the rest stays in front. -/
def readPipe (w : World) : Except Error Bytes × World :=
  match w.arrivals with
  | [] => (.ok [], w)
  | .bytes content :: others =>
    let rest := content.drop Notification.size
    let kept := if rest.isEmpty then others else .bytes rest :: others
    (.ok (content.take Notification.size), { w with arrivals := kept })
  | .wouldBlock :: others => (.ok [], { w with arrivals := others })
  | .interrupted :: others => (.ok [], { w with arrivals := others })
  | .failure detail :: others => (.error (.inputOutput detail), { w with arrivals := others })

/-- One read from a file. -/
def readFile (i : Inbox) (w : World) (path : String) (offset : Nat) : Except Error Bytes × Inbox :=
  match w.files.readAt path offset Notification.size with
  | .ok bytes => (.ok bytes, { i with source := .file path (offset + bytes.length) })
  | .error fault => (.error (.inputOutput fault.message), i)

/-- One read. A read that finds nothing brings no bytes. -/
def read (i : Inbox) (w : World) : Except Error Bytes × Inbox × World :=
  match i.source with
  | .pipe =>
    let (result, w) := readPipe w
    (result, i, w)
  | .file path offset =>
    let (result, i) := i.readFile w path offset
    (result, i, w)

/-- What some bytes that were read in one go mean. -/
def outcome (bytes : Bytes) : Except Error Poll :=
  if bytes.isEmpty then .ok .idle
  else if bytes.length = Notification.size then .packet <$> Notification.decode bytes
  else .ok (.short bytes.length)

/-- Performs one read. -/
def poll (i : Inbox) (w : World) : Except Error Poll × Inbox × World :=
  match i.read w with
  | (.error e, i, w) => (.error e, i, w)
  | (.ok bytes, i, w) =>
    match outcome bytes with
    | .ok (.short count) => (.ok (.short count), { i with shortReads := i.shortReads + 1 }, w)
    | result => (result, i, w)

end Inbox

end GpuDebug
