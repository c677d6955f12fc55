import GpuDebug.Proofs.Framing

/-!
# Whole packets and their number

Each command goes out in one write, and as a rule all of it goes out or the channel is closed. A
command that was sent is on the stream as a whole and is counted; after a failure no whole packet
more is there. So the count of a channel is the number of whole packets on its stream. The rule has
one exception. A pipe may take the whole packet and then fail to pass it on; such a packet is on the
stream and is not counted, and the channel stays open.

* `World.Takes`: the bytes that were taken between two worlds.
* `Channel.AllOrNothing`: sending the command follows the rule.
* `Channel.Unflushed`: the pipe takes the packet and fails to pass it on.
* `Channel.allOrNothing_iff`: only packets of this kind break the rule.
* `Channel.counts_whole_packets_iff`: the main result, for one command and for a list of them.
-/

namespace GpuDebug

/-- Between the two worlds the bytes were taken, in this order. -/
def World.Takes (w w' : World) (bytes : Bytes) : Prop :=
  ∃ later, w'.transmissions = w.transmissions ++ later ∧
    later.flatMap Transmission.bytes = bytes

namespace World.Takes

variable {w w' w'' : World} {bytes others : Bytes}

theorem nothing (w : World) : w.Takes w [] :=
  ⟨[], (List.append_nil _).symm, rfl⟩

theorem one {t : Transmission} (hlog : w'.transmissions = w.transmissions ++ [t]) :
    w.Takes w' t.bytes :=
  ⟨[t], hlog, by rw [List.flatMap_cons, List.flatMap_nil, List.append_nil]⟩

theorem append (h : w.Takes w' bytes) (h' : w'.Takes w'' others) :
    w.Takes w'' (bytes ++ others) := by
  obtain ⟨later, hlog, rfl⟩ := h
  obtain ⟨later', hlog', rfl⟩ := h'
  exact ⟨later ++ later', by rw [hlog', hlog, List.append_assoc], List.flatMap_append⟩

/-- The log says which bytes were taken. -/
theorem unique (h : w.Takes w' bytes) (h' : w.Takes w' others) : bytes = others := by
  obtain ⟨later, hlog, rfl⟩ := h
  obtain ⟨later', hlog', rfl⟩ := h'
  rw [List.append_cancel_left (hlog.symm.trans hlog')]

end World.Takes

namespace Channel

variable {c : Channel} {w : World} {command : Command}

/-! ## One command -/

/-- Sending the command is all or nothing. If it went out, it is valid, its packet was taken, one
packet more is counted, and the channel is open. If it failed, at most a part of its packet was
taken, the count is the same, and the channel is closed. -/
inductive AllOrNothing (c : Channel) (w : World) (command : Command) : Sending → Prop
  | all {c' : Channel} {w' : World} (hvalid : command.isValid = true)
      (htakes : w.Takes w' command.encode) (hsent : c'.sent = c.sent + 1)
      (hopen : c'.isOpen = true) : AllOrNothing c w command (.ok (), c', w')
  | nothing {e : Error} {c' : Channel} {w' : World} {count : Nat} (hcount : count < Command.size)
      (htakes : w.Takes w' (command.encode.take count)) (hsent : c'.sent = c.sent)
      (hclosed : c'.isOpen = false) : AllOrNothing c w command (.error e, c', w')

/-- The command is valid, and the pipe takes its packet and fails to pass it on. -/
def Unflushed (c : Channel) (w : World) (command : Command) : Prop :=
  command.isValid = true ∧ c.target = some .pipe ∧ ∃ detail, w.nextReply.1 = .keep detail

/-- Nothing of the packet was taken. -/
theorem AllOrNothing.untouched {c' : Channel} (e : Error) (hsent : c'.sent = c.sent)
    (hclosed : c'.isOpen = false) : AllOrNothing c w command (.error e, c', w) :=
  .nothing (show 0 < Command.size by decide) (.nothing w) hsent hclosed

/-- A packet that the pipe neither keeps nor breaks on is delivered. -/
theorem fateOf_of_not_breaks {reply : Reply} (hbreaks : ¬ reply.Breaks)
    (hkeep : ∀ detail, reply ≠ .keep detail) : fateOf reply = (.delivered, none) := by
  cases reply with
  | accept => rfl
  | atMost count => rw [fateOf, if_pos (Nat.le_of_not_lt hbreaks)]
  | refuse detail => exact absurd trivial hbreaks
  | keep detail => exact absurd rfl (hkeep detail)

/-- A pipe that breaks is an error, and closes every channel. -/
theorem fateOf_of_breaks {reply : Reply} (hbreaks : reply.Breaks) :
    ∃ fate e, fateOf reply = (fate, some e) ∧ ∀ c : Channel, c.after fate = c.close := by
  cases reply with
  | accept => exact hbreaks.elim
  | atMost count => exact ⟨_, _, if_neg (Nat.not_le_of_lt hbreaks), fun _ => rfl⟩
  | refuse detail => exact ⟨_, _, rfl, fun _ => rfl⟩
  | keep detail => exact hbreaks.elim

/-- The pipe takes of a packet what is logged. -/
theorem takes_log {fate : Fate} {error? : Option Error}
    (hfate : fateOf w.nextReply.1 = (fate, error?)) :
    w.Takes (w.nextReply.2.log ⟨command, fate, .pipe⟩) (w.nextReply.1.takes command.encode) := by
  have hbytes := Reply.bytes_fateOf w.nextReply.1 command .pipe
  rw [hfate] at hbytes
  exact hbytes ▸ .one (congrArg (· ++ [_]) w.transmissions_nextReply)

theorem allOrNothing_sendPipe (hopen : c.isOpen = true) (hvalid : command.isValid = true)
    (hkeep : ∀ detail, w.nextReply.1 ≠ .keep detail) :
    AllOrNothing c w command (c.sendPipe w command) := by
  unfold sendPipe
  rcases w.nextReply.1.takes_cases command with ⟨hwhole, htakes⟩ | ⟨htorn, count, hcount, htakes⟩
  · have hfate := fateOf_of_not_breaks hwhole hkeep
    simp only [hfate]
    exact .all hvalid (htakes ▸ takes_log hfate) rfl hopen
  · obtain ⟨fate, e, hfate, hafter⟩ := fateOf_of_breaks htorn
    simp only [hfate, hafter]
    exact .nothing hcount (htakes ▸ takes_log hfate) rfl rfl

/-- Sending follows the rule unless the packet stays unflushed. -/
theorem allOrNothing_send (h : ¬ c.Unflushed w command) :
    AllOrNothing c w command (c.send w command) := by
  unfold send Command.validate
  cases htarget : c.target with
  | none => exact .untouched _ rfl (isOpen_eq_false_iff.mpr htarget)
  | some target =>
    have hopen : c.isOpen = true := isOpen_iff.mpr ⟨_, htarget⟩
    by_cases hvalid : command.isValid = true
    · simp only [if_pos hvalid]
      cases target with
      | pipe =>
        exact allOrNothing_sendPipe hopen hvalid fun detail hkeep =>
          h ⟨hvalid, htarget, detail, hkeep⟩
      | file path offset =>
        let t : Transmission := ⟨command, .delivered, .file path offset⟩
        exact .all hvalid ⟨[t], rfl, List.append_nil command.encode⟩ rfl rfl
    · simp only [if_neg hvalid]
      exact .untouched _ rfl rfl

/-- A packet that stays unflushed is taken whole. The sender gets an error, and the channel is as it
was: open, with the packet not counted. -/
theorem send_of_unflushed (h : c.Unflushed w command) :
    ∃ detail w', c.send w command = (.error (.inputOutput detail), c, w') ∧ c.isOpen = true ∧
      w.Takes w' command.encode := by
  obtain ⟨hvalid, htarget, detail, hkeep⟩ := h
  have hfate : fateOf w.nextReply.1 = (.unflushed, some (.inputOutput detail)) := by
    rw [hkeep, fateOf]
  have htakes : w.Takes (w.nextReply.2.log ⟨command, .unflushed, .pipe⟩)
      (w.nextReply.1.takes command.encode) := takes_log hfate
  rw [hkeep] at htakes
  refine ⟨detail, _, ?_, isOpen_iff.mpr ⟨_, htarget⟩, htakes⟩
  simp only [send, htarget, Command.validate, if_pos hvalid, sendPipe, hfate, after]

/-- **Sending a command is all or nothing unless its packet stays unflushed.** -/
theorem allOrNothing_iff (c : Channel) (w : World) (command : Command) :
    AllOrNothing c w command (c.send w command) ↔ ¬ c.Unflushed w command := by
  refine ⟨fun hrule h => ?_, allOrNothing_send⟩
  obtain ⟨detail, w', hsend, hopen, -⟩ := send_of_unflushed h
  rw [hsend] at hrule
  cases hrule with
  | nothing _ _ _ hclosed => cases hopen.symm.trans hclosed

/-! ## One command after another -/

/-- Each of the commands is all or nothing when they are sent one after another. -/
def EachAllOrNothing (c : Channel) (w : World) : List Command → Prop
  | [] => True
  | command :: commands =>
    AllOrNothing c w command (c.send w command) ∧
      EachAllOrNothing (c.send w command).2.1 (c.send w command).2.2 commands

/-- On a closed channel every command fails and nothing is taken. -/
theorem eachAllOrNothing_of_closed (h : c.isOpen = false) (w : World) (commands : List Command) :
    c.EachAllOrNothing w commands := by
  induction commands with
  | nil => trivial
  | cons command commands ih =>
    rw [EachAllOrNothing, send_of_closed h]
    exact ⟨.untouched _ rfl h, ih⟩

/-- The number of whole packets in a stream. -/
def wholePackets (stream : Bytes) : Nat :=
  stream.length / Command.size

theorem wholePackets_encode_append (command : Command) (stream : Bytes) :
    wholePackets (command.encode ++ stream) = wholePackets stream + 1 := by
  rw [wholePackets, List.length_append, Command.length_encode, Nat.add_comm,
    Nat.add_div_right _ (by decide)]
  rfl

theorem wholePackets_take {count : Nat} (hcount : count < Command.size) (packet : Bytes) :
    wholePackets (packet.take count) = 0 :=
  Nat.div_eq_of_lt (Nat.lt_of_le_of_lt (List.length_take_le count packet) hcount)

/-- The count grows by no more than the number of whole packets that are taken, and it grows by as
much if and only if every command is all or nothing. -/
theorem exists_takes_sendAll (c : Channel) (w : World) (commands : List Command) :
    ∃ stream, w.Takes (c.sendAll w commands).2.2 stream ∧
      (c.sendAll w commands).2.1.sent ≤ c.sent + wholePackets stream ∧
      ((c.sendAll w commands).2.1.sent = c.sent + wholePackets stream ↔
        c.EachAllOrNothing w commands) := by
  induction commands generalizing c w with
  | nil => exact ⟨[], .nothing w, Nat.le_refl _, iff_of_true rfl trivial⟩
  | cons command commands ih =>
    rw [sendAll_cons, EachAllOrNothing, allOrNothing_iff]
    by_cases h : c.Unflushed w command
    · -- The packet is one more on the stream and none more in the count.
      obtain ⟨detail, w', hsend, -, htakes⟩ := send_of_unflushed h
      obtain ⟨stream, hstream, hle, -⟩ := ih c w'
      have hwhole := wholePackets_encode_append command stream
      simp only [hsend]
      exact ⟨command.encode ++ stream, htakes.append hstream, by omega,
        iff_of_false (by omega) fun hrule => hrule.1 h⟩
    · have hrule := allOrNothing_send h
      rw [and_iff_right h]
      generalize c.send w command = sending at hrule
      cases hrule with
      | @all c' w' hvalid htakes hsent hopen =>
        obtain ⟨stream, hstream, hle, hiff⟩ := ih c' w'
        have hwhole := wholePackets_encode_append command stream
        dsimp only
        refine ⟨command.encode ++ stream, htakes.append hstream, by omega, ?_⟩
        rw [← hiff]
        omega
      | @nothing e c' w' count hcount htakes hsent hclosed =>
        -- The channel is closed now, so the commands that follow change nothing.
        dsimp only
        rw [sendAll_of_closed hclosed]
        refine ⟨command.encode.take count, htakes, ?_, ?_⟩
        · rw [wholePackets_take hcount]
          exact Nat.le_of_eq hsent
        · rw [wholePackets_take hcount]
          exact iff_of_true hsent (eachAllOrNothing_of_closed hclosed w' commands)

/-- **All or nothing, but for packets that stay unflushed.** Sending a command is all or nothing
exactly if the pipe does not take its packet and fail to pass it on; a packet of that kind is on the
stream, is not counted, and leaves the channel open. What is sent in any number of commands is
framed, and the count of the channel is the number of whole packets on the stream exactly if every
one of the commands was all or nothing. -/
theorem counts_whole_packets_iff (c : Channel) (w : World) (command : Command)
    (commands : List Command) :
    (AllOrNothing c w command (c.send w command) ↔ ¬ c.Unflushed w command) ∧
    (c.Unflushed w command → ∃ detail w', c.send w command = (.error (.inputOutput detail), c, w') ∧
      c.isOpen = true ∧ w.Takes w' command.encode) ∧
    ∃ stream, w.Takes (c.sendAll w commands).2.2 stream ∧ Framed commands stream ∧
      ((c.sendAll w commands).2.1.sent = c.sent + wholePackets stream ↔
        c.EachAllOrNothing w commands) := by
  obtain ⟨stream, htakes, -, hcount⟩ := c.exists_takes_sendAll w commands
  obtain ⟨later, hlog, hframed⟩ := c.exists_framed w commands
  refine ⟨c.allOrNothing_iff w command, send_of_unflushed, stream, htakes, ?_, hcount⟩
  exact htakes.unique ⟨later, hlog, rfl⟩ ▸ hframed

/-- A pipe that takes the first packet and fails to pass it on. -/
def keeping : World :=
  { World.ofMemory default with replies := [.keep "flush failed"] }

/-- The packet is on the stream, the channel counts none, and it is still open. -/
theorem unflushed_packet_is_not_counted :
    onPipe.Unflushed keeping .continueDispatch ∧
    ¬ AllOrNothing onPipe keeping .continueDispatch (onPipe.send keeping .continueDispatch) ∧
    (onPipe.send keeping .continueDispatch).2.1.isOpen = true ∧
    ∃ stream, keeping.Takes (onPipe.sendAll keeping [.continueDispatch]).2.2 stream ∧
      stream = Command.continueDispatch.encode ∧
      (onPipe.sendAll keeping [.continueDispatch]).2.1.sent ≠
        onPipe.sent + wholePackets stream := by
  have h : onPipe.Unflushed keeping .continueDispatch := ⟨rfl, rfl, "flush failed", rfl⟩
  obtain ⟨hiff, hkept, stream, htakes, -, hcount⟩ :=
    counts_whole_packets_iff onPipe keeping .continueDispatch [.continueDispatch]
  have hrule : ¬ AllOrNothing onPipe keeping .continueDispatch
      (onPipe.send keeping .continueDispatch) := fun hrule => hiff.mp hrule h
  obtain ⟨detail, w', hsend, hopen, hwhole⟩ := hkept h
  refine ⟨h, hrule, ?_, stream, htakes, ?_, fun hequal => hrule (hcount.mp hequal).1⟩
  · rw [hsend]
    exact hopen
  · refine htakes.unique ?_
    rw [sendAll_cons, hsend]
    exact hwhole

end Channel

end GpuDebug
