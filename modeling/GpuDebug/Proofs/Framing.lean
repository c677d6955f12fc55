import GpuDebug.Channel

/-!
# The framing of the command stream

The agent reads packets of one size, so it can follow the stream only if nothing but whole packets
comes before any byte. A packet that was cut short is the last thing on the stream.

* `Channel.sendAll`: sends one command after another, whatever the pipe makes of them.
* `Channel.Sends`: what sending one command comes to.
* `Channel.Breaks`: the command is not valid, or the pipe fails to write it or cuts it short.
* `Framed`: packets of commands of a list, and possibly a part of one more.
* `Channel.sendAll_framed`: the main result.
-/

namespace GpuDebug

/-! ## One command -/

/-- The pipe fails to write a packet or writes only a part of it. -/
def Reply.Breaks : Reply → Prop
  | .refuse _ => True
  | .atMost count => count < Command.size
  | .accept | .keep _ => False

/-- The bytes that the pipe takes of a packet. -/
def Reply.takes (reply : Reply) (packet : Bytes) : Bytes :=
  match reply with
  | .accept | .keep _ => packet
  | .atMost count => packet.take count
  | .refuse _ => []

/-- What the pipe takes is what the log has. -/
theorem Reply.bytes_fateOf (reply : Reply) (command : Command) (target : Target) :
    (Transmission.mk command (Channel.fateOf reply).1 target).bytes =
      reply.takes command.encode := by
  cases reply with
  | accept => rfl
  | refuse detail => rfl
  | keep detail => rfl
  | atMost count =>
    rw [Channel.fateOf, takes]
    split
    · next h => exact (List.take_of_length_le (command.length_encode ▸ h)).symm
    · rfl

/-- A pipe that breaks takes a part of the packet, and one that does not takes all of it. -/
theorem Reply.takes_cases (reply : Reply) (command : Command) :
    (¬ reply.Breaks ∧ reply.takes command.encode = command.encode) ∨
      (reply.Breaks ∧ ∃ count < Command.size,
        reply.takes command.encode = command.encode.take count) := by
  cases reply with
  | accept => exact .inl ⟨id, rfl⟩
  | keep detail => exact .inl ⟨id, rfl⟩
  | refuse detail => exact .inr ⟨trivial, 0, by decide, rfl⟩
  | atMost count =>
    by_cases h : count < Command.size
    · exact .inr ⟨h, count, h, rfl⟩
    · refine .inl ⟨h, List.take_of_length_le ?_⟩
      rw [Command.length_encode]
      exact Nat.le_of_not_lt h

theorem World.transmissions_nextReply (w : World) :
    w.nextReply.2.transmissions = w.transmissions := by
  unfold nextReply
  cases w.replies <;> rfl

namespace Channel

/-- The channel breaks on the command: it is not valid, or the pipe fails to write it or cuts it
short. -/
def Breaks (c : Channel) (w : World) (command : Command) : Prop :=
  ¬ command.isValid = true ∨ c.target = some .pipe ∧ w.nextReply.1.Breaks

/-- The channel stays open after a packet exactly if the pipe does not break. -/
theorem isOpen_after_fateOf {c : Channel} (hopen : c.isOpen = true) (reply : Reply) :
    (c.after (fateOf reply).1).isOpen = true ↔ ¬ reply.Breaks := by
  cases reply with
  | accept => exact iff_of_true hopen id
  | keep detail => exact iff_of_true hopen id
  | refuse detail => exact iff_of_false Bool.false_ne_true (not_not_intro trivial)
  | atMost count =>
    rw [fateOf]
    split
    · next h => exact iff_of_true hopen (Nat.not_lt_of_le h)
    · next h => exact iff_of_false Bool.false_ne_true (not_not_intro (Nat.lt_of_not_le h))

/-- What sending a command comes to: the channel was closed, the command was not valid, all of its
packet was taken, or a part of it. -/
inductive Sends (c : Channel) (w : World) (command : Command) : Sending → Prop
  | closed (h : c.isOpen = false) : Sends c w command (.error .agentNotReady, c, w)
  | invalid (h : c.isOpen = true) (hinvalid : ¬ command.isValid = true) :
      Sends c w command (.error command.incomplete, c.close, w)
  | whole {result : Except Error Unit} {c' : Channel} {w' : World} {t : Transmission}
      (h : c.isOpen = true) (hvalid : command.isValid = true) (hbreaks : ¬ c.Breaks w command)
      (hopen : c'.isOpen = true) (hlog : w'.transmissions = w.transmissions ++ [t])
      (hbytes : t.bytes = command.encode) : Sends c w command (result, c', w')
  | torn {result : Except Error Unit} {c' : Channel} {w' : World} {t : Transmission} {count : Nat}
      (h : c.isOpen = true) (hvalid : command.isValid = true) (hbreaks : c.Breaks w command)
      (hclosed : c'.isOpen = false) (hlog : w'.transmissions = w.transmissions ++ [t])
      (hbytes : t.bytes = command.encode.take count) (hcount : count < Command.size) :
      Sends c w command (result, c', w')

theorem sendPipe_sends {c : Channel} {command : Command} (w : World)
    (htarget : c.target = some .pipe) (hvalid : command.isValid = true) :
    Sends c w command (c.sendPipe w command) := by
  have hopen : c.isOpen = true := isOpen_iff.mpr ⟨_, htarget⟩
  have hafter := isOpen_after_fateOf hopen w.nextReply.1
  have hlog : ∀ t, (w.nextReply.2.log t).transmissions = w.transmissions ++ [t] := fun t =>
    congrArg (· ++ [t]) w.transmissions_nextReply
  have hbreaks : c.Breaks w command ↔ w.nextReply.1.Breaks := by
    rw [Breaks, or_iff_right (not_not_intro hvalid), and_iff_right htarget]
  rcases w.nextReply.1.takes_cases command with ⟨hwhole, htakes⟩ | ⟨htorn, count, hcount, htakes⟩
  · exact .whole hopen hvalid (mt hbreaks.mp hwhole) (hafter.mpr hwhole) (hlog _)
      ((Reply.bytes_fateOf _ command _).trans htakes)
  · refine .torn hopen hvalid (hbreaks.mpr htorn) ?_ (hlog _)
      ((Reply.bytes_fateOf _ command _).trans htakes) hcount
    exact Bool.eq_false_iff.mpr (mt hafter.mp (not_not_intro htorn))

/-- **What sending a command comes to.** -/
theorem sends (c : Channel) (w : World) (command : Command) :
    Sends c w command (c.send w command) := by
  unfold send Command.validate
  cases htarget : c.target with
  | none => exact .closed (isOpen_eq_false_iff.mpr htarget)
  | some target =>
    have hopen : c.isOpen = true := isOpen_iff.mpr ⟨_, htarget⟩
    by_cases hvalid : command.isValid = true
    · simp only [if_pos hvalid]
      cases target with
      | pipe => exact sendPipe_sends w htarget hvalid
      | file path offset =>
        refine .whole hopen hvalid ?_ rfl rfl rfl
        rintro (hinvalid | ⟨hpipe, -⟩)
        · exact hinvalid hvalid
        · rw [htarget] at hpipe
          cases hpipe
    · simp only [if_neg hvalid]
      exact .invalid hopen hvalid

/-- A channel is open after a command exactly if it was and did not break on it. -/
theorem isOpen_send (c : Channel) (w : World) (command : Command) :
    (c.send w command).2.1.isOpen = true ↔ c.isOpen = true ∧ ¬ c.Breaks w command := by
  generalize hx : c.send w command = x
  cases hx ▸ c.sends w command with
  | closed h => exact iff_of_false (by simp [h]) (by simp [h])
  | invalid h hinvalid => exact iff_of_false Bool.false_ne_true fun hn => hn.2 (.inl hinvalid)
  | whole h hvalid hbreaks hopen => exact iff_of_true hopen ⟨h, hbreaks⟩
  | torn h hvalid hbreaks hclosed => exact iff_of_false (by simp [hclosed]) fun hn => hn.2 hbreaks

/-! ## One command after another -/

/-- Sends one command after another: the results, the channel and the world after them. -/
def sendAll (c : Channel) (w : World) : List Command → List (Except Error Unit) × Channel × World
  | [] => ([], c, w)
  | command :: commands =>
    let (result, c, w) := c.send w command
    let (results, c, w) := sendAll c w commands
    (result :: results, c, w)

theorem sendAll_cons (c : Channel) (w : World) (command : Command) (commands : List Command) :
    c.sendAll w (command :: commands) =
      ((c.send w command).1 ::
          ((c.send w command).2.1.sendAll (c.send w command).2.2 commands).1,
        ((c.send w command).2.1.sendAll (c.send w command).2.2 commands).2) := rfl

theorem sendAll_append (c : Channel) (w : World) (before after : List Command) :
    c.sendAll w (before ++ after) =
      ((c.sendAll w before).1 ++
          ((c.sendAll w before).2.1.sendAll (c.sendAll w before).2.2 after).1,
        ((c.sendAll w before).2.1.sendAll (c.sendAll w before).2.2 after).2) := by
  induction before generalizing c w with
  | nil => rfl
  | cons command before ih => rw [List.cons_append, sendAll_cons, ih, sendAll_cons]; rfl

/-- Nothing is written to a closed channel, and it stays closed. -/
theorem send_of_closed {c : Channel} (h : c.isOpen = false) (w : World) (command : Command) :
    c.send w command = (.error .agentNotReady, c, w) := by
  rw [send, isOpen_eq_false_iff.mp h]

theorem sendAll_of_closed {c : Channel} (h : c.isOpen = false) (w : World)
    (commands : List Command) :
    c.sendAll w commands = (commands.map fun _ => .error .agentNotReady, c, w) := by
  induction commands with
  | nil => rfl
  | cons command commands ih => rw [sendAll_cons, send_of_closed h, ih]; rfl

end Channel

/-! ## Framed bytes -/

/-- The bytes are the packets of valid commands of a list, in order and each at most once, and
possibly a part of one packet more. -/
inductive Framed (commands : List Command) : Bytes → Prop
  | whole {sent : List Command} (hsent : sent.Sublist commands)
      (hvalid : ∀ command ∈ sent, command.isValid = true) :
      Framed commands (sent.flatMap Command.encode)
  | torn {sent : List Command} {last : Command} {count : Nat}
      (hsent : (sent ++ [last]).Sublist commands)
      (hvalid : ∀ command ∈ sent ++ [last], command.isValid = true)
      (hcount : count < Command.size) :
      Framed commands (sent.flatMap Command.encode ++ last.encode.take count)

namespace Framed

variable {command : Command} {commands : List Command} {bytes : Bytes}

theorem nil (commands : List Command) : Framed commands [] :=
  .whole (List.nil_sublist commands) (List.forall_mem_nil _)

/-- A command that is not on the stream. -/
theorem skip (h : Framed commands bytes) : Framed (command :: commands) bytes := by
  cases h with
  | whole hsent hvalid => exact .whole (hsent.cons command) hvalid
  | torn hsent hvalid hcount => exact .torn (hsent.cons command) hvalid hcount

/-- A command that is all on the stream. -/
theorem cons (hvalid : command.isValid = true) (h : Framed commands bytes) :
    Framed (command :: commands) (command.encode ++ bytes) := by
  cases h with
  | @whole sent hsent hvalids =>
    rw [← List.flatMap_cons]
    exact .whole (hsent.cons_cons command) (List.forall_mem_cons.mpr ⟨hvalid, hvalids⟩)
  | @torn sent last count hsent hvalids hcount =>
    rw [← List.append_assoc, ← List.flatMap_cons]
    exact .torn (hsent.cons_cons command) (List.forall_mem_cons.mpr ⟨hvalid, hvalids⟩) hcount

/-- A command of which a part is on the stream, and nothing after it. -/
theorem cut (hvalid : command.isValid = true) {count : Nat} (hcount : count < Command.size) :
    Framed (command :: commands) (command.encode.take count) :=
  @torn _ [] command count ((List.nil_sublist commands).cons_cons command)
    (List.forall_mem_singleton.mpr hvalid) hcount

end Framed

namespace Channel

/-- What is written for a list of commands is framed. -/
theorem exists_framed (c : Channel) (w : World) (commands : List Command) :
    ∃ later, (c.sendAll w commands).2.2.transmissions = w.transmissions ++ later ∧
      Framed commands (later.flatMap Transmission.bytes) := by
  induction commands generalizing c w with
  | nil => exact ⟨[], (List.append_nil _).symm, .nil []⟩
  | cons command commands ih =>
    rw [sendAll_cons]
    generalize hx : c.send w command = x
    cases hx ▸ c.sends w command with
    | closed h =>
      obtain ⟨later, hlog, hframed⟩ := ih c w
      exact ⟨later, hlog, hframed.skip⟩
    | invalid h hinvalid =>
      obtain ⟨later, hlog, hframed⟩ := ih c.close w
      exact ⟨later, hlog, hframed.skip⟩
    | @whole result c' w' t h hvalid hbreaks hopen hwrite hbytes =>
      obtain ⟨later, hlog, hframed⟩ := ih c' w'
      refine ⟨t :: later, ?_, ?_⟩
      · rw [hlog, hwrite, List.append_assoc, List.singleton_append]
      · rw [List.flatMap_cons, hbytes]
        exact hframed.cons hvalid
    | @torn result c' w' t count h hvalid hbreaks hclosed hwrite hbytes hcount =>
      -- The channel is closed now, so the part that was taken is the end of the stream.
      refine ⟨[t], ?_, ?_⟩
      · rw [sendAll_of_closed hclosed]
        exact hwrite
      · rw [List.flatMap_cons, List.flatMap_nil, List.append_nil, hbytes]
        exact .cut hvalid hcount

/-- **The stream is framed, and it ends where the channel breaks.** Whatever the pipe makes of the
packets, the bytes that it takes are packets of valid commands among those sent, in order and each
at most once, and possibly a part of one packet more. Once the channel breaks on a command, it is
closed, every later command is refused, and the world is left as it is. -/
theorem sendAll_framed (c : Channel) (w : World) (commands : List Command) :
    (∀ command : Command, command.encode.length = Command.size) ∧
    (∃ later, (c.sendAll w commands).2.2.transmissions = w.transmissions ++ later ∧
      Framed commands (later.flatMap Transmission.bytes)) ∧
    ∀ before command after, commands = before ++ command :: after →
      (c.sendAll w before).2.1.Breaks (c.sendAll w before).2.2 command →
      ∃ results c' w', c.sendAll w (before ++ [command]) = (results, c', w') ∧
        c'.isOpen = false ∧
        c.sendAll w commands = (results ++ after.map fun _ => .error .agentNotReady, c', w') := by
  refine ⟨Command.length_encode, c.exists_framed w commands, ?_⟩
  intro before command after hcommands hbreaks
  have hclosed : (c.sendAll w (before ++ [command])).2.1.isOpen = false := by
    rw [sendAll_append]
    exact Bool.eq_false_iff.mpr fun hopen => ((isOpen_send _ _ _).mp hopen).2 hbreaks
  refine ⟨_, _, _, rfl, hclosed, ?_⟩
  rw [hcommands, List.append_cons, sendAll_append, sendAll_of_closed hclosed]

/-- A pipe that takes one packet and ten bytes of the next. -/
def cutting : World :=
  { World.ofMemory default with replies := [.accept, .atMost 10] }

/-- The packet that is cut short is the last one. -/
theorem nothing_after_a_cut :
    (onPipe.sendAll cutting [.delete 1]).2.1.Breaks (onPipe.sendAll cutting [.delete 1]).2.2
        (.delete 2) ∧
    ∃ results c' w', c'.isOpen = false ∧
      onPipe.sendAll cutting [.delete 1, .delete 2, .continueDispatch] =
        (results ++ [.error .agentNotReady], c', w') := by
  have hbreaks : (onPipe.sendAll cutting [.delete 1]).2.1.Breaks
      (onPipe.sendAll cutting [.delete 1]).2.2 (.delete 2) :=
    .inr ⟨rfl, show 10 < Command.size by decide⟩
  obtain ⟨-, -, hends⟩ :=
    sendAll_framed onPipe cutting [.delete 1, .delete 2, .continueDispatch]
  obtain ⟨results, c', w', -, hclosed, hrun⟩ :=
    hends [.delete 1] (.delete 2) [.continueDispatch] rfl hbreaks
  exact ⟨hbreaks, results, c', w', hclosed, hrun⟩

end Channel

end GpuDebug
