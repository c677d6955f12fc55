import GpuDebug.Proofs.Operation

/-!
# Sending

What a command comes to when it is sent, and what a request comes to when it is handed to the
agent, case by case.

* `Debugger.Written`: the state after a command was written.
* `Op.sends`: a closed channel, a command that is not valid, and the four fates of a command;
  `Op.send_eq_ok` and `Op.send_eq_error` say what follows from success and from failure.
* `Debugger.placement?`, `Debugger.command?`: where the code of a source line is, and the command
  of a request, as the state has them.
* `Op.hands`: what `sendRequest` comes to. Every statement about requests that are sent, flushed or
  resolved again rests on this list of cases.
* `Debugger.Steady`: a step that changes no lookup and opens no channel.
-/

namespace GpuDebug

/-- The pipe will deliver every packet. -/
def World.Accepts (w : World) : Prop :=
  ∀ reply ∈ w.replies, (Channel.fateOf reply).1 = .delivered

/-! ## One command -/

/-- The state with its command channel closed. -/
def Debugger.shut (d : Debugger) : Debugger :=
  { d with session := { d.session with channel := d.session.channel.close } }

/-- The state after a command was written. -/
structure Debugger.Written (t : Transmission) (d d' : Debugger) : Prop where
  log : d'.world.transmissions = d.world.transmissions ++ [t]
  replies : d'.world.replies <:+ d.world.replies
  memory : d'.world.memory = d.world.memory
  session : d'.session = { d.session with channel := d'.session.channel }
  host : d'.host = d.host
  isOpen : d'.session.channel.isOpen = t.isComplete
  delivered : d.world.Accepts → t.fate = .delivered

namespace Op

/-- What sending a command comes to. -/
inductive Sends (c : Command) (d : Debugger) : EStateM.Result Error Debugger Unit → Prop
  | closed (h : d.session.channel.isOpen = false) : Sends c d (.error .agentNotReady d)
  | invalid (h : d.session.channel.isOpen = true) (hinvalid : ¬ c.isValid = true) :
      Sends c d (.error c.incomplete d.shut)
  | delivered {t : Transmission} {d' : Debugger} (h : d.session.channel.isOpen = true)
      (hd : d.Written t d') (hc : t.command = c) (ht : t.fate = .delivered) : Sends c d (.ok () d')
  | unflushed {t : Transmission} {d' : Debugger} {detail : String}
      (h : d.session.channel.isOpen = true) (hd : d.Written t d') (hc : t.command = c)
      (ht : t.fate = .unflushed) : Sends c d (.error (.inputOutput detail) d')
  | refused {t : Transmission} {d' : Debugger} {detail : String}
      (h : d.session.channel.isOpen = true) (hd : d.Written t d') (hc : t.command = c)
      (ht : t.fate = .refused) : Sends c d (.error (.inputOutput detail) d')
  | cut {t : Transmission} {d' : Debugger} {count : Nat} (h : d.session.channel.isOpen = true)
      (hd : d.Written t d') (hc : t.command = c) (ht : t.fate = .cut count) :
      Sends c d (.error (.shortWrite count Command.size) d')

/-- Sending over the pipe. -/
theorem sendPipe_written {d d' : Debugger} {c : Command} {reply : Reply} {w : World}
    (hopen : d.session.channel.isOpen = true) (hw : d.world.nextReply = (reply, w))
    (hd : d' = { d with
      session := { d.session with
        channel := d.session.channel.after (Channel.fateOf reply).1 }
      world := w.log ⟨c, (Channel.fateOf reply).1, .pipe⟩ }) :
    d.Written ⟨c, (Channel.fateOf reply).1, .pipe⟩ d' := by
  subst hd
  have hworld : w.transmissions = d.world.transmissions ∧ w.replies <:+ d.world.replies ∧
      w.memory = d.world.memory ∧ (d.world.Accepts → (Channel.fateOf reply).1 = .delivered) := by
    unfold World.nextReply at hw
    cases hr : d.world.replies with
    | nil =>
      rw [hr] at hw
      cases hw
      exact ⟨rfl, hr ▸ List.suffix_rfl, rfl, fun _ => rfl⟩
    | cons first others =>
      rw [hr] at hw
      cases hw
      exact ⟨rfl, List.suffix_cons _ _, rfl, fun h => h reply (hr ▸ List.mem_cons_self)⟩
  obtain ⟨hlog, hreplies, hmemory, haccepts⟩ := hworld
  refine ⟨?_, hreplies, hmemory, rfl, rfl, ?_, haccepts⟩
  · change w.transmissions ++ [_] = _
    rw [hlog]
  · cases (Channel.fateOf reply).1 with
    | delivered => exact hopen
    | unflushed => exact hopen
    | cut count => rfl
    | refused => rfl

/-- **What sending a command comes to.** -/
theorem sends (c : Command) (d : Debugger) : Sends c d ((send c).run d) := by
  unfold send
  simp only [EStateM.run_bind, run_session, run_world, run_modifySession, run_modifyWorld]
  unfold Channel.send Command.validate
  cases htarget : d.session.channel.target with
  | none => exact .closed (Channel.isOpen_eq_false_iff.mpr htarget)
  | some target =>
    have hopen : d.session.channel.isOpen = true := Channel.isOpen_iff.mpr ⟨_, htarget⟩
    by_cases hvalid : c.isValid = true
    · simp only [if_pos hvalid]
      cases target with
      | file path offset =>
        exact .delivered (t := ⟨c, .delivered, .file path offset⟩) hopen
          ⟨rfl, List.suffix_rfl, rfl, rfl, rfl, rfl, fun _ => rfl⟩ rfl rfl
      | pipe =>
        simp only [Channel.sendPipe]
        have hwritten : d.Written ⟨c, (Channel.fateOf d.world.nextReply.1).1, .pipe⟩ _ :=
          sendPipe_written hopen rfl rfl
        cases hreply : d.world.nextReply.1 with
        | accept =>
          rw [hreply] at hwritten
          exact .delivered hopen hwritten rfl rfl
        | refuse detail =>
          rw [hreply] at hwritten
          exact .refused hopen hwritten rfl rfl
        | keep detail =>
          rw [hreply] at hwritten
          exact .unflushed hopen hwritten rfl rfl
        | atMost count =>
          rw [hreply, Channel.fateOf] at hwritten
          rw [Channel.fateOf]
          by_cases hcount : Command.size ≤ count
          · simp only [if_pos hcount] at hwritten ⊢
            exact .delivered hopen hwritten rfl rfl
          · simp only [if_neg hcount] at hwritten ⊢
            exact .cut hopen hwritten rfl rfl
    · simp only [if_neg hvalid]
      exact .invalid hopen hvalid

theorem Sends.of_run {c : Command} {d : Debugger} {x : EStateM.Result Error Debugger Unit}
    (h : (send c).run d = x) : Sends c d x :=
  h ▸ sends c d

/-- A command that was sent was delivered. -/
theorem send_eq_ok {c : Command} {d d' : Debugger} (h : (send c).run d = .ok () d') :
    ∃ t, t.command = c ∧ t.fate = .delivered ∧ d.Written t d' := by
  cases Sends.of_run h with
  | delivered hopen hd hc ht => exact ⟨_, hc, ht, hd⟩

/-- A command that was not sent was not written, and the channel is closed; or it was written and
not delivered. Of these failures only a command that was cut short lets a flush go on no further. -/
theorem send_eq_error {c : Command} {e : Error} {d d' : Debugger}
    (h : (send c).run d = .error e d') :
    (d'.world = d.world ∧ d'.session.channel.isOpen = false ∧ stopsFlush e = true) ∨
    ∃ t, t.command = c ∧ t.fate ≠ .delivered ∧ d.Written t d' ∧
      (stopsFlush e = true ↔ ∃ count, t.fate = .cut count) := by
  cases Sends.of_run h with
  | closed hclosed => exact .inl ⟨rfl, hclosed, rfl⟩
  | invalid hopen hinvalid => exact .inl ⟨rfl, rfl, rfl⟩
  | unflushed hopen hd hc ht =>
    refine .inr ⟨_, hc, by rw [ht]; exact nofun, hd, ?_⟩
    rw [ht]
    exact iff_of_false Bool.false_ne_true nofun
  | refused hopen hd hc ht =>
    refine .inr ⟨_, hc, by rw [ht]; exact nofun, hd, ?_⟩
    rw [ht]
    exact iff_of_false Bool.false_ne_true nofun
  | cut hopen hd hc ht =>
    refine .inr ⟨_, hc, by rw [ht]; exact nofun, hd, ?_⟩
    rw [ht]
    exact ⟨fun _ => ⟨_, rfl⟩, fun _ => rfl⟩

/-- Over an open pipe that takes everything, a command is sent, or it is not valid and the channel
is closed. -/
theorem send_of_accepts {c : Command} {d : Debugger} (hopen : d.session.channel.isOpen = true)
    (haccepts : d.world.Accepts) :
    (∃ t d', t.command = c ∧ t.fate = .delivered ∧ d.Written t d' ∧ (send c).run d = .ok () d') ∨
      (¬ c.isValid = true ∧ (send c).run d = .error c.incomplete d.shut) := by
  have undelivered : ∀ {t : Transmission} {d' : Debugger} {fate : Fate}, d.Written t d' →
      t.fate = fate → fate = .delivered := fun hd ht => ht.symm.trans (hd.delivered haccepts)
  cases hs : (send c).run d with
  | ok u d' =>
    obtain ⟨t, hc, ht, hd⟩ := send_eq_ok hs
    exact .inl ⟨t, d', hc, ht, hd, rfl⟩
  | error e d' =>
    cases Sends.of_run hs with
    | closed hclosed =>
      rw [hopen] at hclosed
      cases hclosed
    | invalid _ hinvalid => exact .inr ⟨hinvalid, rfl⟩
    | unflushed _ hd _ ht => cases undelivered hd ht
    | refused _ hd _ ht => cases undelivered hd ht
    | cut _ hd _ ht => cases undelivered hd ht

/-- A command that is not valid closes an open channel. -/
theorem run_send_of_invalid {c : Command} {d : Debugger} (hopen : d.session.channel.isOpen = true)
    (hinvalid : ¬ c.isValid = true) : (send c).run d = .error c.incomplete d.shut := by
  obtain ⟨target, htarget⟩ := Channel.isOpen_iff.mp hopen
  unfold send
  simp only [EStateM.run_bind, run_session, run_world, run_modifySession, run_modifyWorld]
  unfold Channel.send Command.validate
  simp only [htarget, if_neg hinvalid]
  rfl

/-- The state after sending: nothing happened, or a command that is not valid closed the channel, or
a valid one was written. -/
theorem send_final_cases (c : Command) (d : Debugger) :
    (send c).final d = d ∨
    (d.session.channel.isOpen = true ∧ ((¬ c.isValid = true ∧ (send c).final d = d.shut) ∨
      (c.isValid = true ∧ ∃ t, t.command = c ∧ d.Written t ((send c).final d)))) := by
  by_cases hvalid : c.isValid = true
  · cases hs : (send c).run d with
    | ok u d' =>
      rw [final_of_ok hs]
      cases Sends.of_run hs with
      | delivered hopen hd hc ht => exact .inr ⟨hopen, .inr ⟨hvalid, _, hc, hd⟩⟩
    | error e d' =>
      rw [final_of_error hs]
      cases Sends.of_run hs with
      | closed hclosed => exact .inl rfl
      | invalid hopen hinvalid => exact absurd hvalid hinvalid
      | unflushed hopen hd hc ht => exact .inr ⟨hopen, .inr ⟨hvalid, _, hc, hd⟩⟩
      | refused hopen hd hc ht => exact .inr ⟨hopen, .inr ⟨hvalid, _, hc, hd⟩⟩
      | cut hopen hd hc ht => exact .inr ⟨hopen, .inr ⟨hvalid, _, hc, hd⟩⟩
  · by_cases hopen : d.session.channel.isOpen = true
    · exact .inr ⟨hopen, .inl ⟨hvalid, final_of_error (run_send_of_invalid hopen hvalid)⟩⟩
    · refine .inl (final_of_error (e := .agentNotReady) ?_)
      cases hs : (send c).run d with
      | ok u d' =>
        cases Sends.of_run hs with
        | delivered hopen' => exact absurd hopen' hopen
      | error e d' =>
        cases Sends.of_run hs with
        | closed => rfl
        | invalid hopen' => exact absurd hopen' hopen
        | unflushed hopen' => exact absurd hopen' hopen
        | refused hopen' => exact absurd hopen' hopen
        | cut hopen' => exact absurd hopen' hopen

/-- The state after sending: nothing happened, or the channel was closed, or a command was
written. -/
theorem send_final (c : Command) (d : Debugger) :
    (send c).final d = d ∨
    (d.session.channel.isOpen = true ∧ ((send c).final d = d.shut ∨
      ∃ t, t.command = c ∧ d.Written t ((send c).final d))) := by
  rcases send_final_cases c d with h | ⟨hopen, ⟨-, h⟩ | ⟨-, h⟩⟩
  · exact .inl h
  · exact .inr ⟨hopen, .inl h⟩
  · exact .inr ⟨hopen, .inr h⟩

/-- Sending concerns neither the requests that wait nor the host. -/
theorem send_keeps (c : Command) (d : Debugger) :
    ((send c).final d).session.pending = d.session.pending ∧ ((send c).final d).host = d.host := by
  rcases send_final c d with h | ⟨-, h | ⟨t, -, h⟩⟩
  · rw [h]
    exact ⟨rfl, rfl⟩
  · rw [h]
    exact ⟨rfl, rfl⟩
  · exact ⟨by rw [h.session], h.host⟩

end Op

/-! ## Looking a request up -/

/-- Where the code of a source line is. -/
structure Placement where
  /-- The nearest line with code, as a packet carries it. -/
  line : Int32
  /-- The first address of that line, inside the code object. -/
  address : UInt64
  /-- The process address of `address`. -/
  pc : UInt64
  statement : String

namespace Placement

/-- The command for a request at the place. -/
def command (p : Placement) (r : Request) : Command :=
  .createSource r.number p.pc p.line p.statement r.condition.toPacket

/-- A breakpoint of the host once the request at the place was sent. -/
def record (p : Placement) (r : Request) (b : Breakpoint) : Breakpoint :=
  { b with
    request := r.withStatement p.statement
    pc := some p.pc
    codeAddress := some p.address }

theorem record_number (p : Placement) (r : Request) (b : Breakpoint) :
    (p.record r b).number = b.number := rfl

end Placement

namespace Debugger

/-- The segments that addresses are translated by: those that are loaded if one of them executes,
otherwise those that the agent publishes now. -/
def usableSegments (d : Debugger) : Except Error SegmentTable :=
  if d.session.segments.executing.isNone then
    SegmentTable.ofRegion (d.world.memory.read .loadMap)
  else .ok d.session.segments

/-- Where the code of a source line is, if there is any at or after it. -/
def placement? (d : Debugger) (line : UInt64) : Except Error (Option Placement) := do
  match ← d.session.debugInfo.resolveLine none line with
  | none => return none
  | some place =>
    match ← d.session.debugInfo.firstAddress place with
    | none => return none
    | some address =>
      let pc ← (← d.usableSegments).toProcess address
      let line ← Op.packetLine place.line
      return some ⟨line, address, pc, d.session.debugInfo.statement place.line⟩

/-- The command that creates the breakpoint of a request, if its line has code. -/
def command? (d : Debugger) (r : Request) : Except Error (Option Command) :=
  match r.location with
  | .kernel name | .anywhere name => .ok (some (.createKernel r.number name r.condition.toPacket))
  | .source _ line _ => Option.map (·.command r) <$> d.placement? line
  | .unknown => .error (.internal s!"breakpoint {r.number} has no location")

/-- The host once a request was sent: source breakpoints keep where they are. -/
def recorded (d : Debugger) (r : Request) (h : Host) : Host :=
  match r.location with
  | .source _ line _ =>
    match d.placement? line with
    | .ok (some p) => h.update r.number (p.record r)
    | _ => h
  | _ => h

/-- The command for a source line is the one for its place. -/
theorem command?_source {d : Debugger} {r : Request} {file : Option String} {line : UInt64}
    {statement : Option String} (hr : r.location = .source file line statement) :
    d.command? r = Option.map (·.command r) <$> d.placement? line := by
  rw [command?, hr]

theorem command?_eq_some_iff {d : Debugger} {r : Request} {file : Option String} {line : UInt64}
    {statement : Option String} {c : Command} (hr : r.location = .source file line statement) :
    d.command? r = .ok (some c) ↔ ∃ p, d.placement? line = .ok (some p) ∧ p.command r = c := by
  rw [command?_source hr]
  cases d.placement? line with
  | error e => exact iff_of_false nofun nofun
  | ok p? =>
    cases p? with
    | none => exact iff_of_false nofun nofun
    | some p =>
      constructor
      · intro h
        cases h
        exact ⟨p, rfl, rfl⟩
      · rintro ⟨p', hp, rfl⟩
        cases hp
        rfl

/-- The command of a request creates the breakpoint of its number. -/
theorem command?_creates {d : Debugger} {r : Request} {c : Command}
    (h : d.command? r = .ok (some c)) : c.tag = .createBreakpoint ∧ c.breakpoint = r.number := by
  cases hr : r.location with
  | source file line statement =>
    obtain ⟨p, -, rfl⟩ := (command?_eq_some_iff hr).mp h
    exact ⟨rfl, rfl⟩
  | unknown =>
    rw [command?, hr] at h
    cases h
  | _ =>
    rw [command?, hr] at h
    cases h
    exact ⟨rfl, rfl⟩

/-- The state once a request was sent. -/
def sentState (d : Debugger) (r : Request) (d' : Debugger) : Debugger :=
  { d' with host := d.recorded r d'.host }

/-- The state after a lookup: the load map may have been read, and the user told something. -/
structure Looked (d d' : Debugger) : Prop where
  session : d'.session = { d.session with segments := d'.session.segments }
  segments : d'.usableSegments = d.usableSegments
  breakpoints : d'.host.breakpoints = d.host.breakpoints
  world : d'.world = d.world

theorem Looked.refl (d : Debugger) : d.Looked d :=
  ⟨rfl, rfl, rfl, rfl⟩

end Debugger

namespace Op

/-- What handing a request to the agent comes to. -/
inductive Hands (r : Request) (d : Debugger) : EStateM.Result Error Debugger Resolution → Prop
  | failed {e : Error} {d₁ : Debugger} (hc : d.command? r = .error e) (hl : d.Looked d₁) :
      Hands r d (.error e d₁)
  | unmapped {d₁ : Debugger} (hc : d.command? r = .ok none) (hl : d.Looked d₁) :
      Hands r d (.ok .notMapped d₁)
  | unsent {c : Command} {e : Error} {d₁ d₂ : Debugger} (hc : d.command? r = .ok (some c))
      (hl : d.Looked d₁) (hs : (send c).run d₁ = .error e d₂) : Hands r d (.error e d₂)
  | sent {c : Command} {pc : Option UInt64} {d₁ d₂ : Debugger}
      (hc : d.command? r = .ok (some c)) (hl : d.Looked d₁) (hs : (send c).run d₁ = .ok () d₂) :
      Hands r d (.ok (.sent pc) (d.sentState r d₂))

/-- Sends a request whose place is known. -/
def sendPlaced (r : Request) (p : Placement) : Op Resolution := do
  send (p.command r)
  modifyHost (·.update r.number (p.record r))
  return .sent (some p.pc)

section Source

variable {r : Request} {file : Option String} {line : UInt64} {statement : Option String}
  {d d₁ : Debugger}

theorem sendPlaced_hands {p : Placement} (hr : r.location = .source file line statement)
    (hp : d.placement? line = .ok (some p)) (hl : d.Looked d₁) :
    Hands r d ((sendPlaced r p).run d₁) := by
  have hc : d.command? r = .ok (some (p.command r)) :=
    (Debugger.command?_eq_some_iff hr).mpr ⟨p, hp, rfl⟩
  have hrecorded : ∀ h : Host, d.recorded r h = h.update r.number (p.record r) := by
    intro h
    rw [Debugger.recorded, hr]
    simp only [hp]
  unfold sendPlaced
  simp only [EStateM.run_bind]
  cases hs : (send (p.command r)).run d₁ with
  | error e d₂ => exact .unsent hc hl hs
  | ok u d₂ =>
    have hands : Hands r d (.ok (.sent (some p.pc)) (d.sentState r d₂)) := .sent hc hl hs
    rw [Debugger.sentState, hrecorded] at hands
    exact hands

/-- The rest of `sendSource`, once the segments were looked at. -/
theorem sendLocated_hands {place : CodeLocation} {address : UInt64}
    (hr : r.location = .source file line statement)
    (hplace : d.session.debugInfo.resolveLine none line = .ok (some place))
    (haddress : d.session.debugInfo.firstAddress place = .ok (some address))
    (hsegments : d.usableSegments = .ok d₁.session.segments) (hl : d.Looked d₁) :
    Hands r d (EStateM.run (do
      let pc ← ofExcept ((← session).segments.toProcess address)
      let statement := (← session).debugInfo.statement place.line
      let packetLine ← ofExcept (packetLine place.line)
      send (.createSource r.number pc packetLine statement r.condition.toPacket)
      modifyHost (·.update r.number fun b =>
        { b with request := r.withStatement statement, pc := some pc, codeAddress := some address })
      return .sent (some pc)) d₁) := by
  have hplacement : d.placement? line = (do
      let pc ← d₁.session.segments.toProcess address
      let line ← packetLine place.line
      return some ⟨line, address, pc, d.session.debugInfo.statement place.line⟩) := by
    unfold Debugger.placement?
    simp only [hplace, haddress, hsegments, bind, Except.bind]
  have hfailed : ∀ e, d.placement? line = .error e → d.command? r = .error e := by
    intro e he
    rw [Debugger.command?_source hr, he]
    rfl
  have hinfo : d₁.session.debugInfo = d.session.debugInfo := by rw [hl.session]
  cases hpc : d₁.session.segments.toProcess address with
  | error e =>
    rw [hpc] at hplacement
    simp only [EStateM.run_bind, run_session, hpc, run_ofExcept_error]
    exact .failed (hfailed e hplacement) hl
  | ok pc =>
    cases hpacket : packetLine place.line with
    | error e =>
      rw [hpc, hpacket] at hplacement
      simp only [EStateM.run_bind, run_session, hpc, run_ofExcept_ok, run_ofExcept_error]
      exact .failed (hfailed e hplacement) hl
    | ok packetLine =>
      rw [hpc, hpacket] at hplacement
      have hands := sendPlaced_hands hr hplacement hl
      rw [bind_of_ok (run_session d₁), hpc, bind_of_ok (run_ofExcept_ok pc d₁),
        bind_of_ok (run_session d₁)]
      dsimp only
      rw [hinfo, bind_of_ok (run_ofExcept_ok packetLine d₁)]
      exact hands

theorem sendSource_hands (hr : r.location = .source file line statement) :
    Hands r d ((sendSource r file line).run d) := by
  have hcommand : ∀ x, d.placement? line = x → d.command? r = Option.map (·.command r) <$> x := by
    rintro x rfl
    exact Debugger.command?_source hr
  unfold sendSource
  simp only [EStateM.run_bind, run_session]
  cases hplace : d.session.debugInfo.resolveLine none line with
  | error e =>
    refine .failed (hcommand (.error e) ?_) (.refl d)
    simp only [Debugger.placement?, hplace, bind, Except.bind]
  | ok place? =>
    cases place? with
    | none =>
      refine .unmapped (hcommand (.ok none) ?_) ⟨rfl, rfl, rfl, rfl⟩
      simp only [Debugger.placement?, hplace, bind, Except.bind, pure, Except.pure]
    | some place =>
      simp only [run_ofExcept_ok, EStateM.run_bind, run_session]
      cases haddress : d.session.debugInfo.firstAddress place with
      | error e =>
        refine .failed (hcommand (.error e) ?_) (.refl d)
        simp only [Debugger.placement?, hplace, haddress, bind, Except.bind]
      | ok address? =>
        cases address? with
        | none =>
          refine .unmapped (hcommand (.ok none) ?_) (.refl d)
          simp only [Debugger.placement?, hplace, haddress, bind, Except.bind, pure, Except.pure]
        | some address =>
          simp only [run_ofExcept_ok, EStateM.run_bind, run_session]
          by_cases hnone : d.session.segments.executing.isNone = true
          · have husable : d.usableSegments =
                SegmentTable.ofRegion (d.world.memory.read .loadMap) := by
              rw [Debugger.usableSegments, if_pos hnone]
            simp only [if_pos hnone, EStateM.run_bind, refreshSegments, run_world]
            cases hregion : SegmentTable.ofRegion (d.world.memory.read .loadMap) with
            | error e =>
              refine .failed (hcommand (.error e) ?_) (.refl d)
              simp only [Debugger.placement?, hplace, haddress, husable, hregion, bind, Except.bind]
            | ok segments =>
              refine sendLocated_hands hr hplace haddress (husable.trans hregion)
                ⟨rfl, ?_, rfl, rfl⟩
              rw [husable, hregion, Debugger.usableSegments]
              split
              · exact hregion
              · rfl
          · have hsegments : d.usableSegments = .ok d.session.segments := by
              rw [Debugger.usableSegments, if_neg hnone]
            simp only [if_neg hnone]
            exact sendLocated_hands hr hplace haddress hsegments (.refl d)

end Source

/-- **What handing a request to the agent comes to.** -/
theorem hands (r : Request) (d : Debugger) : Hands r d ((sendRequest r).run d) := by
  have entry : ∀ name,
      d.command? r = .ok (some (.createKernel r.number name r.condition.toPacket)) →
      (∀ h, d.recorded r h = h) → Hands r d (EStateM.run (do
        send (.createKernel r.number name r.condition.toPacket)
        return .sent none) d) := by
    intro name hc hrecorded
    simp only [EStateM.run_bind]
    cases hs : (send (.createKernel r.number name r.condition.toPacket)).run d with
    | error e d₂ => exact .unsent hc (.refl d) hs
    | ok u d₂ =>
      have hands : Hands r d (.ok (.sent none) (d.sentState r d₂)) := .sent hc (.refl d) hs
      rw [Debugger.sentState, hrecorded] at hands
      exact hands
  unfold sendRequest
  cases hr : r.location with
  | kernel name =>
    exact entry name (by rw [Debugger.command?, hr]) fun h => by rw [Debugger.recorded, hr]
  | anywhere name =>
    exact entry name (by rw [Debugger.command?, hr]) fun h => by rw [Debugger.recorded, hr]
  | source file line statement => exact sendSource_hands hr
  | unknown => exact .failed (by rw [Debugger.command?, hr]) (.refl d)

theorem Hands.of_run {r : Request} {d : Debugger} {x : EStateM.Result Error Debugger Resolution}
    (h : (sendRequest r).run d = x) : Hands r d x :=
  h ▸ hands r d

end Op

/-! ## Lookups that do not change -/

/-- The step changes no lookup and opens no channel. -/
structure Debugger.Steady (d d' : Debugger) : Prop where
  debugInfo : d'.session.debugInfo = d.session.debugInfo
  segments : d'.usableSegments = d.usableSegments
  memory : d'.world.memory = d.world.memory
  isOpen : d'.session.channel.isOpen = true → d.session.channel.isOpen = true

namespace Debugger.Steady

variable {d d' : Debugger}

instance : IsPreorder Debugger Steady where
  refl _ := ⟨rfl, rfl, rfl, id⟩
  trans _ _ _ h h' := ⟨h'.debugInfo.trans h.debugInfo, h'.segments.trans h.segments,
    h'.memory.trans h.memory, h.isOpen ∘ h'.isOpen⟩

theorem placement? (h : d.Steady d') (line : UInt64) : d'.placement? line = d.placement? line := by
  unfold Debugger.placement?
  rw [h.debugInfo, h.segments]

theorem command? (h : d.Steady d') (r : Request) : d'.command? r = d.command? r := by
  unfold Debugger.command?
  cases r.location <;> simp only [h.placement?]

end Debugger.Steady

theorem Debugger.Looked.steady {d d' : Debugger} (h : d.Looked d') : d.Steady d' where
  debugInfo := by rw [h.session]
  segments := h.segments
  memory := by rw [h.world]
  isOpen := by rw [h.session]; exact id

theorem Debugger.Written.steady {t : Transmission} {d d' : Debugger} (h : d.Written t d')
    (hopen : d.session.channel.isOpen = true) : d.Steady d' where
  debugInfo := by rw [h.session]
  segments := by rw [usableSegments, usableSegments, h.session, h.memory]
  memory := h.memory
  isOpen _ := hopen

namespace Op

theorem steady_send (c : Command) : Respects Debugger.Steady (send c) := by
  intro d
  rcases send_final c d with h | ⟨hopen, h | ⟨t, -, h⟩⟩
  · rw [h]
    exact refl_of _ d
  · rw [h]
    exact ⟨rfl, rfl, rfl, fun _ => hopen⟩
  · exact h.steady hopen

theorem steady_setAgentLogging (enabled : Bool) :
    Respects Debugger.Steady (setAgentLogging enabled) := by
  refine .bind .session fun s => .bind .world fun w => .ite (fun _ => ⟨rfl, rfl, rfl, id⟩) ?_
  exact .bind (fun _ => ⟨rfl, rfl, rfl, id⟩) fun _ => .bind .session fun s =>
    .ite (steady_send _) (.pure _)

end Op

end GpuDebug
