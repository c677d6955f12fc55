import GpuDebug.Proofs.Lookup
import GpuDebug.Proofs.Overlay
import GpuDebug.Proofs.Reload

/-!
# Steps that can change places

A request that the agent cannot take yet waits, and what comes before it can be taken does not look
at it. When it is flushed at last, this comes to resolving it only then. So it does not matter
whether a breakpoint is set before the channel is opened or after it, nor whether a breakpoint on a
source line is set before the code object comes or after it.

* `Op.flushPending_final_pushed`: flushing the only request that waits comes to resolving it.
* `Debugger.resolve_openChannel`: setting a breakpoint and opening the channel.
* `Debugger.Resuming`: the states on the way while breakpoints are resolved again, and
  `Op.adjustEach_overlay`, that a request of another number may wait all the while.
* `Debugger.resolve_newBinary`: setting a breakpoint and taking over a code object.
-/

namespace GpuDebug

namespace Op

variable {d : Debugger} {r : Request} {slot : Nat} {waits : Pending}

/-- Flushing where nothing waits. -/
theorem flushPending_final_of_empty (h : d.session.pending.requests = []) :
    flushPending.final d = d := by
  rw [flushPending_final, Pending.readySlots_of_requests_nil h]
  rfl

/-- Resolving a request that the agent cannot take yet. -/
theorem resolve_final_of_not_ready (hready : ¬ d.session.readyFor r = true)
    (hpush : d.session.pending.push r = .ok (slot, waits)) :
    (resolve r).final d = d.withPending waits := by
  have hbuffer : (buffer r).run d = .ok () (d.withPending waits) := by rw [run_buffer, hpush]
  rw [resolve_final, if_neg hready, final_of_ok hbuffer]

/-- **Flushing the only request that waits comes to resolving it**, if it does not stop the
flush. -/
theorem flushPending_final_pushed (hempty : d.session.pending.requests = [])
    (hroom : 0 < d.session.pending.capacity) (hknown : r.isUnknown = false)
    (hpush : d.session.pending.push r = .ok (slot, waits))
    (hstops : d.session.readyFor r = true → ¬ Stops r d) :
    flushPending.final (d.withPending waits) = (resolve r).final d := by
  obtain ⟨q, hq, hget, htake, hslots, -⟩ := Pending.push_empty hempty hroom hknown
  cases hpush.symm.trans hq
  have hready : (d.withPending waits).session.readyFor r = d.session.readyFor r := rfl
  rw [flushPending_final]
  show (flushSlots (waits.readySlots (d.withPending waits).session.readyFor)).final _ = _
  rw [hslots, hready]
  by_cases hr : d.session.readyFor r = true
  · have hwithout : without (d.withPending waits) 0 = d := by
      show d.withPending (waits.take 0).2 = d
      rw [htake]
      rfl
    have hone : (flushSlots [0]).final (d.withPending waits) =
        (flushSlot 0).final (d.withPending waits) :=
      final_bind_of_final_eq (fun _ _ => rfl) _ _
    have hgoes : ¬ Stops r (without (d.withPending waits) 0) := by
      rw [hwithout]
      exact hstops hr
    rw [if_pos hr, hone, flushSlot_final_of_not_stops hget hgoes, hwithout, resolve_final,
      if_pos hr]
  · rw [if_neg hr, resolve_final_of_not_ready hr hpush]
    rfl

end Op

/-! ## Opening the channel -/

theorem Debugger.exists_usableSegments {d : Debugger} {segments : SegmentTable}
    (h : SegmentTable.ofRegion (d.world.memory.read .loadMap) = .ok segments) :
    ∃ usable, d.usableSegments = .ok usable := by
  unfold usableSegments
  split
  · exact ⟨segments, h⟩
  · exact ⟨_, rfl⟩

namespace Op

/-- Switching the agent's logging on works out if the pipe takes everything. -/
theorem run_setAgentLogging {d : Debugger} (haccepts : d.world.Accepts) :
    ∃ d', (setAgentLogging true).run d = .ok () d' ∧
      d'.session.debugInfo = d.session.debugInfo ∧ d'.world.memory = d.world.memory ∧
      d'.world.Accepts := by
  unfold setAgentLogging
  rw [bind_of_ok (run_session d), bind_of_ok (run_world d)]
  simp only [Bool.not_true, Bool.false_and, Bool.false_eq_true, if_false]
  rw [bind_of_ok (run_modifySession _ d), bind_of_ok (run_session _)]
  split
  · next hopen =>
    rcases send_of_accepts (c := .setLogging .enableAll) hopen haccepts with
      ⟨t, d', -, -, hd, hrun⟩ | ⟨hinvalid, -⟩
    · exact ⟨d', hrun, by rw [hd.session], hd.memory, hd.advances.accepts haccepts⟩
    · exact absurd rfl hinvalid
  · exact ⟨_, rfl, rfl, rfl, haccepts⟩

theorem run_connect (channel : Channel) {d : Debugger} (haccepts : d.world.Accepts) :
    ∃ d', (connect channel).run d = .ok () d' ∧
      d'.session.debugInfo = d.session.debugInfo ∧ d'.world.memory = d.world.memory ∧
      d'.world.Accepts := by
  unfold connect
  rw [bind_of_ok (run_modifySession _ d), bind_of_ok (run_session _)]
  dsimp only
  rw [bind_of_ok (run_world _)]
  split
  · exact run_setAgentLogging haccepts
  · exact ⟨_, rfl, rfl, rfl, haccepts⟩

end Op

namespace Debugger

open Op (Stops)

/-- **Setting a breakpoint and opening the channel can change places.** The channel is closed and
nothing waits, the load map can be read, lines have numbers, and the pipe takes everything. Then the
states at the end are the same, whatever the request is for, whether there is debug information or
not, and whether its line is found or not. -/
theorem resolve_openChannel {d : Debugger} {channel : Channel} {g : Grammar} {number : Int32}
    {text : String} {condition : Option String} {r : Request} {segments : SegmentTable}
    (hclosed : d.session.channel.isOpen = false) (hempty : d.session.pending.requests = [])
    (hroom : 0 < d.session.pending.capacity)
    (hsegments : SegmentTable.ofRegion (d.world.memory.read .loadMap) = .ok segments)
    (hnumbered : d.session.debugInfo.Numbered)
    (hparse : g.parse number text condition = .ok r) (hnumber : 0 ≤ number)
    (haccepts : d.world.Accepts) :
    (Action.resolve r).run ((Action.openChannel channel).run d) =
      (Action.openChannel channel).run ((Action.resolve r).run d) := by
  have hnamed := Grammar.named_parse hparse
  have hknown := Request.isUnknown_of_named hnamed
  have hrnumber : 0 ≤ r.number := (Grammar.parse_eq_ok hparse).1 ▸ hnumber
  obtain ⟨d₁, hconnect, hinfo, hmemory, haccepts₁⟩ := Op.run_connect channel haccepts
  obtain ⟨waits, hpush, -⟩ := Pending.push_empty hempty hroom hknown
  have hpending : d₁.session.pending = d.session.pending := by
    rw [← Op.final_of_ok hconnect]
    exact (Op.blind_connect channel).pending d
  have hnot : ¬ d.session.readyFor r = true := by simp [Session.readyFor, hclosed]
  have hresolve : (Action.resolve r).run d = d.withPending waits :=
    Op.resolve_final_of_not_ready hnot hpush
  -- What the channel is opened with does not look at the request that waits.
  have hlater : (Op.connect channel).run (d.withPending waits) = .ok () (d₁.withPending waits) := by
    rw [Op.blind_connect channel waits d, hconnect]
    rfl
  have hopened : (Action.openChannel channel).run d = d₁ := by
    show (Op.openChannel channel).final d = d₁
    rw [Op.openChannel_eq, Op.final_bind_of_ok hconnect]
    apply Op.flushPending_final_of_empty
    rw [hpending]
    exact hempty
  have hstops : d₁.session.readyFor r = true → ¬ Stops r d₁ := by
    intro hready
    have hopen : d₁.session.channel.isOpen = true := (Bool.and_eq_true_iff.mp hready).1
    rw [← hmemory] at hsegments
    obtain ⟨usable, husable⟩ := exists_usableSegments hsegments
    have hnumbered₁ : d₁.session.debugInfo.Numbered := hinfo ▸ hnumbered
    exact Op.not_stops husable hopen haccepts₁ fun c hc =>
      isValid_of_command? hnumbered₁ hrnumber hnamed hc
  have hflush : Op.flushPending.final (d₁.withPending waits) = (Op.resolve r).final d₁ := by
    rw [← hpending] at hempty hroom hpush
    exact Op.flushPending_final_pushed hempty hroom hknown hpush hstops
  calc (Action.resolve r).run ((Action.openChannel channel).run d)
      = (Op.resolve r).final d₁ := by rw [hopened]; rfl
    _ = Op.flushPending.final (d₁.withPending waits) := hflush.symm
    _ = (Op.openChannel channel).final (d.withPending waits) := by
        rw [Op.openChannel_eq, Op.final_bind_of_ok hlater]
    _ = (Action.openChannel channel).run ((Action.resolve r).run d) := by rw [hresolve]; rfl

/-- A code object is loaded, and the channel is not open yet. The agent's logging is to be switched
on. -/
def early : Debugger :=
  Debugger.after
    ⟨Session.ofConfig { Config.standard with pendingCapacity := 4, agentLogging := true }
      Op.twoObjects, .empty, Op.publishing [1]⟩
    [.notification Op.published]

/-- A breakpoint on line 4, as the user types it. -/
def typed : Request :=
  ⟨1, .any, .source (some "temp_source") 4 none⟩

theorem parse_typed : early.session.grammar.parse 1 "rocm:4" none = .ok typed := rfl

/-- The two orders agree, and the command of the breakpoint comes after that for the logging. -/
theorem channel_after_breakpoint :
    (Action.resolve typed).run ((Action.openChannel .onPipe).run early) =
      (Action.openChannel .onPipe).run ((Action.resolve typed).run early) ∧
    ((Action.openChannel .onPipe).run ((Action.resolve typed).run early)).world.transmissions.map
      (·.command) =
      [.setLogging .enableAll, .createSource 1 65792 4 " " Condition.any.toPacket] := by
  have hnumbered : early.session.debugInfo.Numbered := by
    intro table htable
    obtain rfl : ⟨[⟨256, 4, none⟩], none⟩ = table := Option.some.inj htable
    decide
  refine ⟨resolve_openChannel rfl rfl (by decide) rfl hnumbered parse_typed (by decide) nofun, ?_⟩
  decide +kernel

end Debugger

/-! ## Resolving again while a request waits -/

/-- A state in which breakpoints are resolved again, with `pending` in the cache: the agent takes
everything, lines can be looked up, and the breakpoint of the number of `r` has no address. -/
structure Debugger.Resuming (r : Request) (pending : Pending) (d : Debugger) : Prop where
  isOpen : d.session.channel.isOpen = true
  accepts : d.world.Accepts
  available : d.session.debugInfo.isAvailable = true
  usable : ∃ segments, d.usableSegments = .ok segments
  pending : d.session.pending = pending
  keyed : d.Keyed
  unplaced : ∀ b, (d.view r.number).stored = some b → b.codeAddress = none

namespace Op

open Debugger (Keyed Resuming)

variable {d : Debugger} {r s : Request} {p waits : Pending} {number : Int32}

theorem keyed_sendRequest (s : Request) : Preserves Keyed (sendRequest s) := by
  refine respects_sendRequest (fun d d' hl hd number b hb => ?_) (fun c _ _ d hd number b hb => ?_)
    fun d d' _ hd => hd.sentState d s
  · have hstored := congrArg View.stored (hl.quiet.untouched number).view
    exact hd number b (hstored ▸ hb)
  · rw [Debugger.view, (send_keeps c d).2] at hb
    exact hd number b hb

/-- The breakpoints that are resolved again: they have other numbers, and can be sent. -/
theorem Resuming.placed (h : d.Resuming r p)
    (hplaced : (d.host.breakpoints.get? number).bind placedRequest? = some s) :
    r.number ≠ number ∧ s.number = number ∧ d.session.readyFor s = true := by
  obtain ⟨b, hb, hs⟩ := Option.bind_eq_some_iff.mp hplaced
  obtain ⟨rfl, haddress, hkind⟩ := placedRequest?_eq_some hs
  have hstored := Debugger.stored_of_get? hb
  refine ⟨?_, h.keyed number b.placing hstored, ?_⟩
  · rintro rfl
    have hnone : b.codeAddress = none := h.unplaced b.placing hstored
    rw [hnone] at haddress
    cases haddress
  · simp [Session.readyFor, h.isOpen, h.available]

/-- What resolving one breakpoint again comes to where nothing of its number waits. -/
theorem run_adjust_sent (hready : d.session.readyFor s = true)
    (hnone : d.session.pending.waiting number = [])
    (hplaced : (d.host.breakpoints.get? number).bind placedRequest? = some s) :
    (adjust number).run d = match (sendRequest s).run d with
      | .ok _ d₁ => .ok true d₁
      | .error e d₁ => if e.breaksContract then .error e d₁ else .ok false d₁ := by
  have hforget : forgetting d number = d := by
    rw [forgetting, Pending.remove_of_waiting_nil hnone]
    rfl
  have hresolve : (resolve s).run d = (sendRequest s).run d := by rw [run_resolve, if_pos hready]
  have hadjust := run_adjust hplaced
  rw [hforget, hresolve] at hadjust
  exact hadjust

theorem adjust_overlay (h : d.Resuming r p) (hempty : p.requests = [])
    (hother : ∀ number, r.number ≠ number → waits.waiting number = []) (number : Int32) :
    (adjust number).run (d.withPending waits) = overlay waits ((adjust number).run d) := by
  cases hplaced : (d.host.breakpoints.get? number).bind placedRequest? with
  | none =>
    have hlater : ((d.withPending waits).host.breakpoints.get? number).bind placedRequest? = none :=
      hplaced
    rw [run_adjust_unplaced hlater, run_adjust_unplaced hplaced]
    rfl
  | some s =>
    obtain ⟨hne, -, hready⟩ := Resuming.placed h hplaced
    have hnone : d.session.pending.waiting number = [] := by
      rw [h.pending]
      exact Pending.waiting_of_requests_nil hempty number
    have hlater : (adjust number).run (d.withPending waits) = _ :=
      run_adjust_sent (d := d.withPending waits) hready (hother number hne) hplaced
    rw [hlater, run_adjust_sent hready hnone hplaced, blind_sendRequest s waits d]
    cases (sendRequest s).run d with
    | ok outcome d' => rfl
    | error e d' =>
      by_cases hbreaks : e.breaksContract = true
      · simp [overlay, hbreaks]
      · simp [overlay, hbreaks]

/-- Resolving one breakpoint again goes on in such a state, or its command breaks the channel. -/
theorem resuming_adjust (h : d.Resuming r p) (hempty : p.requests = []) (number : Int32) :
    (∃ adjusted d', (adjust number).run d = .ok adjusted d' ∧ d'.Resuming r p) ∨
      ∃ e d', (adjust number).run d = .error e d' ∧ d'.session.channel.isOpen = false ∧
        d'.session.pending = p := by
  cases hplaced : (d.host.breakpoints.get? number).bind placedRequest? with
  | none => exact .inl ⟨false, d, run_adjust_unplaced hplaced, h⟩
  | some s =>
    obtain ⟨hne, hnumber, hready⟩ := Resuming.placed h hplaced
    have hnone : d.session.pending.waiting number = [] := by
      rw [h.pending]
      exact Pending.waiting_of_requests_nil hempty number
    have hpending : ((sendRequest s).final d).session.pending = p :=
      (pending_sendRequest s d).trans h.pending
    rw [run_adjust_sent hready hnone hplaced]
    obtain ⟨segments, husable⟩ := h.usable
    rcases sendRequest_of_accepts (r := s) husable h.isOpen h.accepts with
      ⟨hopen, hmild⟩ | ⟨c, e, d', -, -, hrun, hbreaks, hclosed⟩
    · have hsteady := steady_sendRequest s d
      have huntouched : Debugger.Untouched r.number d ((sendRequest s).final d) :=
        untouched_sendRequest (hnumber.trans_ne (Ne.symm hne)) d
      have hresuming : ((sendRequest s).final d).Resuming r p :=
        { isOpen := hopen
          accepts := (advances_sendRequest s d).accepts h.accepts
          available := hsteady.debugInfo ▸ h.available
          usable := ⟨segments, hsteady.segments.trans husable⟩
          pending := hpending
          keyed := keyed_sendRequest s d h.keyed
          unplaced := fun b hb => h.unplaced b (huntouched.view ▸ hb) }
      cases hrun : (sendRequest s).run d with
      | ok outcome d' =>
        rw [final_of_ok hrun] at hresuming
        exact .inl ⟨true, d', rfl, hresuming⟩
      | error e d' =>
        rw [final_of_error hrun] at hresuming
        have hkeeps : e.breaksContract = false := (Bool.or_eq_false_iff.mp (hmild e d' hrun)).1
        exact .inl ⟨false, d', by simp [hkeeps], hresuming⟩
    · rw [final_of_error hrun] at hpending
      exact .inr ⟨e, d', by simp [hrun, hbreaks], hclosed, hpending⟩

/-- Breakpoints are resolved again in the same way while a request of another number waits. -/
theorem adjustEach_overlay (h : d.Resuming r p) (hempty : p.requests = [])
    (hother : ∀ number, r.number ≠ number → waits.waiting number = []) (numbers : List Int32) :
    (adjustEach numbers).run (d.withPending waits) =
      overlay waits ((adjustEach numbers).run d) := by
  induction numbers generalizing d with
  | nil => rfl
  | cons number numbers ih =>
    rw [adjustEach, EStateM.run_bind, EStateM.run_bind, adjust_overlay h hempty hother number]
    rcases resuming_adjust h hempty number with ⟨adjusted, d', hrun, h'⟩ | ⟨e, d', hrun, -⟩
    · rw [hrun]
      show EStateM.run _ (d'.withPending waits) = overlay waits (EStateM.run _ d')
      rw [EStateM.run_bind, EStateM.run_bind, ih h']
      cases (adjustEach numbers).run d' with
      | ok others d'' => rfl
      | error e d'' => rfl
    · rw [hrun]
      rfl

theorem resuming_adjustEach (h : d.Resuming r p) (hempty : p.requests = []) (numbers : List Int32) :
    (∃ adjusted d', (adjustEach numbers).run d = .ok adjusted d' ∧ d'.Resuming r p) ∨
      ∃ e d', (adjustEach numbers).run d = .error e d' ∧ d'.session.channel.isOpen = false ∧
        d'.session.pending = p := by
  induction numbers generalizing d with
  | nil => exact .inl ⟨0, d, rfl, h⟩
  | cons number numbers ih =>
    rw [adjustEach]
    rcases resuming_adjust h hempty number with ⟨adjusted, d', hrun, h'⟩ | ⟨e, d', hrun, hclosed⟩
    · rw [bind_of_ok hrun]
      rcases ih h' with ⟨others, d'', hrest, h''⟩ | ⟨e, d'', hrest, hclosed⟩
      · exact .inl ⟨_, d'', by rw [bind_of_ok hrest]; rfl, h''⟩
      · exact .inr ⟨e, d'', bind_of_error hrest, hclosed⟩
    · exact .inr ⟨e, d', bind_of_error hrun, hclosed⟩

/-- **Resolving again and flushing with a request that waits** comes to resolving it afterwards. If
a breakpoint breaks the channel, nothing is flushed, and the request waits in either case. -/
theorem resolve_adjustAll {slot : Nat} (h : d.Resuming r p)
    (hnumbered : d.session.debugInfo.Numbered) (hnumber : 0 ≤ r.number)
    (hnamed : r.location.Named) (hempty : p.requests = []) (hroom : 0 < p.capacity)
    (hpush : p.push r = .ok (slot, waits)) :
    (match adjustAll.run (d.withPending waits) with
      | .ok _ d₁ => flushPending.final d₁
      | .error _ d₁ => d₁) =
    (resolve r).final (match adjustAll.run d with
      | .ok _ d₁ => flushPending.final d₁
      | .error _ d₁ => d₁) := by
  have hknown := Request.isUnknown_of_named hnamed
  obtain ⟨q, hq, -, -, -, hother⟩ := Pending.push_empty hempty hroom hknown
  cases hpush.symm.trans hq
  have hadjust : adjustAll.run (d.withPending waits) = overlay waits (adjustAll.run d) :=
    adjustEach_overlay h hempty hother _
  rw [hadjust]
  rcases resuming_adjustEach h hempty d.host.breakpoints.numbers with
    ⟨adjusted, d₁, hrun, h₁⟩ | ⟨e, d₁, hrun, hclosed, hpending⟩
  · have hall : adjustAll.run d = .ok adjusted d₁ := hrun
    have hsteady : d.Steady d₁ := (respects_adjustEach steady_adjust _).of_ok hrun
    have hnumbered₁ : d₁.session.debugInfo.Numbered := hsteady.debugInfo ▸ hnumbered
    obtain ⟨segments, husable⟩ := h₁.usable
    have hgoes : ¬ Stops r d₁ := not_stops husable h₁.isOpen h₁.accepts fun c hc =>
      Debugger.isValid_of_command? hnumbered₁ hnumber hnamed hc
    rw [← h₁.pending] at hempty hroom hpush
    rw [hall]
    dsimp only [overlay]
    rw [flushPending_final_pushed hempty hroom hknown hpush fun _ => hgoes,
      flushPending_final_of_empty hempty]
  · have hall : adjustAll.run d = .error e d₁ := hrun
    have hwaits : ¬ d₁.session.readyFor r = true := by simp [Session.readyFor, hclosed]
    rw [← hpending] at hpush
    rw [hall]
    dsimp only [overlay]
    rw [resolve_final_of_not_ready hwaits hpush]

/-! ## Taking over a code object -/

/-- Loading a code object that can be read. -/
theorem loadImage_loads {image : Bytes} {table : LineTable} {format : ImageFormat}
    (himage : d.world.memory.readImage d.session.config.regions.binaryImage.maxSize =
      .ok (some image))
    (hobject : DebugInfo.openImage d.session.debugInfo.reader image = .ok (table, format)) :
    (loadImage.final d).session.debugInfo = (d.session.debugInfo.adopt d.world.files table).2.1 ∧
      (loadImage.final d).session.channel = d.session.channel ∧
      (loadImage.final d).world.memory = d.world.memory := by
  unfold loadImage
  rw [final_bind_of_ok (run_session d), final_bind_of_ok (run_world d), himage,
    final_bind_of_ok (run_ofExcept_ok _ d)]
  dsimp only
  rw [final_bind_of_ok (run_modifySession _ d), final_bind_of_ok (run_modifyWorld _ _),
    final_ofExcept]
  refine ⟨?_, rfl, rfl⟩
  show (d.session.debugInfo.load d.world.files image).2.1 = _
  rw [DebugInfo.load, hobject]

/-- A code object that can be read leaves a state in which breakpoints are resolved again. -/
theorem resuming_prepare {image : Bytes} {table : LineTable} {format : ImageFormat}
    {segments : SegmentTable} (launch : Launch) (hopen : d.session.channel.isOpen = true)
    (haccepts : d.world.Accepts)
    (hsegments : SegmentTable.ofRegion (d.world.memory.read .loadMap) = .ok segments)
    (himage : d.world.memory.readImage d.session.config.regions.binaryImage.maxSize =
      .ok (some image))
    (hobject : DebugInfo.openImage d.session.debugInfo.reader image = .ok (table, format))
    (hkeyed : d.Keyed) (hunplaced : ∀ b, (d.view r.number).stored = some b → b.codeAddress = none) :
    ((prepare launch).final d).session.debugInfo.table = some table ∧
      ((prepare launch).final d).Resuming r d.session.pending := by
  obtain ⟨hinfo, hchannel, hmemory⟩ := loadImage_loads (d := invalidated d) himage hobject
  have hcalm := calm_prepare launch d
  have hquiet := quiet_prepare launch d
  have hstored : ∀ number, (((prepare launch).final d).view number).stored =
      (d.view number).stored := fun number => (hquiet.untouched number).stored
  have hadopted : ((prepare launch).final d).session.debugInfo =
      ((invalidated d).session.debugInfo.adopt d.world.files table).2.1 :=
    hcalm.debugInfo.trans hinfo
  refine ⟨by rw [hadopted, DebugInfo.table_adopt], ?_⟩
  exact
    { isOpen := by rw [hcalm.channel, hchannel]; exact hopen
      accepts := (hquiet.untouched r.number).accepts haccepts
      available := by rw [hadopted, DebugInfo.isAvailable_adopt]
      usable := by
        have hsame : ((prepare launch).final d).world.memory = d.world.memory :=
          hcalm.memory.trans hmemory
        rw [← hsame] at hsegments
        exact Debugger.exists_usableSegments hsegments
      pending := (blind_prepare launch).pending d
      keyed := fun number b hb => hkeyed number b (hstored number ▸ hb)
      unplaced := fun b hb => hunplaced b (hstored r.number ▸ hb) }

end Op

namespace Debugger

/-- **Setting a breakpoint on a source line and taking over a code object can change places.** The
channel is open and the pipe takes everything, there is no debug information and nothing waits, the
code object and the load map can be read, and lines have numbers. The host stores breakpoints under
their numbers, and that of the request has no address. Then the states at the end are the same,
whether the line is found or not, and whatever becomes of the other breakpoints. -/
theorem resolve_newBinary {d : Debugger} {r : Request} {kernel : String} {groupSize gridSize : Dim}
    {image : Bytes} {table : LineTable} {format : ImageFormat} {segments : SegmentTable}
    (hopen : d.session.channel.isOpen = true) (haccepts : d.world.Accepts)
    (hunavailable : d.session.debugInfo.isAvailable = false)
    (hempty : d.session.pending.requests = []) (hroom : 0 < d.session.pending.capacity)
    (hsegments : SegmentTable.ofRegion (d.world.memory.read .loadMap) = .ok segments)
    (himage : d.world.memory.readImage d.session.config.regions.binaryImage.maxSize =
      .ok (some image))
    (hobject : DebugInfo.openImage d.session.debugInfo.reader image = .ok (table, format))
    (hrows : ∀ row ∈ table.rows, 1 ≤ row.line)
    (hkind : r.kind = .source) (hnumber : 0 ≤ r.number)
    (hkeyed : ∀ number b, d.host.breakpoints.get? number = some b → b.request.number = number)
    (hunplaced : ∀ b, d.host.breakpoints.get? r.number = some b → b.codeAddress = none) :
    (Action.notification (.newBinary kernel groupSize gridSize)).run ((Action.resolve r).run d) =
      (Action.resolve r).run
        ((Action.notification (.newBinary kernel groupSize gridSize)).run d) := by
  let launch : Launch := ⟨kernel, groupSize, gridSize⟩
  have hnamed : r.location.Named := Request.named_of_source hkind
  have hknown := Request.isUnknown_of_named hnamed
  obtain ⟨waits, hpush, -⟩ := Pending.push_empty hempty hroom hknown
  have hwaits : ¬ d.session.readyFor r = true := by simp [Session.readyFor, hkind, hunavailable]
  have hbuffered : (Op.resolve r).final d = d.withPending waits :=
    Op.resolve_final_of_not_ready hwaits hpush
  obtain ⟨d₁, hprepared⟩ : ∃ d₁, (Op.prepare launch).final d = d₁ := ⟨_, rfl⟩
  have hlater : (Op.prepare launch).final (d.withPending waits) = d₁.withPending waits := by
    rw [(Op.blind_prepare launch).final, hprepared]
  have hkeyed₁ : d.Keyed := fun number b hb => by
    obtain ⟨c, hc, rfl⟩ := Option.map_eq_some_iff.mp hb
    exact hkeyed number c hc
  have hunplaced₁ : ∀ b, (d.view r.number).stored = some b → b.codeAddress = none := fun b hb => by
    obtain ⟨c, hc, rfl⟩ := Option.map_eq_some_iff.mp hb
    exact hunplaced c hc
  obtain ⟨htable, hresuming⟩ := Op.resuming_prepare launch hopen haccepts hsegments himage hobject
    hkeyed₁ hunplaced₁
  rw [hprepared] at htable hresuming
  show (Op.onNewBinary launch).final ((Op.resolve r).final d) =
    (Op.resolve r).final ((Op.onNewBinary launch).final d)
  rw [hbuffered, Op.onNewBinary_final, Op.onNewBinary_final, hlater, hprepared]
  refine Op.resolve_adjustAll hresuming ?_ hnumber hnamed hempty hroom hpush
  intro table' htable' row hrow
  rw [htable] at htable'
  cases htable'
  exact hrows row hrow

/-- There is no debug information any more, and the second code object is published. The host has a
new breakpoint on its line. -/
def racing : Debugger :=
  Op.outdated.after [.notification (.endDebugging true), .store ⟨2, .any, .source none 2 none⟩]

theorem reachable_racing : racing.Reachable :=
  Op.reachable_outdated.after _

/-- The two orders agree, and the new breakpoint has an address at the end. -/
theorem code_object_after_breakpoint :
    (Action.notification Op.published).run
        ((Action.resolve ⟨2, .any, .source none 2 none⟩).run racing) =
      (Action.resolve ⟨2, .any, .source none 2 none⟩).run
        ((Action.notification Op.published).run racing) ∧
    ((Action.resolve ⟨2, .any, .source none 2 none⟩).run
        ((Action.notification Op.published).run racing)).host.breakpoints.get? 2 =
      some ⟨2, ⟨2, .any, .source none 2 (some " ")⟩, some 65792, some 256, 0, true⟩ := by
  have hrows : ∀ row ∈ [(⟨256, 2, none⟩ : LineRow)], 1 ≤ row.line := by decide
  have hnew : racing.host.breakpoints.get? 2 = some (.ofRequest ⟨2, .any, .source none 2 none⟩) :=
    rfl
  refine ⟨resolve_newBinary rfl nofun rfl rfl (by decide) rfl rfl rfl hrows rfl (by decide)
    (fun _ _ => reachable_racing.sound.number_of_get?) fun b hb => ?_, by decide +kernel⟩
  cases hb.symm.trans hnew
  rfl

end Debugger

end GpuDebug
