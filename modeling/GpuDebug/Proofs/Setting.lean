import GpuDebug.Proofs.Quiet

/-!
# Operations that set breakpoints

What sending, buffering, flushing and resolving again do to the state. An operation on one request
touches the number of that request only.

* `Op.respects_sendRequest`, `Op.flushSlot_related`, `Op.adjust_related`: what has to be known of
  the parts of an operation for a statement about all of it.
* `Op.run_flushSlot`, `Op.run_adjust`: what flushing a slot and resolving again come to.
* `Op.Carried`: a relation that quiet steps, flushing a slot and resolving a breakpoint again are
  steps of, and so every operation that is made of these.
-/

namespace GpuDebug

theorem Debugger.Looked.quiet {d d' : Debugger} (h : d.Looked d') : Debugger.Quiet d d' := by
  refine ⟨fun number => ⟨.of_world_eq h.world, ?_⟩, by rw [h.session], by rw [h.breakpoints]⟩
  unfold view
  rw [h.session, h.breakpoints, h.world]

/-- The host keeps where a source breakpoint is, and nothing about others. -/
theorem Debugger.recorded_cases (d : Debugger) (r : Request) (h : Host) :
    d.recorded r h = h ∨ ∃ file line statement p, r.location = .source file line statement ∧
      d.placement? line = .ok (some p) ∧ d.recorded r h = h.update r.number (p.record r) := by
  unfold recorded
  cases hr : r.location with
  | source file line statement =>
    simp only
    split
    · next p hp => exact .inr ⟨file, line, statement, p, rfl, hp, rfl⟩
    · exact .inl rfl
  | _ => exact .inl rfl

theorem Debugger.get?_recorded_of_ne {d : Debugger} {r : Request} {number : Int32}
    (hn : r.number ≠ number) (h : Host) :
    (d.recorded r h).breakpoints.get? number = h.breakpoints.get? number := by
  rcases d.recorded_cases r h with heq | ⟨file, line, statement, p, -, -, heq⟩
  · rw [heq]
  · rw [heq, h.get?_update _ _ (p.record_number r), if_neg hn]

/-- The breakpoints of the host once a request on a source line was sent. -/
theorem Debugger.stored_sentState {d d' : Debugger} {r : Request} {file : Option String}
    {line : UInt64} {statement : Option String} {p : Placement}
    (hr : r.location = .source file line statement) (hp : d.placement? line = .ok (some p))
    (number : Int32) :
    ((d.sentState r d').view number).stored =
      if r.number = number then
        (d'.host.breakpoints.get? number).map fun b => (p.record r b).placing
      else (d'.view number).stored := by
  have hrecorded : d.recorded r d'.host = d'.host.update r.number (p.record r) := by
    rw [recorded, hr]
    simp only [hp]
  change ((d.recorded r d'.host).breakpoints.get? number).map Breakpoint.placing = _
  rw [hrecorded, d'.host.get?_update _ _ (p.record_number r)]
  split
  · exact Option.map_map _ _ _
  · rfl

/-- A stored breakpoint was stored before the request was sent, or is where its line is. -/
theorem Debugger.stored_sentState_cases {d d' : Debugger} {r : Request} {number : Int32}
    {b : Breakpoint} (hb : ((d.sentState r d').view number).stored = some b) :
    (d'.view number).stored = some b ∨
      ∃ file line statement p c, r.number = number ∧ r.location = .source file line statement ∧
        d.placement? line = .ok (some p) ∧ b = (p.record r c).placing := by
  rcases d.recorded_cases r d'.host with h | ⟨file, line, statement, p, hr, hp, -⟩
  · rw [sentState, h] at hb
    exact .inl hb
  · rw [stored_sentState hr hp] at hb
    split at hb
    · next hn =>
      obtain ⟨c, -, hc⟩ := Option.map_eq_some_iff.mp hb
      exact .inr ⟨file, line, statement, p, c, hn, hr, hp, hc.symm⟩
    · exact .inl hb

/-- The state with other requests waiting. -/
def Debugger.withPending (d : Debugger) (pending : Pending) : Debugger :=
  { d with session := { d.session with pending } }

theorem Debugger.untouched_withPending {d : Debugger} {pending : Pending} {number : Int32}
    (h : pending.waiting number = d.session.pending.waiting number) :
    Debugger.Untouched number d (d.withPending pending) := by
  refine ⟨.of_world_eq rfl, ?_⟩
  change View.mk (pending.waiting number) _ _ = _
  rw [h]
  rfl

theorem Debugger.steady_withPending (d : Debugger) (pending : Pending) :
    d.Steady (d.withPending pending) :=
  ⟨rfl, rfl, rfl, id⟩

theorem Debugger.untouched_sentState {d d' : Debugger} {r : Request} {number : Int32}
    (hn : r.number ≠ number) : Debugger.Untouched number d' (d.sentState r d') := by
  refine ⟨.of_world_eq rfl, ?_⟩
  change View.mk _ (((d.recorded r d'.host).breakpoints.get? number).map Breakpoint.placing) _ = _
  rw [get?_recorded_of_ne hn]
  rfl

namespace Op

variable {R : Debugger → Debugger → Prop} [IsPreorder Debugger R] {r : Request} {number : Int32}

/-! ## Handing over one request -/

/-- Handing a request over is a lookup, a command that creates its breakpoint, and the record of
the host. -/
theorem respects_sendRequest (looked : ∀ d d', Debugger.Looked d d' → R d d')
    (send : ∀ c : Command, c.tag = .createBreakpoint → c.breakpoint = r.number →
      Respects R (send c))
    (sentState : ∀ d d', d.Steady d' → R d' (Debugger.sentState d r d')) :
    Respects R (sendRequest r) := by
  intro d
  cases hrun : (sendRequest r).run d with
  | ok resolution d' =>
    rw [final_of_ok hrun]
    cases Hands.of_run hrun with
    | unmapped hc hl => exact looked _ _ hl
    | sent hc hl hs =>
      obtain ⟨htag, hnumber⟩ := Debugger.command?_creates hc
      have hsend := (send _ htag hnumber).of_ok hs
      have hsteady : d.Steady _ := trans_of Debugger.Steady hl.steady ((steady_send _).of_ok hs)
      exact trans_of R (trans_of R (looked _ _ hl) hsend) (sentState d _ hsteady)
  | error e d' =>
    rw [final_of_error hrun]
    cases Hands.of_run hrun with
    | failed hc hl => exact looked _ _ hl
    | unsent hc hl hs =>
      obtain ⟨htag, hnumber⟩ := Debugger.command?_creates hc
      exact trans_of R (looked _ _ hl) ((send _ htag hnumber).of_error hs)

theorem untouched_sendRequest (hn : r.number ≠ number) :
    Respects (Debugger.Untouched number) (sendRequest r) := by
  refine respects_sendRequest (fun _ _ h => h.quiet.untouched number) (fun c htag hc => ?_)
    fun _ _ _ => Debugger.untouched_sentState hn
  refine untouched_send fun t ht => ?_
  simp [Transmission.concerns, ht, hc, hn]

theorem advances_sendRequest (r : Request) : Respects Debugger.Advances (sendRequest r) :=
  respects_sendRequest (fun _ _ h => .of_world_eq h.world) (fun c _ _ => advances_send c)
    fun _ _ _ => .of_world_eq rfl

theorem steady_sendRequest (r : Request) : Respects Debugger.Steady (sendRequest r) :=
  respects_sendRequest (fun _ _ h => h.steady) (fun c _ _ => steady_send c) fun _ _ _ =>
    ⟨rfl, rfl, rfl, id⟩

/-- Sending concerns no request that waits. -/
theorem pending_sendRequest (r : Request) (d : Debugger) :
    ((sendRequest r).final d).session.pending = d.session.pending := by
  have keeps : Respects (fun d d' => d'.session.pending = d.session.pending) (sendRequest r) := by
    have : IsPreorder Debugger fun d d' => d'.session.pending = d.session.pending :=
      { refl := fun _ => rfl, trans := fun _ _ _ h h' => h'.trans h }
    exact respects_sendRequest (fun _ _ h => by rw [h.session]) (fun c _ _ d => (send_keeps c d).1)
      fun _ _ _ => rfl
  exact keeps d

/-! ## Buffering -/

theorem run_buffer (r : Request) (d : Debugger) :
    (buffer r).run d = match d.session.pending.push r with
      | .ok (_, pending) => .ok () (d.withPending pending)
      | .error e => .error e d := by
  unfold buffer
  simp only [EStateM.run_bind, run_session]
  cases d.session.pending.push r with
  | ok pushed => rfl
  | error e => rfl

theorem buffer_final (r : Request) (d : Debugger) :
    (buffer r).final d = d ∨ ∃ slot pending, d.session.pending.push r = .ok (slot, pending) ∧
      (buffer r).final d = d.withPending pending := by
  have h := run_buffer r d
  cases hp : d.session.pending.push r with
  | ok pushed =>
    rw [hp] at h
    exact .inr ⟨pushed.1, pushed.2, rfl, final_of_ok h⟩
  | error e =>
    rw [hp] at h
    exact .inl (final_of_error h)

theorem untouched_buffer (hn : r.number ≠ number) :
    Respects (Debugger.Untouched number) (buffer r) := by
  intro d
  rcases buffer_final r d with h | ⟨slot, pending, hp, h⟩
  · rw [h]
    exact refl_of _ d
  · rw [h]
    exact Debugger.untouched_withPending ((Pending.waiting_push hp).1 number hn)

/-- Buffering a request where none of its number waits. -/
theorem waiting_buffer {d : Debugger} (h : d.session.pending.waiting r.number = []) :
    ((buffer r).final d).session.pending.waiting r.number = [] ∨
      ((buffer r).final d).session.pending.waiting r.number = [r] := by
  rcases buffer_final r d with hf | ⟨slot, pending, hp, hf⟩
  · rw [hf]
    exact .inl h
  · rw [hf]
    change pending.waiting r.number = [] ∨ pending.waiting r.number = [r]
    rcases (Pending.waiting_push hp).2 with ⟨rfl, -⟩ | ⟨-, hperm⟩
    · exact .inl h
    · rw [h, List.append_nil] at hperm
      unfold Pending.occupant at hperm
      split at hperm
      · exact .inl hperm.eq_nil
      · exact .inr (List.perm_singleton.mp hperm)

/-- A request that was taken out is buffered again. -/
theorem buffer_taken {d d' : Debugger} {slot : Nat} (hd : d.session.pending.Distinct)
    (hget : d.session.pending.get? slot = some r)
    (hd' : d'.session.pending = (d.session.pending.take slot).2) :
    ∃ pending, (buffer r).run d' = .ok () (d'.withPending pending) ∧
      pending.requests.Perm
        (Pending.occupant r ++ (d.session.pending.take slot).2.requests) := by
  obtain ⟨slot', pending, hp, hperm⟩ := Pending.push_take hd hget
  refine ⟨pending, ?_, hperm⟩
  rw [run_buffer, hd', hp]

theorem advances_buffer (r : Request) : Respects Debugger.Advances (buffer r) := by
  intro d
  rcases buffer_final r d with h | ⟨slot, pending, -, h⟩
  · exact .of_world_eq (by rw [h])
  · exact .of_world_eq (by rw [h]; rfl)

theorem steady_buffer (r : Request) : Respects Debugger.Steady (buffer r) := by
  intro d
  rcases buffer_final r d with h | ⟨slot, pending, -, h⟩
  · rw [h]
    exact refl_of _ d
  · rw [h]
    exact d.steady_withPending pending

/-- The state with the first waiting request of a number dropped. -/
def forgetting (d : Debugger) (number : Int32) : Debugger :=
  d.withPending (d.session.pending.remove number).2

theorem run_removePending (number : Int32) (d : Debugger) :
    (removePending number).run d = .ok (d.session.pending.remove number).1 (forgetting d number) :=
  rfl

theorem untouched_removePending {n : Int32} (hn : n ≠ number) :
    Respects (Debugger.Untouched number) (removePending n) := by
  intro d
  rw [final_of_ok (run_removePending n d)]
  refine Debugger.untouched_withPending ?_
  rw [Pending.waiting_remove, if_neg hn]

/-- The state after deleting a breakpoint. -/
theorem deleteBreakpoint_final (number : Int32) (d : Debugger) :
    (deleteBreakpoint number).final d =
      if d.session.channel.isOpen then (send (.delete number)).final (forgetting d number)
      else forgetting d number := by
  unfold deleteBreakpoint final
  rw [bind_of_ok (run_removePending number d), bind_of_ok (run_session _)]
  by_cases hopen : d.session.channel.isOpen = true
  · rw [if_pos hopen, if_pos (show (forgetting d number).session.channel.isOpen = true from hopen)]
  · rw [if_neg hopen,
      if_neg (show ¬ (forgetting d number).session.channel.isOpen = true from hopen)]
    rfl

/-- What waits and what the host stores after deleting a breakpoint. -/
theorem view_deleteBreakpoint (number : Int32) (d : Debugger) :
    (((deleteBreakpoint number).final d).view number).waiting = (d.view number).waiting.tail ∧
      (((deleteBreakpoint number).final d).view number).stored = (d.view number).stored := by
  have hforget : ((forgetting d number).view number).waiting = (d.view number).waiting.tail := by
    change (d.session.pending.remove number).2.waiting number = _
    rw [Pending.waiting_remove, if_pos rfl]
    rfl
  rw [deleteBreakpoint_final]
  split
  · obtain ⟨hpending, hhost⟩ := send_keeps (.delete number) (forgetting d number)
    refine ⟨?_, ?_⟩
    · rw [← hforget, Debugger.view, hpending]
      rfl
    · rw [Debugger.view, hhost]
      rfl
  · exact ⟨hforget, rfl⟩

/-! ## Sending or buffering -/

theorem run_resolve (r : Request) (d : Debugger) :
    (resolve r).run d =
      (if d.session.readyFor r then sendRequest r
        else buffer r >>= fun _ => pure .buffered).run d := by
  unfold resolve
  rw [bind_of_ok (run_session d)]

theorem resolve_final (r : Request) (d : Debugger) :
    (resolve r).final d =
      if d.session.readyFor r then (sendRequest r).final d else (buffer r).final d := by
  unfold resolve
  rw [final_bind_of_ok (run_session d)]
  split
  · rfl
  · exact final_bind_of_final_eq (fun _ _ => rfl) (buffer r) d

theorem respects_resolve (send : Respects R (sendRequest r)) (buffer : Respects R (buffer r)) :
    Respects R (resolve r) :=
  .bind .session fun _ => .ite send (.bind buffer fun _ => .pure _)

/-! ## Flushing -/

/-- The state with a slot of the pending cache freed. -/
def without (d : Debugger) (slot : Nat) : Debugger :=
  d.withPending (d.session.pending.take slot).2

theorem run_takePending (slot : Nat) (d : Debugger) :
    (takePending slot).run d = .ok (d.session.pending.take slot).1 (without d slot) := rfl

theorem run_flushSlot_free {slot : Nat} {d : Debugger} (h : d.session.pending.get? slot = none) :
    (flushSlot slot).run d = .ok false d := by
  have hd : without d slot = d := by rw [without, Pending.take_of_get?_none h]; rfl
  unfold flushSlot
  rw [bind_of_ok (run_takePending slot d), Pending.take_of_get?_none h, hd]
  rfl

/-- **What flushing a slot comes to.** Its request is taken out and handed over. After a failure
that stops the flush it is buffered again; after any other failure it is not. -/
theorem run_flushSlot {slot : Nat} {d : Debugger} (h : d.session.pending.get? slot = some r) :
    (flushSlot slot).run d = match (sendRequest r).run (without d slot) with
      | .ok outcome d₁ => .ok outcome.isSent d₁
      | .error e d₁ =>
        if stopsFlush e then (buffer r >>= fun _ => throw e).run d₁ else .ok false d₁ := by
  have htaken : (d.session.pending.take slot).1 = some r := by rw [Pending.take, h]
  unfold flushSlot
  rw [bind_of_ok (run_takePending slot d), htaken]
  cases hs : (sendRequest r).run (without d slot) with
  | ok outcome d₁ =>
    dsimp only
    rw [bind_of_ok (attempt_of_ok hs)]
    rfl
  | error e d₁ =>
    dsimp only
    rw [bind_of_ok (attempt_of_error hs)]
    by_cases he : stopsFlush e = true
    · simp only [if_pos he, EStateM.run_bind, run_throw]
    · simp only [if_neg he, EStateM.run_pure]

theorem flushSlot_final_free {slot : Nat} {d : Debugger}
    (h : d.session.pending.get? slot = none) : (flushSlot slot).final d = d :=
  final_of_ok (run_flushSlot_free h)

theorem flushSlot_final {slot : Nat} {d : Debugger} (h : d.session.pending.get? slot = some r) :
    (flushSlot slot).final d = match (sendRequest r).run (without d slot) with
      | .ok _ d₁ => d₁
      | .error e d₁ => if stopsFlush e then (buffer r).final d₁ else d₁ := by
  unfold final
  rw [run_flushSlot h]
  cases (sendRequest r).run (without d slot) with
  | ok outcome d₁ => rfl
  | error e d₁ =>
    by_cases he : stopsFlush e = true
    · simp only [if_pos he, EStateM.run_bind]
      cases (buffer r).run d₁ <;> rfl
    · simp only [if_neg he]

/-- A flush that goes on after a slot has freed it, and left the other slots as they were. -/
theorem pending_flushSlot {slot : Nat} {d d' : Debugger} {sent : Bool}
    (hget : d.session.pending.get? slot = some r) (hrun : (flushSlot slot).run d = .ok sent d') :
    d'.session.pending = (without d slot).session.pending := by
  rw [← pending_sendRequest r (without d slot)]
  rw [run_flushSlot hget] at hrun
  cases hs : (sendRequest r).run (without d slot) with
  | ok outcome d₁ =>
    rw [hs] at hrun
    cases hrun
    rw [final_of_ok hs]
  | error e d₁ =>
    rw [hs] at hrun
    dsimp only at hrun
    split at hrun
    · obtain ⟨_, _, -, hthrow⟩ := bind_eq_ok hrun
      cases hthrow
    · cases hrun
      rw [final_of_error hs]

/-- A flush that goes on after a slot leaves requests only where they were. -/
theorem get?_of_flushSlot {slot slot' : Nat} {d d' : Debugger} {sent : Bool}
    (hrun : (flushSlot slot).run d = .ok sent d') (h : d'.session.pending.get? slot' = some r) :
    d.session.pending.get? slot' = some r := by
  cases hget : d.session.pending.get? slot with
  | none =>
    rw [run_flushSlot_free hget] at hrun
    cases hrun
    exact h
  | some s =>
    rw [pending_flushSlot hget hrun] at h
    exact Pending.get?_of_take h

theorem flushSlot_related {slot : Nat} {d : Debugger}
    (h : ∀ r, d.session.pending.get? slot = some r →
      R d (without d slot) ∧ Respects R (sendRequest r) ∧ Respects R (buffer r)) :
    R d ((flushSlot slot).final d) := by
  cases hget : d.session.pending.get? slot with
  | none =>
    rw [flushSlot_final_free hget]
    exact refl_of R d
  | some r =>
    obtain ⟨htake, hsend, hbuffer⟩ := h r hget
    rw [flushSlot_final hget]
    cases hs : (sendRequest r).run (without d slot) with
    | ok outcome d₁ => exact trans_of R htake (hsend.of_ok hs)
    | error e d₁ =>
      have hfailed := trans_of R htake (hsend.of_error hs)
      by_cases he : stopsFlush e = true
      · simp only [if_pos he]
        exact trans_of R hfailed (hbuffer d₁)
      · simp only [if_neg he]
        exact hfailed

theorem untouched_flushSlot {slot : Nat} {d : Debugger}
    (h : ∀ r, d.session.pending.get? slot = some r → r.number ≠ number) :
    Debugger.Untouched number d ((flushSlot slot).final d) := by
  refine flushSlot_related fun r hget => ⟨?_, untouched_sendRequest (h r hget),
    untouched_buffer (h r hget)⟩
  exact Debugger.untouched_withPending ((Pending.waiting_take hget).1 number (h r hget))

theorem advances_flushSlot (slot : Nat) : Respects Debugger.Advances (flushSlot slot) := fun _ =>
  flushSlot_related fun r _ => ⟨.of_world_eq rfl, advances_sendRequest r, advances_buffer r⟩

theorem steady_flushSlot (slot : Nat) : Respects Debugger.Steady (flushSlot slot) := fun d =>
  flushSlot_related fun r _ => ⟨d.steady_withPending _, steady_sendRequest r, steady_buffer r⟩

/-! ## Resolving again -/

theorem run_adjust_unplaced {d : Debugger}
    (h : (d.host.breakpoints.get? number).bind placedRequest? = none) :
    (adjust number).run d = .ok false d := by
  unfold adjust
  rw [bind_of_ok (run_host d), h]
  rfl

/-- **What resolving a breakpoint again comes to.** A request that waits is dropped first; only a
broken channel is a failure. -/
theorem run_adjust {d : Debugger}
    (h : (d.host.breakpoints.get? number).bind placedRequest? = some r) :
    (adjust number).run d = match (resolve r).run (forgetting d number) with
      | .ok _ d₁ => .ok true d₁
      | .error e d₁ => if e.breaksContract then .error e d₁ else .ok false d₁ := by
  unfold adjust
  rw [bind_of_ok (run_host d), h]
  dsimp only
  rw [bind_of_ok (run_removePending number d)]
  cases hs : (resolve r).run (forgetting d number) with
  | ok outcome d₁ =>
    rw [bind_of_ok (attempt_of_ok hs)]
    rfl
  | error e d₁ =>
    rw [bind_of_ok (attempt_of_error hs)]
    by_cases he : e.breaksContract = true
    · simp only [if_pos he, EStateM.run_bind, run_throw]
    · simp only [if_neg he, EStateM.run_pure]

theorem adjust_final {d : Debugger}
    (h : (d.host.breakpoints.get? number).bind placedRequest? = some r) :
    (adjust number).final d = (resolve r).final (forgetting d number) := by
  unfold final
  rw [run_adjust h]
  cases (resolve r).run (forgetting d number) with
  | ok outcome d₁ => rfl
  | error e d₁ =>
    by_cases he : e.breaksContract = true
    · simp only [if_pos he]
    · simp only [if_neg he]

theorem adjust_related {d : Debugger}
    (h : ∀ r, (d.host.breakpoints.get? number).bind placedRequest? = some r →
      R d (forgetting d number) ∧ Respects R (sendRequest r) ∧ Respects R (buffer r)) :
    R d ((adjust number).final d) := by
  cases hplaced : (d.host.breakpoints.get? number).bind placedRequest? with
  | none =>
    rw [final_of_ok (run_adjust_unplaced hplaced)]
    exact refl_of R d
  | some r =>
    obtain ⟨hremove, hsend, hbuffer⟩ := h r hplaced
    rw [adjust_final hplaced]
    exact trans_of R hremove (respects_resolve hsend hbuffer _)

theorem placedRequest?_eq_some {b : Breakpoint} {r : Request} (h : placedRequest? b = some r) :
    b.request = r ∧ b.codeAddress.isSome = true ∧ r.kind = .source := by
  unfold placedRequest? at h
  split at h
  · next hb =>
    cases h
    simpa using hb
  · cases h

theorem untouched_adjust {n : Int32} {d : Debugger}
    (h : ∀ b, d.host.breakpoints.get? n = some b → b.codeAddress.isSome = true →
      n ≠ number ∧ b.request.number ≠ number) :
    Debugger.Untouched number d ((adjust n).final d) := by
  refine adjust_related fun r hplaced => ?_
  obtain ⟨b, hb, hr⟩ := Option.bind_eq_some_iff.mp hplaced
  obtain ⟨rfl, haddress, -⟩ := placedRequest?_eq_some hr
  obtain ⟨hn, hnumber⟩ := h b hb haddress
  exact ⟨(untouched_removePending hn).of_ok (run_removePending n d), untouched_sendRequest hnumber,
    untouched_buffer hnumber⟩

theorem advances_adjust (number : Int32) : Respects Debugger.Advances (adjust number) := fun _ =>
  adjust_related fun r _ => ⟨.of_world_eq rfl, advances_sendRequest r, advances_buffer r⟩

theorem steady_adjust (number : Int32) : Respects Debugger.Steady (adjust number) := fun d =>
  adjust_related fun r _ => ⟨d.steady_withPending _, steady_sendRequest r, steady_buffer r⟩

/-- Resolving several breakpoints again: it ends with the first one that breaks the channel. -/
theorem adjustEach_final_cons (number : Int32) (numbers : List Int32) (d : Debugger) :
    (adjustEach (number :: numbers)).final d = match (adjust number).run d with
      | .ok _ d₁ => (adjustEach numbers).final d₁
      | .error _ d₁ => d₁ := by
  rw [adjustEach]
  cases hrun : (adjust number).run d with
  | ok adjusted d₁ => rw [final_bind_of_ok hrun, final_bind_of_final_eq fun _ _ => rfl]
  | error e d₁ => rw [final_of_error (bind_of_error hrun)]

theorem adjustAll_final (d : Debugger) :
    adjustAll.final d = (adjustEach d.host.breakpoints.numbers).final d := by
  unfold adjustAll
  rw [final_bind_of_ok (run_host d)]

/-- Taking over a code object: if a breakpoint breaks the channel, nothing is flushed. -/
theorem onNewBinary_final (launch : Launch) (d : Debugger) :
    (onNewBinary launch).final d = match adjustAll.run ((prepare launch).final d) with
      | .ok _ d₁ => flushPending.final d₁
      | .error _ d₁ => d₁ := by
  rw [onNewBinary_eq, final_bind_of_ok ((total_prepare launch).run d)]
  cases hrun : adjustAll.run ((prepare launch).final d) with
  | ok adjusted d₁ => rw [final_bind_of_ok hrun, final_bind_of_final_eq fun _ _ => rfl]
  | error e d₁ => rw [final_of_error (bind_of_error hrun)]

/-! ## Operations made of these -/

/-- Quiet steps, flushing a slot and resolving a breakpoint again are steps of the relation. -/
structure Carried (R : Debugger → Debugger → Prop) : Prop where
  quiet : ∀ d d', Debugger.Quiet d d' → R d d'
  flushSlot : ∀ slot, Respects R (flushSlot slot)
  adjust : ∀ number, Respects R (adjust number)

theorem respects_flushSlots (h : ∀ slot, Respects R (flushSlot slot)) (slots : List Nat) :
    Respects R (flushSlots slots) := by
  induction slots with
  | nil => exact .pure _
  | cons slot slots ih => exact .bind (h slot) fun _ => .bind ih fun _ => .pure _

theorem flushPending_final (d : Debugger) :
    flushPending.final d =
      (flushSlots (d.session.pending.readySlots d.session.readyFor)).final d := by
  unfold flushPending
  rw [final_bind_of_ok (run_session d)]

/-- Flushing some slots, if their requests are of a kind. A slot that is flushed is free, so that no
other request comes into it. -/
theorem flushSlots_related {P : Request → Prop} (take : ∀ d slot, R d (without d slot))
    (send : ∀ r, P r → Respects R (sendRequest r)) (buffer : ∀ r, P r → Respects R (buffer r))
    {slots : List Nat} {d : Debugger}
    (h : ∀ slot ∈ slots, ∀ r, d.session.pending.get? slot = some r → P r) :
    R d ((flushSlots slots).final d) := by
  induction slots generalizing d with
  | nil => exact refl_of R d
  | cons slot slots ih =>
    have hslot : R d ((flushSlot slot).final d) := flushSlot_related fun r hget =>
      have hr : P r := h slot List.mem_cons_self r hget
      ⟨take d slot, send r hr, buffer r hr⟩
    unfold flushSlots
    cases hrun : (flushSlot slot).run d with
    | error e d₁ =>
      rw [final_of_error hrun] at hslot
      rwa [final_of_error (bind_of_error hrun)]
    | ok sent d₁ =>
      rw [final_of_ok hrun] at hslot
      rw [final_bind_of_ok hrun, final_bind_of_final_eq fun _ _ => rfl]
      refine trans_of R hslot (ih fun slot' hmem r hget => ?_)
      exact h slot' (List.mem_cons_of_mem slot hmem) r (get?_of_flushSlot hrun hget)

theorem respects_flushPending (h : ∀ slot, Respects R (flushSlot slot)) :
    Respects R flushPending :=
  .bind .session fun _ => respects_flushSlots h _

theorem respects_adjustEach (h : ∀ number, Respects R (adjust number)) (numbers : List Int32) :
    Respects R (adjustEach numbers) := by
  induction numbers with
  | nil => exact .pure _
  | cons number numbers ih => exact .bind (h number) fun _ => .bind ih fun _ => .pure _

theorem respects_adjustAll (h : ∀ number, Respects R (adjust number)) : Respects R adjustAll :=
  .bind .host fun _ => respects_adjustEach h _

/-- Once the first part is done, taking over a code object changes no lookup. -/
theorem steady_onNewBinary (launch : Launch) (d : Debugger) :
    ((prepare launch).final d).Steady ((onNewBinary launch).final d) := by
  have steady : Respects Debugger.Steady (do
      let _ ← adjustAll
      let _ ← flushPending
      return ()) :=
    .bind (respects_adjustAll steady_adjust) fun _ =>
      .bind (respects_flushPending steady_flushSlot) fun _ => .pure _
  rw [onNewBinary_eq, final_bind_of_ok ((total_prepare launch).run d)]
  exact steady _

namespace Carried

theorem onNewBinary (h : Carried R) (launch : Launch) : Respects R (onNewBinary launch) := by
  rw [onNewBinary_eq]
  exact .bind ((quiet_prepare launch).mono h.quiet) fun _ =>
    .bind (respects_adjustAll h.adjust) fun _ =>
      .bind (respects_flushPending h.flushSlot) fun _ => .pure _

theorem dispatchNotification (h : Carried R) (n : Notification) :
    Respects R (dispatchNotification n) := by
  by_cases hn : ∃ kernel groupSize gridSize, n = .newBinary kernel groupSize gridSize
  · obtain ⟨kernel, groupSize, gridSize, rfl⟩ := hn
    exact h.onNewBinary _
  · refine (quiet_dispatchNotification fun kernel groupSize gridSize h => ?_).mono h.quiet
    exact hn ⟨kernel, groupSize, gridSize, h⟩

theorem handleEvent (h : Carried R) : Respects R handleEvent := by
  have quiet : ∀ {α : Type} {op : Op α}, Quiet op → Respects R op := fun hop => hop.mono h.quiet
  refine .bind .session fun s => ?_
  cases s.inbox with
  | none => exact .pure _
  | some inbox =>
    refine .bind (quiet (calm_pollInbox inbox).quiet) fun outcome => ?_
    cases outcome with
    | idle => exact .bind (.pure _) fun _ => .pure _
    | short count => exact .bind (quiet (calm_notify _).quiet) fun _ => .pure _
    | packet n => exact .bind (h.dispatchNotification n) fun _ => .pure _

theorem openChannel (h : Carried R) (channel : Channel) : Respects R (openChannel channel) := by
  have quiet : ∀ {α : Type} {op : Op α}, Quiet op → Respects R op := fun hop => hop.mono h.quiet
  have flush := respects_flushPending h.flushSlot
  refine .bind (quiet (quiet_modifySession fun _ => rfl)) fun _ => .bind .session fun s => ?_
  exact .bind .world fun w => .ite (.bind (quiet (quiet_setAgentLogging true)) fun _ => flush) flush

theorem openFile (h : Carried R) : Respects R openFile :=
  .bind .session fun _ => .bind .world fun _ => .bind (.ofExcept _) fun channel =>
    h.openChannel channel

end Carried

end Op

end GpuDebug
