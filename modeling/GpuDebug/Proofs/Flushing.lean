import GpuDebug.Proofs.Course
import Mathlib.Data.List.Nodup

/-!
# What becomes of flushed requests

Flushing takes requests out before it hands them over, and buffers one again only after a failure
that stops the flush. A pipe that refuses a command does not count as such a failure, and the
request of that command is lost. All other requests are accounted for: they still wait, their
command was taken whole, or the lookup of their line failed.

* `Attempt`: a request and the command that was written for it.
* `Debugger.Flushed`: what a part of a flush does, as a relation between the states before and
  after it; `Debugger.Flushed.append` puts two parts together.
* `Op.flushSlot_flushed`, `Op.flushSlots_flushed`: one slot and several.
* `Op.flushPending_accounts_iff`: the main result.
-/

namespace GpuDebug

/-- A request that was handed over, and the command that was written for it. -/
structure Attempt where
  request : Request
  transmission : Transmission

/-- Distinct requests are different ones. -/
theorem Pending.Distinct.nodup {p : Pending} (h : p.Distinct) : p.requests.Nodup := by
  refine List.nodup_iff_sublist.mpr fun r hr => ?_
  have hown : [r, r].Sublist (p.waiting r.number) := by
    have hfilter := hr.filter (·.number == r.number)
    rwa [List.filter_cons_of_pos (by simp), List.filter_cons_of_pos (by simp),
      List.filter_nil] at hfilter
  have hpair := (List.pairwise_cons.mp ((h r.number).sublist hown)).1 r List.mem_cons_self
  rw [r.sameTarget_self] at hpair
  cases hpair

namespace Debugger

/-- What a part of a flush does, with the commands that it writes. -/
structure Flushed (d d' : Debugger) (attempts : List Attempt) : Prop where
  log : d'.world.transmissions = d.world.transmissions ++ attempts.map (·.transmission)
  steady : d.Steady d'
  distinct : d'.session.pending.Distinct
  subset : ∀ r ∈ d'.session.pending.requests, r ∈ d.session.pending.requests
  nodup : (attempts.map (·.request)).Nodup
  attempted : ∀ a ∈ attempts, a.request ∈ d.session.pending.requests ∧
    d.command? a.request = .ok (some a.transmission.command)
  /-- A request that was written still waits only if its command was cut short. -/
  waits : ∀ a ∈ attempts, a.request ∈ d'.session.pending.requests ↔
    ∃ count, a.transmission.fate = .cut count
  /-- A request that is gone without a command has none. -/
  gone : ∀ r ∈ d.session.pending.requests, r ∉ d'.session.pending.requests →
    (∃ t, ⟨r, t⟩ ∈ attempts) ∨ ∀ c, d.command? r ≠ .ok (some c)

theorem Flushed.refl {d : Debugger} (h : d.session.pending.Distinct) : d.Flushed d [] where
  log := by simp
  steady := refl_of Steady d
  distinct := h
  subset _ := id
  nodup := List.nodup_nil
  attempted a ha := absurd ha List.not_mem_nil
  waits a ha := absurd ha List.not_mem_nil
  gone _ hr hr' := absurd hr hr'

/-- Two parts of a flush, of which the first one leaves no request to the second that it wrote. -/
theorem Flushed.append {d d₁ d₂ : Debugger} {attempts attempts' : List Attempt}
    (h : d.Flushed d₁ attempts) (h' : d₁.Flushed d₂ attempts')
    (hdone : ∀ a ∈ attempts, a.request ∉ d₁.session.pending.requests) :
    d.Flushed d₂ (attempts ++ attempts') where
  log := by rw [h'.log, h.log, List.map_append, List.append_assoc]
  steady := trans_of Steady h.steady h'.steady
  distinct := h'.distinct
  subset r hr := h.subset r (h'.subset r hr)
  nodup := by
    rw [List.map_append, List.nodup_append]
    refine ⟨h.nodup, h'.nodup, fun r hr r' hr' => ?_⟩
    rintro rfl
    obtain ⟨a, ha, rfl⟩ := List.mem_map.mp hr
    obtain ⟨a', ha', heq⟩ := List.mem_map.mp hr'
    exact hdone a ha (heq ▸ (h'.attempted a' ha').1)
  attempted a ha := by
    rcases List.mem_append.mp ha with ha | ha
    · exact h.attempted a ha
    · obtain ⟨hmem, hcommand⟩ := h'.attempted a ha
      exact ⟨h.subset _ hmem, by rw [← hcommand, h.steady.command?]⟩
  waits a ha := by
    rcases List.mem_append.mp ha with ha | ha
    · have hnot : a.request ∉ d₂.session.pending.requests := fun hr => hdone a ha (h'.subset _ hr)
      exact ⟨fun hr => absurd hr hnot, fun hcut => absurd ((h.waits a ha).mpr hcut) (hdone a ha)⟩
    · exact h'.waits a ha
  gone r hr hr' := by
    by_cases hr₁ : r ∈ d₁.session.pending.requests
    · rcases h'.gone r hr₁ hr' with ⟨t, ht⟩ | hnone
      · exact .inl ⟨t, List.mem_append_right _ ht⟩
      · exact .inr fun c hc => hnone c (by rw [h.steady.command?, hc])
    · rcases h.gone r hr hr₁ with ⟨t, ht⟩ | hnone
      · exact .inl ⟨t, List.mem_append_left _ ht⟩
      · exact .inr hnone

/-- One request that was taken out, and put back if the flush stops. -/
theorem Flushed.of_attempt {d d' : Debugger} {r : Request} {stops : Prop}
    (hr : r ∈ d.session.pending.requests) (hsteady : d.Steady d')
    (hdistinct : d'.session.pending.Distinct)
    (hmem : ∀ r', r' ∈ d'.session.pending.requests ↔
      r' ∈ d.session.pending.requests ∧ (r' = r → stops))
    (h : (d'.world.transmissions = d.world.transmissions ∧
        (stops ∨ ∀ c, d.command? r ≠ .ok (some c))) ∨
      ∃ t, d'.world.transmissions = d.world.transmissions ++ [t] ∧
        d.command? r = .ok (some t.command) ∧ (stops ↔ ∃ count, t.fate = .cut count)) :
    ∃ attempts, d.Flushed d' attempts ∧
      (¬ stops → ∀ a ∈ attempts, a.request ∉ d'.session.pending.requests) := by
  have gone : ∀ r' ∈ d.session.pending.requests, r' ∉ d'.session.pending.requests →
      r' = r ∧ ¬ stops := by
    intro r' hr' hnot
    rw [hmem] at hnot
    by_cases heq : r' = r
    · exact ⟨heq, fun hs => hnot ⟨hr', fun _ => hs⟩⟩
    · exact absurd ⟨hr', fun h => absurd h heq⟩ hnot
  have subset : ∀ r' ∈ d'.session.pending.requests, r' ∈ d.session.pending.requests :=
    fun r' hr' => ((hmem r').mp hr').1
  rcases h with ⟨hlog, hnone⟩ | ⟨t, hlog, hcommand, hcut⟩
  · refine ⟨[], ⟨?_, hsteady, hdistinct, subset, List.nodup_nil, ?_, ?_, ?_⟩, ?_⟩
    · rw [hlog, List.map_nil, List.append_nil]
    · exact fun a ha => absurd ha List.not_mem_nil
    · exact fun a ha => absurd ha List.not_mem_nil
    · intro r' hr' hnot
      obtain ⟨rfl, hstops⟩ := gone r' hr' hnot
      exact .inr (hnone.resolve_left hstops)
    · exact fun _ a ha => absurd ha List.not_mem_nil
  · have hiff : r ∈ d'.session.pending.requests ↔ stops := by
      rw [hmem]
      exact ⟨fun h => h.2 rfl, fun h => ⟨hr, fun _ => h⟩⟩
    refine ⟨[⟨r, t⟩], ⟨hlog, hsteady, hdistinct, subset, List.nodup_singleton r, ?_, ?_, ?_⟩, ?_⟩
    · intro a ha
      cases List.mem_singleton.mp ha
      exact ⟨hr, hcommand⟩
    · intro a ha
      cases List.mem_singleton.mp ha
      exact hiff.trans hcut
    · intro r' hr' hnot
      obtain ⟨rfl, -⟩ := gone r' hr' hnot
      exact .inl ⟨t, List.mem_singleton_self _⟩
    · intro hstops a ha
      cases List.mem_singleton.mp ha
      exact fun hwaits => hstops (hiff.mp hwaits)

end Debugger

namespace Op

/-! ## One request -/

/-- Handing the request over fails in a way that stops the flush. -/
def Stops (r : Request) (d : Debugger) : Prop :=
  ∃ e d', (sendRequest r).run d = .error e d' ∧ stopsFlush e = true

/-- Handing over a request writes no command, because it has none or because the flush stops, or
it writes the command of the request, and then the flush stops only if the command is cut short. -/
theorem sendRequest_attempt (r : Request) (d : Debugger) :
    (((sendRequest r).final d).world.transmissions = d.world.transmissions ∧
      (Stops r d ∨ ∀ c, d.command? r ≠ .ok (some c))) ∨
    ∃ t, ((sendRequest r).final d).world.transmissions = d.world.transmissions ++ [t] ∧
      d.command? r = .ok (some t.command) ∧ (Stops r d ↔ ∃ count, t.fate = .cut count) := by
  cases hrun : (sendRequest r).run d with
  | ok outcome d' =>
    rw [final_of_ok hrun]
    have hnot : ¬ Stops r d := by
      rintro ⟨e, d'', h, -⟩
      rw [hrun] at h
      cases h
    cases Hands.of_run hrun with
    | unmapped hc hl =>
      refine .inl ⟨by rw [hl.world], .inr fun c hc' => ?_⟩
      rw [hc] at hc'
      cases hc'
    | sent hc hl hs =>
      obtain ⟨t, rfl, hfate, hd⟩ := send_eq_ok hs
      refine .inr ⟨t, ?_, hc, fun h => absurd h hnot, ?_⟩
      · rw [← hl.world]
        exact hd.log
      · rintro ⟨count, hcut⟩
        rw [hfate] at hcut
        cases hcut
  | error e d' =>
    rw [final_of_error hrun]
    have hiff : Stops r d ↔ stopsFlush e = true := by
      refine ⟨?_, fun h => ⟨e, d', hrun, h⟩⟩
      rintro ⟨e', d'', h, he⟩
      rw [hrun] at h
      cases h
      exact he
    cases Hands.of_run hrun with
    | failed hc hl =>
      refine .inl ⟨by rw [hl.world], .inr fun c hc' => ?_⟩
      rw [hc] at hc'
      cases hc'
    | unsent hc hl hs =>
      rw [← hl.world]
      rcases send_eq_error hs with ⟨hworld, -, hstops⟩ | ⟨t, rfl, -, hd, hcut⟩
      · exact .inl ⟨by rw [hworld], .inl (hiff.mpr hstops)⟩
      · exact .inr ⟨t, hd.log, hc, hiff.trans hcut⟩

/-- A request without a target does not stop a flush. -/
theorem isUnknown_of_stops {r : Request} {d : Debugger} (h : Stops r d) : r.isUnknown = false := by
  obtain ⟨e, d', hrun, he⟩ := h
  unfold Request.isUnknown Request.kind
  cases hr : r.location with
  | unknown =>
    unfold sendRequest at hrun
    rw [hr] at hrun
    cases hrun
    cases he
  | _ => rfl

theorem distinct_sendRequest (r : Request) :
    Preserves (fun d => d.session.pending.Distinct) (sendRequest r) := by
  intro d hd
  rw [pending_sendRequest]
  exact hd

theorem distinct_buffer (r : Request) :
    Preserves (fun d => d.session.pending.Distinct) (buffer r) := by
  intro d hd
  rcases buffer_final r d with h | ⟨slot, pending, hp, h⟩
  · rw [h]
    exact hd
  · rw [h]
    exact hd.push hp

theorem distinct_flushSlot (slot : Nat) :
    Preserves (fun d => d.session.pending.Distinct) (flushSlot slot) := fun _ =>
  flushSlot_related (R := fun d d' => d.session.pending.Distinct → d'.session.pending.Distinct)
    fun r _ => ⟨fun hd => hd.take slot, distinct_sendRequest r, distinct_buffer r⟩

/-- The state after flushing a slot whose request does not stop the flush. -/
theorem flushSlot_final_of_not_stops {slot : Nat} {r : Request} {d : Debugger}
    (hget : d.session.pending.get? slot = some r) (h : ¬ Stops r (without d slot)) :
    (flushSlot slot).final d = (sendRequest r).final (without d slot) := by
  rw [flushSlot_final hget]
  cases hrun : (sendRequest r).run (without d slot) with
  | ok outcome d₁ => exact (final_of_ok hrun).symm
  | error e d₁ =>
    have he : ¬ stopsFlush e = true := fun he => h ⟨e, d₁, hrun, he⟩
    simp only [if_neg he]
    exact (final_of_error hrun).symm

/-- The state after flushing a slot whose request stops the flush: it is buffered again. -/
theorem run_flushSlot_of_stops {slot : Nat} {r : Request} {d : Debugger}
    (hd : d.session.pending.Distinct) (hget : d.session.pending.get? slot = some r)
    (h : Stops r (without d slot)) :
    ∃ e pending, (flushSlot slot).run d =
        .error e (((sendRequest r).final (without d slot)).withPending pending) ∧
      pending.requests.Perm (r :: (d.session.pending.take slot).2.requests) := by
  have hknown := isUnknown_of_stops h
  obtain ⟨e, d₁, hrun, he⟩ := h
  have hpending := pending_sendRequest r (without d slot)
  rw [final_of_error hrun] at hpending ⊢
  obtain ⟨pending, hbuffer, hperm⟩ := buffer_taken hd hget hpending
  rw [Pending.occupant_of_known hknown] at hperm
  refine ⟨e, pending, ?_, hperm⟩
  rw [run_flushSlot hget, hrun]
  dsimp only
  rw [if_pos he, bind_of_ok hbuffer, run_throw]

/-- The requests that wait once one was taken out. -/
theorem mem_requests_take {p : Pending} {slot : Nat} {r : Request} (hd : p.Distinct)
    (hget : p.get? slot = some r) (r' : Request) :
    r' ∈ (p.take slot).2.requests ↔ r' ∈ p.requests ∧ r' ≠ r := by
  obtain ⟨pending, before, after, htake, hrequests, htaken, -⟩ := Pending.take_requests hget
  have hnodup := hd.nodup
  rw [hrequests, List.nodup_middle, List.nodup_cons] at hnodup
  rw [htake, show pending.requests = before ++ after from htaken, hrequests,
    List.perm_middle.mem_iff, List.mem_cons]
  constructor
  · intro h
    exact ⟨.inr h, fun heq => hnodup.1 (heq ▸ h)⟩
  · rintro ⟨heq | h, hne⟩
    · exact absurd heq hne
    · exact h

/-- A flush of one slot keeps all requests but the one of the slot, which it keeps if it stops. -/
theorem mem_flushSlot {slot : Nat} {r : Request} {d : Debugger} (hd : d.session.pending.Distinct)
    (hget : d.session.pending.get? slot = some r) (hr : r ∈ d.session.pending.requests)
    (r' : Request) :
    r' ∈ ((flushSlot slot).final d).session.pending.requests ↔
      r' ∈ d.session.pending.requests ∧ (r' = r → Stops r (without d slot)) := by
  have htaken := mem_requests_take hd hget r'
  by_cases hstops : Stops r (without d slot)
  · obtain ⟨e, pending, hrun, hperm⟩ := run_flushSlot_of_stops hd hget hstops
    rw [final_of_error hrun]
    change r' ∈ pending.requests ↔ _
    rw [hperm.mem_iff, List.mem_cons, htaken]
    constructor
    · rintro (rfl | h)
      · exact ⟨hr, fun _ => hstops⟩
      · exact ⟨h.1, fun _ => hstops⟩
    · rintro ⟨h, -⟩
      by_cases heq : r' = r
      · exact .inl heq
      · exact .inr ⟨h, heq⟩
  · rw [flushSlot_final_of_not_stops hget hstops, pending_sendRequest]
    exact htaken.trans (and_congr_right fun _ => ⟨fun hne heq => absurd heq hne,
      fun h heq => hstops (h heq)⟩)

/-- Flushing a slot writes what handing over its request writes. -/
theorem transmissions_flushSlot {slot : Nat} {r : Request} {d : Debugger}
    (hd : d.session.pending.Distinct) (hget : d.session.pending.get? slot = some r) :
    ((flushSlot slot).final d).world.transmissions =
      ((sendRequest r).final (without d slot)).world.transmissions := by
  by_cases hstops : Stops r (without d slot)
  · obtain ⟨e, pending, hrun, -⟩ := run_flushSlot_of_stops hd hget hstops
    rw [final_of_error hrun]
    rfl
  · rw [flushSlot_final_of_not_stops hget hstops]

/-- **Flushing one slot.** If it does not stop the flush, no request for which a command was written
waits afterwards. -/
theorem flushSlot_flushed (slot : Nat) {d : Debugger} (hd : d.session.pending.Distinct) :
    ∃ attempts, d.Flushed ((flushSlot slot).final d) attempts ∧
      ∀ sent d', (flushSlot slot).run d = .ok sent d' →
        ∀ a ∈ attempts, a.request ∉ d'.session.pending.requests := by
  cases hget : d.session.pending.get? slot with
  | none =>
    rw [flushSlot_final_free hget]
    exact ⟨[], .refl hd, fun _ _ _ a ha => absurd ha List.not_mem_nil⟩
  | some r =>
    have hr : r ∈ d.session.pending.requests :=
      (Pending.mem_waiting.mp ((Pending.waiting_take hget).2.mem_iff.mpr List.mem_cons_self)).1
    have hcommand : (without d slot).command? r = d.command? r :=
      (d.steady_withPending _).command? r
    have hattempt := sendRequest_attempt r (without d slot)
    rw [hcommand, ← transmissions_flushSlot hd hget] at hattempt
    obtain ⟨attempts, hflushed, hdone⟩ := Debugger.Flushed.of_attempt hr (steady_flushSlot slot d)
      (distinct_flushSlot slot d hd) (mem_flushSlot hd hget hr) hattempt
    refine ⟨attempts, hflushed, fun sent d' hok => ?_⟩
    rw [final_of_ok hok] at hdone
    refine hdone fun hstops => ?_
    -- A flush that stops does not end well.
    obtain ⟨e, pending, hrun, -⟩ := run_flushSlot_of_stops hd hget hstops
    rw [hrun] at hok
    cases hok

/-! ## A whole flush -/

theorem flushSlots_flushed (slots : List Nat) {d : Debugger} (hd : d.session.pending.Distinct) :
    ∃ attempts, d.Flushed ((flushSlots slots).final d) attempts := by
  induction slots generalizing d with
  | nil => exact ⟨[], .refl hd⟩
  | cons slot slots ih =>
    obtain ⟨attempts, hflushed, hdone⟩ := flushSlot_flushed slot hd
    unfold flushSlots
    cases hrun : (flushSlot slot).run d with
    | error e d₁ =>
      rw [final_of_error (bind_of_error hrun)]
      rw [final_of_error hrun] at hflushed
      exact ⟨attempts, hflushed⟩
    | ok sent d₁ =>
      rw [final_of_ok hrun] at hflushed
      obtain ⟨attempts', hflushed'⟩ := ih hflushed.distinct
      rw [final_bind_of_ok hrun, final_bind_of_final_eq fun _ _ => rfl]
      exact ⟨attempts ++ attempts', hflushed.append hflushed' (hdone sent d₁ hrun)⟩

/-- **What becomes of the requests that wait before a flush.** The commands written by the flush
belong to different requests that waited, one to each. A request still waits with all its fields,
or its command was taken whole, or it has no command because its lookup found no line or failed,
exactly if the pipe did not refuse its command. Requests are distinct in every reachable state, and
at every flush on the way to one. -/
theorem flushPending_accounts_iff {d : Debugger} (hd : d.session.pending.Distinct) :
    ∃ attempts : List Attempt,
      (flushPending.final d).world.transmissions =
        d.world.transmissions ++ attempts.map (·.transmission) ∧
      (attempts.map (·.request)).Nodup ∧
      (∀ a ∈ attempts, a.request ∈ d.session.pending.requests ∧
        d.command? a.request = .ok (some a.transmission.command)) ∧
      ∀ r ∈ d.session.pending.requests,
        (r ∈ (flushPending.final d).session.pending.requests ∨
          (∃ t, ⟨r, t⟩ ∈ attempts ∧ t.isComplete = true) ∨
          ∀ c, d.command? r ≠ .ok (some c)) ↔
        ∀ t, ⟨r, t⟩ ∈ attempts → t.fate ≠ .refused := by
  rw [flushPending_final]
  obtain ⟨attempts, hflushed⟩ :=
    flushSlots_flushed (d.session.pending.readySlots d.session.readyFor) hd
  refine ⟨attempts, hflushed.log, hflushed.nodup, hflushed.attempted, fun r hr => ⟨?_, ?_⟩⟩
  · rintro (hwaits | ⟨t', ht', hcomplete⟩ | hnone) t ht hfate
    · obtain ⟨count, hcut⟩ := (hflushed.waits _ ht).mp hwaits
      rw [hfate] at hcut
      cases hcut
    · cases List.inj_on_of_nodup_map hflushed.nodup ht ht' rfl
      rw [Transmission.isComplete, hfate] at hcomplete
      cases hcomplete
    · exact hnone _ (hflushed.attempted _ ht).2
  · intro h
    by_cases hwaits : r ∈ ((flushSlots (d.session.pending.readySlots
        d.session.readyFor)).final d).session.pending.requests
    · exact .inl hwaits
    · rcases hflushed.gone r hr hwaits with ⟨t, ht⟩ | hnone
      · refine .inr (.inl ⟨t, ht, ?_⟩)
        cases hfate : t.fate with
        | delivered => rw [Transmission.isComplete, hfate]
        | unflushed => rw [Transmission.isComplete, hfate]
        | cut count => exact absurd ((hflushed.waits _ ht).mpr ⟨count, hfate⟩) hwaits
        | refused => exact absurd hfate (h t ht)
      · exact .inr (.inr hnone)

/-- A request waits, and the channel was just opened on a pipe that refuses the next command. -/
def refusing : Debugger :=
  let d := Debugger.fresh.after [.resolve ⟨1, .any, .kernel "vadd"⟩,
    .outside .empty { (default : World) with replies := [.refuse "broken pipe"] }]
  { d with session := { d.session with channel := .onPipe } }

/-- The flush accounts for the command that it wrote, and not for the request of it. -/
theorem refused_request_is_lost :
    ∃ attempts : List Attempt,
      (flushPending.final refusing).world.transmissions =
        refusing.world.transmissions ++ attempts.map (·.transmission) ∧
      ¬ ∀ r ∈ refusing.session.pending.requests,
        r ∈ (flushPending.final refusing).session.pending.requests ∨
          (∃ t, ⟨r, t⟩ ∈ attempts ∧ t.isComplete = true) ∨
          ∀ c, refusing.command? r ≠ .ok (some c) := by
  have hdistinct : refusing.session.pending.Distinct :=
    (Debugger.reachable_fresh.after [.resolve ⟨1, .any, .kernel "vadd"⟩]).sound.distinct
  obtain ⟨attempts, hlog, -, hattempted, hiff⟩ := flushPending_accounts_iff hdistinct
  refine ⟨attempts, hlog, fun h => ?_⟩
  have hwritten : (flushPending.final refusing).world.transmissions =
      [⟨.createKernel 1 "vadd" (Condition.toPacket .any), .refused, .pipe⟩] := rfl
  have hrequests : refusing.session.pending.requests = [⟨1, .any, .kernel "vadd"⟩] := rfl
  have hmap : attempts.map (·.transmission) =
      [⟨.createKernel 1 "vadd" (Condition.toPacket .any), .refused, .pipe⟩] :=
    hlog.symm.trans hwritten
  obtain ⟨a, rfl, htransmission⟩ := List.map_eq_singleton_iff.mp hmap
  have hmem := (hattempted a List.mem_cons_self).1
  exact (hiff a.request hmem).mp (h a.request hmem) a.transmission List.mem_cons_self
    (by rw [htransmission])

end Op

end GpuDebug
