import GpuDebug.Proofs.Buffering
import GpuDebug.Proofs.Deletion

/-!
# Disabled breakpoints

Disabling a breakpoint tells the agent and clears the switch that the host stores. Nothing else
looks at the switch: requests that still wait are flushed, and a breakpoint that was placed is
resolved again in the next code object, whether it is disabled or not. A disabled breakpoint stays
away only if nothing of it is left.

* `Debugger.leftovers`: the requests of a number that taking over a code object comes across.
* `Debugger.Sendable`: a request whose command can be sent now.
* `Op.creates_flushPending_iff`: what a flush creates.
* `Op.creates_adjustAll_iff`, `Op.creates_newBinary_iff`: what a new code object creates.
* `Debugger.disabled_created_iff`: the main result.
-/

namespace GpuDebug

namespace Debugger

variable {number : Int32} {d d₁ d₂ d' : Debugger} {r : Request}

/-! ## Commands that create a breakpoint -/

/-- One of the commands written by the step creates the breakpoint of the number. -/
def Creates (number : Int32) (d d' : Debugger) : Prop :=
  ∃ t ∈ d'.world.transmissions.drop d.world.transmissions.length, t.creates number = true

theorem creates_iff_of_log {later : List Transmission}
    (h : d'.world.transmissions = d.world.transmissions ++ later) :
    Creates number d d' ↔ ∃ t ∈ later, t.creates number = true := by
  rw [Creates, h, List.drop_left]

theorem not_creates_iff_uncreating (h : Advances d d') :
    ¬ Creates number d d' ↔ Uncreating number d d' := by
  obtain ⟨later, hlog⟩ := h.log
  rw [creates_iff_of_log hlog.symm]
  constructor
  · intro hnot
    exact ⟨later, hlog.symm, fun t ht => Bool.eq_false_iff.mpr fun hc => hnot ⟨t, ht, hc⟩⟩
  · rintro ⟨later', hlog', hlater⟩ ⟨t, ht, hc⟩
    cases List.append_cancel_left (hlog.trans hlog')
    rw [hlater t ht] at hc
    cases hc

theorem creates_trans_iff (h : Advances d d₁) (h' : Advances d₁ d₂) :
    Creates number d d₂ ↔ Creates number d d₁ ∨ Creates number d₁ d₂ := by
  obtain ⟨first, hfirst⟩ := h.log
  obtain ⟨second, hsecond⟩ := h'.log
  have hboth : d₂.world.transmissions = d.world.transmissions ++ (first ++ second) := by
    rw [← hsecond, ← hfirst, List.append_assoc]
  rw [creates_iff_of_log hboth, creates_iff_of_log hfirst.symm, creates_iff_of_log hsecond.symm]
  simp only [List.mem_append, or_and_right, exists_or]

theorem Untouched.not_creates (h : Untouched number d d') : ¬ Creates number d d' :=
  (not_creates_iff_uncreating h.toAdvances).mpr h.uncreating

/-- The command of a request creates the breakpoint of its number only. -/
theorem creates_iff_of_command? {t : Transmission} (h : d.command? r = .ok (some t.command)) :
    t.creates number = true ↔ r.number = number := by
  obtain ⟨htag, hnumber⟩ := command?_creates h
  simp [Transmission.creates, htag, hnumber]

/-! ## Requests that can be sent -/

/-- The agent can take the request now, and its line has code. -/
def Sendable (d : Debugger) (r : Request) : Prop :=
  d.session.readyFor r = true ∧ ∃ c, d.command? r = .ok (some c)

theorem Steady.readyFor (h : d.Steady d') (hopen : d'.session.channel.isOpen = true) (r : Request) :
    d'.session.readyFor r = d.session.readyFor r := by
  unfold Session.readyFor
  rw [hopen, h.isOpen hopen, h.debugInfo]

theorem Steady.sendable_iff (h : d.Steady d') (hopen : d'.session.channel.isOpen = true)
    (r : Request) : d'.Sendable r ↔ d.Sendable r := by
  unfold Sendable
  rw [h.readyFor hopen, h.command?]

/-- The requests of a number that taking over a code object comes across: that of the stored
breakpoint, if it was placed, which takes the place of the first one that waits, and those that
wait. -/
def leftovers (d : Debugger) (number : Int32) : List Request :=
  match (d.host.breakpoints.get? number).bind Op.placedRequest? with
  | some r => r :: (d.session.pending.waiting number).tail
  | none => d.session.pending.waiting number

theorem leftovers_of_placed
    (h : (d.host.breakpoints.get? number).bind Op.placedRequest? = some r) :
    d.leftovers number = r :: (d.session.pending.waiting number).tail := by
  rw [leftovers, h]

theorem leftovers_of_unplaced
    (h : (d.host.breakpoints.get? number).bind Op.placedRequest? = none) :
    d.leftovers number = d.session.pending.waiting number := by
  rw [leftovers, h]

/-- Whether a breakpoint was placed is part of what the view shows. -/
theorem placedRequest?_placing (d : Debugger) (number : Int32) :
    (d.host.breakpoints.get? number).bind Op.placedRequest? =
      (d.view number).stored.bind Op.placedRequest? := by
  unfold view
  cases d.host.breakpoints.get? number with
  | none => rfl
  | some b => rfl

theorem Untouched.leftovers (h : Untouched number d d') :
    d'.leftovers number = d.leftovers number := by
  unfold Debugger.leftovers
  rw [placedRequest?_placing, placedRequest?_placing, h.view, h.waiting]

/-! ## Steps without the command of a request -/

/-- The step changes no lookup of the base, and creates no breakpoint of the number. -/
def Spares (b : Debugger) (number : Int32) (d d' : Debugger) : Prop :=
  b.Steady d → b.Steady d' ∧ Uncreating number d d'

instance (b : Debugger) : IsPreorder Debugger (Spares b number) where
  refl _ hb := ⟨hb, .of_log_eq rfl⟩
  trans d d' d'' h h' hb := by
    obtain ⟨hb', huncreating⟩ := h hb
    obtain ⟨hb'', huncreating'⟩ := h' hb'
    exact ⟨hb'', huncreating.trans huncreating'⟩

end Debugger

namespace Op

open Debugger (Creates Sendable Spares Sound Untouched Advances)

variable {number : Int32} {b d d₁ d' : Debugger} {r : Request}

theorem spares_withPending (d : Debugger) (pending : Pending) :
    Spares b number d (d.withPending pending) := fun hb =>
  ⟨trans_of _ hb (d.steady_withPending pending), .of_log_eq rfl⟩

theorem spares_buffer (r : Request) : Respects (Spares b number) (buffer r) := by
  intro d
  rcases buffer_final r d with h | ⟨slot, pending, -, h⟩
  · rw [h]
    exact refl_of _ d
  · rw [h]
    exact spares_withPending d pending

/-- Handing over a request of another number, or one without a command. -/
theorem spares_sendRequest (h : r.number = number → ∀ c, b.command? r ≠ .ok (some c)) :
    Respects (Spares b number) (sendRequest r) := by
  refine fun d hb => ⟨trans_of _ hb (steady_sendRequest r d), ?_⟩
  rcases sendRequest_attempt r d with ⟨hlog, -⟩ | ⟨t, hlog, hcommand, -⟩
  · exact .of_log_eq hlog
  · refine ⟨[t], hlog, fun t' ht' => ?_⟩
    cases List.mem_singleton.mp ht'
    refine Bool.eq_false_iff.mpr fun hcreates => ?_
    have hnumber := (Debugger.creates_iff_of_command? hcommand).mp hcreates
    rw [hb.command?] at hcommand
    exact h hnumber _ hcommand

/-! ## What a flush creates -/

/-- A flush that ends well leaves requests only in the slots that were not flushed. -/
theorem get?_of_flushSlots {slots : List Nat} {slot' : Nat} {count : Nat}
    (hrun : (flushSlots slots).run d = .ok count d')
    (h : d'.session.pending.get? slot' = some r) :
    d.session.pending.get? slot' = some r ∧ slot' ∉ slots := by
  induction slots generalizing d count with
  | nil =>
    cases hrun
    exact ⟨h, List.not_mem_nil⟩
  | cons slot slots ih =>
    obtain ⟨sent, d₁, hslot, hrest⟩ := bind_eq_ok hrun
    obtain ⟨others, d₂, hothers, hpure⟩ := bind_eq_ok hrest
    cases hpure
    obtain ⟨hget, hnot⟩ := ih hothers
    refine ⟨get?_of_flushSlot hslot hget, fun hmem => ?_⟩
    rcases List.mem_cons.mp hmem with rfl | hmem
    · -- The slot was freed when it was flushed.
      cases hfirst : d.session.pending.get? slot' with
      | none =>
        rw [get?_of_flushSlot hslot hget] at hfirst
        cases hfirst
      | some s =>
        rw [pending_flushSlot hfirst hslot] at hget
        have hfree := Pending.get?_take_self d.session.pending slot'
        cases hget.symm.trans hfree
    · exact hnot hmem

/-- A flush creates no breakpoint of which no request that can be sent waits. -/
theorem uncreating_flushPending (h : ∀ r ∈ d.session.pending.waiting number, ¬ d.Sendable r) :
    Debugger.Uncreating number d (flushPending.final d) := by
  have hspares : Spares d number d (flushPending.final d) := by
    rw [flushPending_final]
    refine flushSlots_related (P := fun r => r.number = number → ∀ c, d.command? r ≠ .ok (some c))
      (fun d' slot => spares_withPending d' _) (fun r => spares_sendRequest)
      (fun r _ => spares_buffer r) fun slot hslot r hget hnumber c hc => ?_
    have hwaits := Pending.mem_waiting_of_get? hget
    rw [hnumber] at hwaits
    exact h r hwaits ⟨Pending.ready_of_mem_readySlots hslot hget, c, hc⟩
  exact (hspares (refl_of _ d)).2

/-- **What a flush creates.** A flush that ends well creates the breakpoint of a number exactly if
a request of it waits that can be sent. -/
theorem creates_flushPending_iff {count : Nat} (hd : d.session.pending.Distinct)
    (hok : flushPending.run d = .ok count d') :
    Creates number d d' ↔ ∃ r ∈ d.session.pending.waiting number, d.Sendable r := by
  have hfinal := final_of_ok hok
  constructor
  · intro hcreates
    by_contra hnone
    have huncreating : Debugger.Uncreating number d (flushPending.final d) :=
      uncreating_flushPending fun r hr hs => hnone ⟨r, hr, hs⟩
    have hadvances : Advances d d' := (respects_flushPending advances_flushSlot).of_ok hok
    rw [hfinal] at huncreating
    exact (Debugger.not_creates_iff_uncreating hadvances).mpr huncreating hcreates
  · rintro ⟨r, hr, hready, c, hc⟩
    obtain ⟨hmem, hnumber⟩ := Pending.mem_waiting.mp hr
    obtain ⟨attempts, hflushed⟩ :=
      flushSlots_flushed (d.session.pending.readySlots d.session.readyFor) hd
    rw [← flushPending_final, hfinal] at hflushed
    have hgone : r ∉ d'.session.pending.requests := by
      intro hwaits
      obtain ⟨slot, hget⟩ := Pending.mem_requests_iff.mp hwaits
      have hslots : (flushSlots (d.session.pending.readySlots d.session.readyFor)).run d =
          .ok count d' := by
        unfold flushPending at hok
        rwa [bind_of_ok (run_session d)] at hok
      obtain ⟨hbefore, hnot⟩ := get?_of_flushSlots hslots hget
      exact hnot (Pending.mem_readySlots hbefore hready)
    rcases hflushed.gone r hmem hgone with ⟨t, ht⟩ | hnone
    · have hcommand := (hflushed.attempted _ ht).2
      refine (Debugger.creates_iff_of_log hflushed.log).mpr ⟨t, List.mem_map.mpr ⟨_, ht, rfl⟩, ?_⟩
      exact (Debugger.creates_iff_of_command? hcommand).mpr hnumber
    · exact absurd hc (hnone c)

/-! ## What resolving again creates -/

/-- Buffering a request changes nothing about the others that wait. -/
theorem mem_waiting_buffer_of_ne {s : Request} (hne : s ≠ r) :
    s ∈ ((buffer r).final d).session.pending.waiting number ↔
      s ∈ d.session.pending.waiting number := by
  rcases buffer_final r d with h | ⟨slot, pending, hp, h⟩
  · rw [h]
  · rw [h]
    change s ∈ pending.waiting number ↔ _
    obtain ⟨hother, hown⟩ := Pending.waiting_push hp
    by_cases hn : r.number = number
    · subst hn
      rcases hown with ⟨rfl, -⟩ | ⟨-, hperm⟩
      · rfl
      · rw [hperm.mem_iff, List.mem_append]
        refine or_iff_right fun hocc => hne ?_
        unfold Pending.occupant at hocc
        split at hocc
        · cases hocc
        · exact List.mem_singleton.mp hocc
    · rw [hother number hn]

/-- A request with a command that is handed over while the channel is open is written, or its
command is not valid. -/
theorem sendRequest_writes {c : Command} (hopen : d.session.channel.isOpen = true)
    (hc : d.command? r = .ok (some c)) :
    (∃ t, t.command = c ∧
      ((sendRequest r).final d).world.transmissions = d.world.transmissions ++ [t]) ∨
    ∃ e d', (sendRequest r).run d = .error e d' ∧ e.breaksContract = true := by
  cases hrun : (sendRequest r).run d with
  | ok outcome d₁ =>
    rw [final_of_ok hrun]
    cases Hands.of_run hrun with
    | unmapped hc' hl => cases hc.symm.trans hc'
    | sent hc' hl hs =>
      cases hc.symm.trans hc'
      obtain ⟨t, htc, -, hd⟩ := send_eq_ok hs
      exact .inl ⟨t, htc, hd.log.trans (by rw [hl.world])⟩
  | error e d₁ =>
    rw [final_of_error hrun]
    cases Hands.of_run hrun with
    | failed hc' hl => cases hc.symm.trans hc'
    | unsent hc' hl hs =>
      cases hc.symm.trans hc'
      have written : ∀ {t : Transmission}, Debugger.Written t _ d₁ →
          d₁.world.transmissions = d.world.transmissions ++ [t] := fun hd =>
        hd.log.trans (by rw [hl.world])
      cases Sends.of_run hs with
      | closed hclosed =>
        rw [hl.session] at hclosed
        cases hopen.symm.trans hclosed
      | invalid => exact .inr ⟨_, _, rfl, rfl⟩
      | unflushed _ hd htc => exact .inl ⟨_, htc, written hd⟩
      | refused _ hd htc => exact .inl ⟨_, htc, written hd⟩
      | cut _ hd htc => exact .inl ⟨_, htc, written hd⟩

theorem waiting_forgetting (d : Debugger) (number : Int32) :
    (forgetting d number).session.pending.waiting number =
      (d.session.pending.waiting number).tail := by
  change (d.session.pending.remove number).2.waiting number = _
  rw [Pending.waiting_remove, if_pos rfl]

/-- A placed breakpoint whose request is ready is created again if its line has code. -/
theorem creates_adjust_of_ready {adjusted : Bool} (hnumber : r.number = number)
    (hplaced : (d.host.breakpoints.get? number).bind placedRequest? = some r)
    (hready : d.session.readyFor r = true) (hrun : (adjust number).run d = .ok adjusted d₁) :
    d₁.session.pending.waiting number = (d.session.pending.waiting number).tail ∧
      (Creates number d d₁ ↔ d.Sendable r) := by
  have hready' : (forgetting d number).session.readyFor r = true := hready
  have hfinal : d₁ = (sendRequest r).final (forgetting d number) := by
    rw [← final_of_ok hrun, adjust_final hplaced, resolve_final, if_pos hready']
  refine ⟨by rw [hfinal, pending_sendRequest, waiting_forgetting], fun hcreates => ?_, ?_⟩
  · rcases sendRequest_attempt r (forgetting d number) with ⟨hlog, -⟩ | ⟨t, -, hcommand, -⟩
    · rw [← hfinal] at hlog
      have huncreating : Debugger.Uncreating number d d₁ := .of_log_eq hlog
      have hadvances : Advances d d₁ := (advances_adjust number).of_ok hrun
      exact absurd hcreates ((Debugger.not_creates_iff_uncreating hadvances).mpr huncreating)
    · exact ⟨hready, _, hcommand⟩
  · rintro ⟨-, command, hcommand⟩
    have hopen : (forgetting d number).session.channel.isOpen = true :=
      (Bool.and_eq_true_iff.mp hready').1
    rcases sendRequest_writes hopen hcommand with ⟨t, rfl, hlog⟩ | ⟨e, d₂, hfails, hbreaks⟩
    · rw [← hfinal] at hlog
      have hlog' : d₁.world.transmissions = d.world.transmissions ++ [t] := hlog
      exact (Debugger.creates_iff_of_log hlog').mpr ⟨t, List.mem_singleton_self t,
        (Debugger.creates_iff_of_command? hcommand).mpr hnumber⟩
    · -- A command that is not valid would have been the end of it.
      rw [run_adjust hplaced, run_resolve, if_pos hready', hfails] at hrun
      dsimp only at hrun
      rw [if_pos hbreaks] at hrun
      cases hrun

/-- A placed breakpoint whose request is not ready waits, if there is room for it. -/
theorem creates_adjust_of_not_ready
    (hplaced : (d.host.breakpoints.get? number).bind placedRequest? = some r)
    (hready : ¬ d.session.readyFor r = true) :
    ¬ Creates number d ((adjust number).final d) ∧
      ∀ s, s ≠ r → (s ∈ ((adjust number).final d).session.pending.waiting number ↔
        s ∈ (d.session.pending.waiting number).tail) := by
  have hready' : ¬ (forgetting d number).session.readyFor r = true := hready
  rw [adjust_final hplaced, resolve_final, if_neg hready']
  refine ⟨?_, fun s hs => by rw [mem_waiting_buffer_of_ne hs, waiting_forgetting]⟩
  have hforgets : Advances d (forgetting d number) := .of_world_eq rfl
  have hadvances := trans_of _ hforgets (advances_buffer r (forgetting d number))
  refine (Debugger.not_creates_iff_uncreating hadvances).mpr (.of_log_eq ?_)
  rcases buffer_final r (forgetting d number) with h | ⟨slot, pending, -, h⟩
  · rw [h]
    rfl
  · rw [h]
    rfl

/-- Resolving a breakpoint again, if that ends well and the channel stays open: it is created then,
or a request of it waits that can be sent, exactly if something is left of it that can be sent. -/
theorem creates_adjust_iff {adjusted : Bool} (hd : d.Sound)
    (hrun : (adjust number).run d = .ok adjusted d₁)
    (hopen : d₁.session.channel.isOpen = true) :
    (Creates number d d₁ ∨ ∃ r ∈ d₁.session.pending.waiting number, d₁.Sendable r) ↔
      ∃ r ∈ d.leftovers number, d.Sendable r := by
  have hsteady : d.Steady d₁ := (steady_adjust number).of_ok hrun
  simp only [hsteady.sendable_iff hopen]
  cases hplaced : (d.host.breakpoints.get? number).bind placedRequest? with
  | none =>
    rw [run_adjust_unplaced hplaced] at hrun
    cases hrun
    rw [Debugger.leftovers_of_unplaced hplaced]
    exact or_iff_right (refl_of (Untouched number) d).not_creates
  | some r =>
    obtain ⟨c, hget, hrequest⟩ := Option.bind_eq_some_iff.mp hplaced
    obtain ⟨rfl, -, -⟩ := placedRequest?_eq_some hrequest
    rw [Debugger.leftovers_of_placed hplaced, List.exists_mem_cons_iff]
    by_cases hready : d.session.readyFor c.request = true
    · obtain ⟨hwaiting, hcreates⟩ :=
        creates_adjust_of_ready (hd.number_of_get? hget) hplaced hready hrun
      rw [hwaiting, hcreates]
    · obtain ⟨hnot, hmem⟩ := creates_adjust_of_not_ready hplaced hready
      rw [final_of_ok hrun] at hnot hmem
      have hunsendable : ¬ d.Sendable c.request := fun hs => hready hs.1
      have hne : ∀ r, d.Sendable r → r ≠ c.request := fun r hr heq => hunsendable (heq ▸ hr)
      rw [or_iff_right hnot, or_iff_right hunsendable]
      exact exists_congr fun r => and_congr_left fun hr => hmem r (hne r hr)

/-- Resolving some breakpoints again, each of them once. -/
theorem creates_adjustEach_iff {numbers : List Int32} {count : Nat} (hnodup : numbers.Nodup)
    (hmem : number ∈ numbers) (hd : d.Sound) (hrun : (adjustEach numbers).run d = .ok count d₁)
    (hopen : d₁.session.channel.isOpen = true) :
    (Creates number d d₁ ∨ ∃ r ∈ d₁.session.pending.waiting number, d₁.Sendable r) ↔
      ∃ r ∈ d.leftovers number, d.Sendable r := by
  induction numbers generalizing d count with
  | nil => cases hmem
  | cons n numbers ih =>
    obtain ⟨hn, hnodup⟩ := List.nodup_cons.mp hnodup
    obtain ⟨adjusted, d₂, hadjust, hrest⟩ := bind_eq_ok hrun
    obtain ⟨others, d₃, hothers, hpure⟩ := bind_eq_ok hrest
    cases hpure
    have hsound : d₂.Sound := (carried_sound.adjust n).of_ok hadjust hd
    have hsteady : d₂.Steady d₁ := (respects_adjustEach steady_adjust numbers).of_ok hothers
    have hopen₂ := hsteady.isOpen hopen
    by_cases heq : n = number
    · subst heq
      have hlater : Untouched n d₂ d₁ := by
        rw [← final_of_ok hothers]
        exact untouched_adjustEach hsound hn
      have hadvances : Advances d d₂ := (advances_adjust n).of_ok hadjust
      rw [Debugger.creates_trans_iff hadvances hlater.toAdvances, or_iff_left hlater.not_creates,
        hlater.waiting]
      simp only [hsteady.sendable_iff hopen]
      exact creates_adjust_iff hd hadjust hopen₂
    · have hfirst : Untouched number d d₂ := by
        rw [← final_of_ok hadjust]
        exact untouched_adjust_other hd heq
      have hadvances : Advances d₂ d₁ := (respects_adjustEach advances_adjust numbers).of_ok hothers
      have hsteady₁ : d.Steady d₂ := (steady_adjust n).of_ok hadjust
      rw [Debugger.creates_trans_iff hfirst.toAdvances hadvances, or_iff_right hfirst.not_creates,
        ih hnodup ((List.mem_cons.mp hmem).resolve_left (Ne.symm heq)) hsound hothers,
        hfirst.leftovers]
      simp only [hsteady₁.sendable_iff hopen₂]

/-- **What resolving all breakpoints again creates.** -/
theorem creates_adjustAll_iff {count : Nat} (hnodup : d.host.breakpoints.numbers.Nodup)
    (hd : d.Sound) (hrun : adjustAll.run d = .ok count d₁)
    (hopen : d₁.session.channel.isOpen = true) :
    (Creates number d d₁ ∨ ∃ r ∈ d₁.session.pending.waiting number, d₁.Sendable r) ↔
      ∃ r ∈ d.leftovers number, d.Sendable r := by
  have heach : (adjustEach d.host.breakpoints.numbers).run d = .ok count d₁ := by
    unfold adjustAll at hrun
    rwa [bind_of_ok (run_host d)] at hrun
  by_cases hmem : number ∈ d.host.breakpoints.numbers
  · exact creates_adjustEach_iff hnodup hmem hd heach hopen
  · -- The host has no such breakpoint, and nothing happens to its number.
    have huntouched : Untouched number d d₁ := by
      rw [← final_of_ok heach]
      exact untouched_adjustEach hd hmem
    have hunplaced : (d.host.breakpoints.get? number).bind placedRequest? = none := by
      rw [BreakpointTable.mem_numbers, Bool.not_eq_true, Option.isSome_eq_false_iff,
        Option.isNone_iff_eq_none] at hmem
      rw [hmem, Option.bind_none]
    have hsteady : d.Steady d₁ := (respects_adjustAll steady_adjust).of_ok hrun
    rw [or_iff_right huntouched.not_creates, huntouched.waiting,
      Debugger.leftovers_of_unplaced hunplaced]
    simp only [hsteady.sendable_iff hopen]

/-- **What a new code object creates.** If it was taken over and the channel is open afterwards, the
breakpoint of a number was created exactly if something was left of it that could be sent once the
code object was loaded. -/
theorem creates_newBinary_iff {kernel : String} {groupSize gridSize : Dim} (hd : d.Reachable)
    (hok : (dispatchNotification (.newBinary kernel groupSize gridSize)).run d = .ok () d')
    (hopen : d'.session.channel.isOpen = true) :
    Creates number d d' ↔ ∃ r ∈ d.leftovers number,
      ((prepare ⟨kernel, groupSize, gridSize⟩).final d).Sendable r := by
  have hok' : (onNewBinary ⟨kernel, groupSize, gridSize⟩).run d = .ok () d' := hok
  have hquiet := quiet_prepare ⟨kernel, groupSize, gridSize⟩ d
  rw [onNewBinary_eq, bind_of_ok ((total_prepare _).run d)] at hok'
  generalize (prepare ⟨kernel, groupSize, gridSize⟩).final d = p at hok' hquiet ⊢
  obtain ⟨adjusted, d₁, hadjust, hrest⟩ := bind_eq_ok hok'
  obtain ⟨flushed, d₂, hflush, hpure⟩ := bind_eq_ok hrest
  cases hpure
  have hsound : p.Sound := hd.sound.of_quiet hquiet
  have hnodup : p.host.breakpoints.numbers.Nodup := by
    rw [hquiet.numbers]
    exact hd.ascending.nodup
  have hsound₁ : d₁.Sound := (respects_adjustAll carried_sound.adjust).of_ok hadjust hsound
  have hadvances : Advances p d₁ := (respects_adjustAll advances_adjust).of_ok hadjust
  have hadvances₁ : Advances d₁ d' := (respects_flushPending advances_flushSlot).of_ok hflush
  have hsteady₁ : d₁.Steady d' := (respects_flushPending steady_flushSlot).of_ok hflush
  have huntouched := hquiet.untouched number
  calc Creates number d d'
      ↔ Creates number p d' := by
        rw [Debugger.creates_trans_iff huntouched.toAdvances (trans_of _ hadvances hadvances₁),
          or_iff_right huntouched.not_creates]
    _ ↔ Creates number p d₁ ∨ Creates number d₁ d' :=
        Debugger.creates_trans_iff hadvances hadvances₁
    _ ↔ Creates number p d₁ ∨ ∃ r ∈ d₁.session.pending.waiting number, d₁.Sendable r := by
        rw [creates_flushPending_iff hsound₁.distinct hflush]
    _ ↔ ∃ r ∈ p.leftovers number, p.Sendable r :=
        creates_adjustAll_iff hnodup hsound hadjust (hsteady₁.isOpen hopen)
    _ ↔ ∃ r ∈ d.leftovers number, p.Sendable r := by rw [huntouched.leftovers]

end Op

namespace Debugger

variable {number : Int32} {d d' : Debugger}

/-- **A breakpoint that was disabled.** If nothing is left of it, it is not created again before it
is asked for again. Otherwise it is: a flush creates it exactly if a request of it waits that can be
sent, and a new code object creates it exactly if something is left of it that can be sent, although
the host stores it as disabled all the while. -/
theorem disabled_created_iff (hd : d.Reachable)
    (hok : (Op.disableBreakpoint number).run d = .ok () d') :
    (d'.Gone number → ∀ actions : List Action, (∀ a ∈ actions, a.resolves number = false) →
      ¬ Creates number d' (d'.after actions)) ∧
    ∀ (actions : List Action) (b : Breakpoint), (∀ a ∈ actions, a.resolves number = false) →
      (d'.after actions).host.breakpoints.get? number = some b → b.enabled = false →
      (∀ count e, Op.flushPending.run (d'.after actions) = .ok count e →
        (Creates number (d'.after actions) e ↔
          ∃ r ∈ (d'.after actions).session.pending.waiting number, (d'.after actions).Sendable r)) ∧
      ∀ kernel groupSize gridSize e,
        (Op.dispatchNotification (.newBinary kernel groupSize gridSize)).run (d'.after actions) =
          .ok () e → e.session.channel.isOpen = true →
        (Creates number (d'.after actions) e ↔ ∃ r ∈ (d'.after actions).leftovers number,
          ((Op.prepare ⟨kernel, groupSize, gridSize⟩).final (d'.after actions)).Sendable r) := by
  have hd' : d'.Reachable := by
    rw [← Op.final_of_ok hok]
    exact hd.step (.disable number)
  refine ⟨fun hgone actions hactions => ?_, fun actions b _ _ _ => ⟨fun count e hflush => ?_, ?_⟩⟩
  · obtain ⟨later, hlog, hlater⟩ := (barren_after hactions hd'.sound hgone).2.2
    rintro ⟨t, ht, hcreates⟩
    rw [hlog, List.drop_left] at ht
    rw [hlater t ht] at hcreates
    cases hcreates
  · exact Op.creates_flushPending_iff (hd'.after actions).sound.distinct hflush
  · intro kernel groupSize gridSize e hload hopen
    exact Op.creates_newBinary_iff (hd'.after actions) hload hopen

/-- A breakpoint on line 4 was sent. -/
def lineSent : Debugger :=
  after ⟨Session.ofConfig { Config.standard with pendingCapacity := 4 } Op.twoObjects, .empty,
      Op.publishing [1]⟩
    [.openChannel .onPipe, .notification Op.published, .store ⟨1, .any, .source none 4 none⟩,
      .resolve ⟨1, .any, .source none 4 none⟩]

/-- The next code object brings the disabled breakpoint back. -/
theorem disabled_created_again :
    let d := (Action.disable 1).run lineSent
    Creates 1 d ((Action.notification Op.published).run d) := by
  have hd : lineSent.Reachable := Reachable.after (.start _ _ _ _ rfl) _
  have hok : (Op.disableBreakpoint 1).run lineSent = .ok () ((Action.disable 1).run lineSent) := rfl
  obtain ⟨-, hcontinues⟩ := disabled_created_iff hd hok
  obtain ⟨-, hbinary⟩ := hcontinues [] _ nofun rfl rfl
  refine (hbinary "k" ⟨1, 1, 1⟩ ⟨1, 1, 1⟩ _ rfl rfl).mpr ?_
  exact ⟨⟨1, .any, .source none 4 (some " ")⟩, List.mem_cons_self, rfl, _, rfl⟩

end Debugger

end GpuDebug
