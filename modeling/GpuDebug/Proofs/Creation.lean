import GpuDebug.Proofs.Flushing
import GpuDebug.Proofs.Reload
import Mathlib.Data.List.Perm.Subperm

/-!
# One creation for each reload

While a code object is taken over, a breakpoint can be created in two ways: it is resolved again, or
a request of its number still waits and is flushed. Each of them creates it once at most, and
resolving again drops a request that waits, so it is created once as long as not more than one
request of its number waits. This is so if the host keeps one request for each number.

* `View.Backed`: requests that wait are for the target of the breakpoint that the host stores.
* `Debugger.Orderly`: the runs in which the host keeps one request for each number.
* `Debugger.Orderly.tidy`: requests are backed in such a run, so that one at most waits.
* `Debugger.creations`: how often a breakpoint was created so far.
* `Op.creations_flushPending`, `Op.creations_adjustEach`: the two ways.
* `Debugger.Orderly.created_once`: the main result.
-/

namespace GpuDebug

/-! ## Targets -/

theorem Request.sameTarget_withStatement (r : Request) (statement : String) :
    (r.withStatement statement).sameTarget r = true := by
  unfold withStatement sameTarget
  split
  · next h => simp [h, Location.sameTarget]
  · exact r.sameTarget_self

/-! ## Requests that wait for a stored breakpoint -/

/-- The host stores a breakpoint for the target of the request. -/
def View.Backs (v : View) (r : Request) : Prop :=
  ∃ b, v.stored = some b ∧ b.request.sameTarget r = true

/-- Every request that waits is for the target of the breakpoint that the host stores. -/
def View.Backed (v : View) : Prop :=
  ∀ r ∈ v.waiting, v.Backs r

theorem View.Backed.of_nil {v : View} (h : v.waiting = []) : v.Backed := by
  intro r hr
  rw [h] at hr
  cases hr

/-- The state is sound, and the requests of a number are for the breakpoint of the host. -/
structure Debugger.Tidy (number : Int32) (d : Debugger) : Prop where
  sound : d.Sound
  backed : (d.view number).Backed

namespace Debugger.Tidy

variable {d d' : Debugger} {number : Int32}

/-- Two requests of one target are not both buffered. -/
theorem length_waiting_le_one (h : d.Tidy number) :
    (d.session.pending.waiting number).length ≤ 1 := by
  have hdistinct := h.sound.distinct number
  have hbacked : ∀ r ∈ d.session.pending.waiting number, (d.view number).Backs r := h.backed
  match hw : d.session.pending.waiting number with
  | [] => simp
  | [r] => simp
  | r :: s :: rs =>
    rw [hw] at hdistinct hbacked
    obtain ⟨b, hb, hr⟩ := hbacked r (by simp)
    obtain ⟨c, hc, hs⟩ := hbacked s (by simp)
    cases hb.symm.trans hc
    have hne : r.sameTarget s = false := (List.pairwise_cons.mp hdistinct).1 s (by simp)
    rw [Request.sameTarget_comm] at hr
    rw [Request.sameTarget_trans hr hs] at hne
    cases hne

/-- No request of a number waits for which the host stores no breakpoint. -/
theorem waiting_of_free (h : d.Tidy number) (hfree : d.host.breakpoints.get? number = none) :
    (d.view number).waiting = [] := by
  have hnone : (d.view number).stored = none := by
    rw [view, hfree]
    rfl
  refine List.eq_nil_iff_forall_not_mem.mpr fun s hs => ?_
  obtain ⟨b, hb, -⟩ := h.backed s hs
  rw [hnone] at hb
  cases hb

theorem of_untouched (h : d.Tidy number) (hsound : d.Sound → d'.Sound)
    (hu : Untouched number d d') : d'.Tidy number := by
  refine ⟨hsound h.sound, ?_⟩
  rw [hu.view]
  exact h.backed

end Debugger.Tidy

/-- The requests of the number of `r` are for the breakpoint of the host, and so is `r`. -/
structure Debugger.Upholds (r : Request) (d : Debugger) : Prop where
  backed : (d.view r.number).Backed
  backs : (d.view r.number).Backs r

namespace Debugger.Upholds

variable {d d' : Debugger} {r : Request}

theorem of_view_eq (h : d.Upholds r) (hw : (d'.view r.number).waiting = (d.view r.number).waiting)
    (hs : (d'.view r.number).stored = (d.view r.number).stored) : d'.Upholds r := by
  have hbacks : ∀ s, (d.view r.number).Backs s → (d'.view r.number).Backs s := by
    rintro s ⟨b, hb, hsame⟩
    exact ⟨b, hs.trans hb, hsame⟩
  refine ⟨fun s hmem => ?_, hbacks r h.backs⟩
  rw [hw] at hmem
  exact hbacks s (h.backed s hmem)

/-- Other requests wait: some of those before, and maybe the request itself. -/
theorem withPending (h : d.Upholds r) {pending : Pending}
    (hmem : ∀ s ∈ pending.waiting r.number,
      s ∈ d.session.pending.waiting r.number ∨ s = r) : (d.withPending pending).Upholds r := by
  refine ⟨fun s hs => ?_, h.backs⟩
  rcases hmem s hs with hold | rfl
  · exact h.backed s hold
  · exact h.backs

/-- The host keeps where the request was placed, and its target does not change. -/
theorem sentState {d₀ : Debugger} (h : d.Upholds r) : (d₀.sentState r d).Upholds r := by
  rcases d₀.recorded_cases r d.host with heq | ⟨file, line, statement, p, hr, hp, -⟩
  · refine h.of_view_eq rfl ?_
    rw [Debugger.sentState, heq]
  · obtain ⟨b, hb, hsame⟩ := h.backs
    obtain ⟨c, hc, rfl⟩ := Option.map_eq_some_iff.mp hb
    have hstored : ((d₀.sentState r d).view r.number).stored = some (p.record r c).placing := by
      rw [Debugger.stored_sentState hr hp, if_pos rfl, hc]
      rfl
    have hrecord : (p.record r c).request.sameTarget r = true :=
      r.sameTarget_withStatement p.statement
    have hrb : r.sameTarget c.request = true := by
      rw [Request.sameTarget_comm]
      exact hsame
    refine ⟨fun s hs => ?_, _, hstored, hrecord⟩
    obtain ⟨b, hb', hs'⟩ := h.backed s hs
    cases hb.symm.trans hb'
    have hrs : r.sameTarget s = true := Request.sameTarget_trans hrb hs'
    exact ⟨_, hstored, Request.sameTarget_trans hrecord hrs⟩

end Debugger.Upholds

namespace Op

open Debugger (Tidy Upholds)

variable {number : Int32}

theorem upholds_sendRequest (r : Request) : Preserves (Upholds r) (sendRequest r) := by
  refine respects_sendRequest (fun d d' hl hd => ?_) (fun c _ _ d hd => ?_) fun _ _ _ hd =>
    hd.sentState
  · have hu := hl.quiet.untouched r.number
    exact hd.of_view_eq (congrArg View.waiting hu.view) (congrArg View.stored hu.view)
  · obtain ⟨hpending, hhost⟩ := send_keeps c d
    refine hd.of_view_eq ?_ ?_
    · rw [Debugger.view, hpending]
      rfl
    · rw [Debugger.view, hhost]
      rfl

theorem upholds_buffer (r : Request) : Preserves (Upholds r) (buffer r) := by
  intro d hd
  rcases buffer_final r d with h | ⟨slot, pending, hp, h⟩
  · rw [h]
    exact hd
  · rw [h]
    refine hd.withPending fun s hs => ?_
    rcases (Pending.waiting_push hp).2 with ⟨rfl, -⟩ | ⟨-, hperm⟩
    · exact .inl hs
    · rcases List.mem_append.mp (hperm.mem_iff.mp hs) with hs | hs
      · unfold Pending.occupant at hs
        split at hs
        · cases hs
        · exact .inr (List.mem_singleton.mp hs)
      · exact .inl hs

theorem tidy_flushSlot (slot : Nat) : Preserves (Tidy number) (flushSlot slot) := by
  intro d hd
  have hsound : d.Sound → ((flushSlot slot).final d).Sound := carried_sound.flushSlot slot d
  cases hget : d.session.pending.get? slot with
  | none =>
    rw [flushSlot_final_free hget]
    exact hd
  | some r =>
    by_cases hn : r.number = number
    · subst hn
      have hmem : r ∈ d.session.pending.waiting r.number :=
        (Pending.waiting_take hget).2.mem_iff.mpr List.mem_cons_self
      have hupholds : ((flushSlot slot).final d).Upholds r := by
        have hstep : Upholds r d → Upholds r ((flushSlot slot).final d) := by
          refine flushSlot_related (R := fun d d' => Upholds r d → Upholds r d') fun r' hget' => ?_
          cases hget.symm.trans hget'
          refine ⟨fun hd => hd.withPending fun s hs => .inl ?_, upholds_sendRequest r,
            upholds_buffer r⟩
          exact (Pending.waiting_take hget).2.mem_iff.mpr (List.mem_cons_of_mem r hs)
        exact hstep ⟨hd.backed, hd.backed r hmem⟩
      exact ⟨hsound hd.sound, hupholds.backed⟩
    · refine hd.of_untouched hsound (untouched_flushSlot fun r' hget' => ?_)
      cases hget.symm.trans hget'
      exact hn

theorem tidy_adjust (n : Int32) : Preserves (Tidy number) (adjust n) := by
  intro d hd
  have hsound : d.Sound → ((adjust n).final d).Sound := carried_sound.adjust n d
  by_cases hn : n = number
  · subst hn
    refine ⟨hsound hd.sound, ?_⟩
    cases hplaced : (d.host.breakpoints.get? n).bind placedRequest? with
    | none =>
      rw [final_of_ok (run_adjust_unplaced hplaced)]
      exact hd.backed
    | some r =>
      obtain ⟨b, hb, hr⟩ := Option.bind_eq_some_iff.mp hplaced
      obtain ⟨rfl, -, -⟩ := placedRequest?_eq_some hr
      have hstored := Debugger.stored_of_get? hb
      have hnumber : b.request.number = n := hd.sound.number_of_get? hb
      subst hnumber
      have hstep : Upholds b.request d → Upholds b.request ((adjust b.request.number).final d) := by
        refine adjust_related (R := fun d d' => Upholds b.request d → Upholds b.request d') ?_
        intro r' hplaced'
        cases hplaced.symm.trans hplaced'
        refine ⟨fun hd => hd.withPending fun s hs => .inl ?_, upholds_sendRequest _,
          upholds_buffer _⟩
        rw [Pending.waiting_remove, if_pos rfl] at hs
        exact List.mem_of_mem_tail hs
      exact (hstep ⟨hd.backed, _, hstored, b.request.sameTarget_self⟩).backed
  · refine hd.of_untouched hsound (untouched_adjust fun b hb _ => ⟨hn, ?_⟩)
    rw [hd.sound.number_of_get? hb]
    exact hn

theorem carried_tidy (number : Int32) : Carried fun d d' => Tidy number d → Tidy number d' where
  quiet _ _ hq hd := hd.of_untouched (fun hs => hs.of_quiet hq) (hq.untouched number)
  flushSlot := tidy_flushSlot
  adjust := tidy_adjust

end Op

/-! ## Runs in which the host keeps one request for each number -/

namespace Debugger

/-- The runs in which the host keeps one request for each number: what is resolved is the stored
request of a number, and a stored request is replaced or removed only together with deleting its
breakpoint, before or after. Everything else that the session can do, and what happens outside,
comes in between. -/
inductive Orderly : Debugger → Prop
  | start (config : Config) (reader : ImageReader) (host : Host) (world : World)
      (h : host.breakpoints = .empty) : Orderly ⟨Session.ofConfig config reader, host, world⟩
  | store {d : Debugger} (r : Request) (h : Orderly d)
      (hfree : d.host.breakpoints.get? r.number = none) : Orderly ((Action.store r).run d)
  | resolve {d : Debugger} {b : Breakpoint} (number : Int32) (h : Orderly d)
      (hb : d.host.breakpoints.get? number = some b) : Orderly ((Action.resolve b.request).run d)
  | replace {d : Debugger} {actions : List Action} (r : Request) (h : Orderly d)
      (hactions : actions = [.store r, .delete r.number] ∨
        actions = [.delete r.number, .store r]) : Orderly (d.after actions)
  | remove {d : Debugger} {actions : List Action} (number : Int32) (h : Orderly d)
      (hactions : actions = [.discard number, .delete number] ∨
        actions = [.delete number, .discard number]) : Orderly (d.after actions)
  | delete {d : Debugger} (number : Int32) (h : Orderly d) :
      Orderly ((Action.delete number).run d)
  | other {d : Debugger} {a : Action} (h : Orderly d) (ha : a.isSpecial = false) :
      Orderly (a.run d)
  | outside {d : Debugger} (host : Host) (world : World) (h : Orderly d) :
      Orderly ((Action.outside host world).run d)

namespace Orderly

variable {d : Debugger} {number : Int32}

theorem reachable (h : d.Orderly) : d.Reachable := by
  induction h with
  | start config reader host world h => exact .start config reader host world h
  | store r h hfree ih => exact ih.step (.store r)
  | resolve number h hb ih => exact ih.step (.resolve _)
  | replace r h hactions ih => exact ih.after _
  | remove number h hactions ih => exact ih.after _
  | delete number h ih => exact ih.step (.delete number)
  | other h ha ih => exact ih.step _
  | outside host world h ih => exact ih.step (.outside host world)

/-- Deleting a breakpoint drops the request that waits, so that none does. -/
theorem waiting_delete (h : (d.view number).waiting.length ≤ 1) :
    (((Action.delete number).run d).view number).waiting = [] := by
  have hwaiting : (((Action.delete number).run d).view number).waiting =
      (d.view number).waiting.tail := (Op.view_deleteBreakpoint number d).1
  apply List.eq_nil_of_length_eq_zero
  rw [hwaiting, List.length_tail]
  omega

/-- A breakpoint is deleted, and before or after that the host changes what it stores. -/
theorem backed_change {a : Action} {n : Int32} {actions : List Action}
    (hactions : actions = [a, .delete n] ∨ actions = [.delete n, a])
    (hown : ∀ d : Debugger, ((a.run d).view n).waiting = (d.view n).waiting)
    (hother : ∀ d : Debugger, n ≠ number → (a.run d).view number = d.view number)
    (h : d.Tidy number) : ((d.after actions).view number).Backed := by
  by_cases hn : n = number
  · subst hn
    have hlength : (d.view n).waiting.length ≤ 1 := h.length_waiting_le_one
    apply View.Backed.of_nil
    rcases hactions with rfl | rfl
    · show (((Action.delete n).run (a.run d)).view n).waiting = []
      apply waiting_delete
      rw [hown]
      exact hlength
    · show ((a.run ((Action.delete n).run d)).view n).waiting = []
      rw [hown]
      exact waiting_delete hlength
  · have hdelete : ∀ d : Debugger, ((Action.delete n).run d).view number = d.view number := fun _ =>
      (untouched_delete hn).view
    have hview : (d.after actions).view number = d.view number := by
      rcases hactions with rfl | rfl
      · show ((Action.delete n).run (a.run d)).view number = d.view number
        rw [hdelete, hother d hn]
      · show (a.run ((Action.delete n).run d)).view number = d.view number
        rw [hother _ hn, hdelete]
    rw [hview]
    exact h.backed

/-- A breakpoint is stored under a number that is free; no request of the number waits then. -/
theorem backed_store {r : Request} (hfree : d.host.breakpoints.get? r.number = none)
    (h : d.Tidy number) : (((Action.store r).run d).view number).Backed := by
  by_cases hn : r.number = number
  · subst hn
    exact .of_nil (h.waiting_of_free hfree)
  · rw [(untouched_store hn).view]
    exact h.backed

theorem backed_resolve {n : Int32} {b : Breakpoint} (hb : d.host.breakpoints.get? n = some b)
    (h : d.Tidy number) : (((Action.resolve b.request).run d).view number).Backed := by
  by_cases hn : b.request.number = number
  · subst hn
    have hnumber := h.sound.number_of_get? hb
    subst hnumber
    have hbacks : (d.view b.request.number).Backs b.request :=
      ⟨_, stored_of_get? hb, b.request.sameTarget_self⟩
    have hupholds : Op.Preserves (Upholds b.request) (Op.resolve b.request) :=
      Op.respects_resolve (Op.upholds_sendRequest _) (Op.upholds_buffer _)
    exact (hupholds d ⟨h.backed, hbacks⟩).backed
  · rw [(untouched_resolve hn).view]
    exact h.backed

/-- **Requests that wait are for the breakpoints of the host** as long as the host keeps one request
for each number. -/
theorem tidy (h : d.Orderly) (number : Int32) : d.Tidy number := by
  have tidy_of : ∀ {d : Debugger}, d.Orderly → (d.view number).Backed → d.Tidy number :=
    fun h hbacked => ⟨h.reachable.sound, hbacked⟩
  refine tidy_of h ?_
  induction h with
  | start config reader host world h =>
    apply View.Backed.of_nil
    show (Pending.ofCapacity config.pendingCapacity).waiting number = []
    rw [Pending.waiting, Pending.requests_ofCapacity, List.filter_nil]
  | store r h hfree ih => exact backed_store hfree (tidy_of h ih)
  | resolve n h hb ih => exact backed_resolve hb (tidy_of h ih)
  | replace r h hactions ih =>
    refine backed_change hactions (fun _ => rfl) (fun d hn => ?_) (tidy_of h ih)
    exact (untouched_store hn).view
  | remove n h hactions ih =>
    refine backed_change hactions (fun _ => rfl) (fun d hn => ?_) (tidy_of h ih)
    exact (untouched_discard hn).view
  | @delete d n h ih =>
    by_cases hn : n = number
    · subst hn
      exact .of_nil (waiting_delete (tidy_of h ih).length_waiting_le_one)
    · rw [(untouched_delete hn).view]
      exact ih
  | other h ha ih => exact ((Op.carried_tidy number).run ha _ (tidy_of h ih)).backed
  | outside host world h ih => exact ih

end Orderly

/-! ## Creations -/

/-- How often the breakpoint of a number was created so far. A command that was cut short or refused
does not count. -/
def creations (d : Debugger) (number : Int32) : Nat :=
  d.world.transmissions.countP fun t => t.creates number && t.isComplete

theorem Untouched.creations {d d' : Debugger} {number : Int32} (h : Untouched number d d') :
    d'.creations number = d.creations number := by
  obtain ⟨later, hlog, hlater⟩ := h.later
  have hnone : (later.countP fun t => t.creates number && t.isComplete) = 0 := by
    rw [List.countP_eq_zero]
    intro t ht hcreates
    have hconcerns := Transmission.concerns_of_creates (Bool.and_eq_true_iff.mp hcreates).1
    rw [hlater t ht] at hconcerns
    cases hconcerns
  simp [Debugger.creations, hlog, hnone]

end Debugger

namespace Op

open Debugger (Tidy)

variable {d : Debugger} {number : Int32}

/-- A request that is handed over creates its breakpoint once at most. -/
theorem creations_sendRequest (r : Request) (d : Debugger) (number : Int32) :
    ((sendRequest r).final d).creations number ≤ d.creations number + 1 := by
  unfold Debugger.creations
  rcases sendRequest_attempt r d with ⟨hlog, -⟩ | ⟨t, hlog, -⟩
  · rw [hlog]
    omega
  · rw [hlog, List.countP_append]
    have hone := List.countP_le_length (p := fun t => t.creates number && t.isComplete) (l := [t])
    simp only [List.length_singleton] at hone
    omega

/-- A flush creates a breakpoint as often as requests of its number wait, at most. -/
theorem creations_flushPending (hd : d.session.pending.Distinct) (number : Int32) :
    (flushPending.final d).creations number ≤
      d.creations number + (d.session.pending.waiting number).length := by
  rw [flushPending_final]
  obtain ⟨attempts, hflushed⟩ :=
    flushSlots_flushed (d.session.pending.readySlots d.session.readyFor) hd
  have hown : ∀ a ∈ attempts, a.transmission.creates number = true → a.request.number = number := by
    intro a ha hcreates
    obtain ⟨-, hcommand⟩ := hflushed.attempted a ha
    rw [← (Debugger.command?_creates hcommand).2]
    simpa using (Bool.and_eq_true_iff.mp hcreates).2
  have hcount : (attempts.map (·.transmission)).countP (fun t => t.creates number && t.isComplete) ≤
      ((attempts.filter (·.request.number == number)).map (·.request)).length := by
    rw [List.countP_map, List.length_map, ← List.countP_eq_length_filter]
    refine List.countP_mono_left fun a ha hcreates => ?_
    simpa using hown a ha (Bool.and_eq_true_iff.mp hcreates).1
  have hlength : ((attempts.filter (·.request.number == number)).map (·.request)).length ≤
      (d.session.pending.waiting number).length := by
    have hnodup : ((attempts.filter (·.request.number == number)).map (·.request)).Nodup :=
      hflushed.nodup.sublist (List.filter_sublist.map _)
    refine (List.Nodup.subperm hnodup fun r hr => ?_).length_le
    obtain ⟨a, ha, rfl⟩ := List.mem_map.mp hr
    obtain ⟨hmem, hn⟩ := List.mem_filter.mp ha
    exact Pending.mem_waiting.mpr ⟨(hflushed.attempted a hmem).1, by simpa using hn⟩
  unfold Debugger.creations
  rw [hflushed.log, List.countP_append]
  omega

/-- A breakpoint that is resolved again is created once, or its request waits. -/
theorem creations_adjust (h : d.Tidy number) :
    ((adjust number).final d).creations number +
        (((adjust number).final d).session.pending.waiting number).length ≤
      d.creations number + 1 := by
  have hlength := h.length_waiting_le_one
  cases hplaced : (d.host.breakpoints.get? number).bind placedRequest? with
  | none =>
    rw [final_of_ok (run_adjust_unplaced hplaced)]
    omega
  | some r =>
    obtain ⟨b, hb, hr⟩ := Option.bind_eq_some_iff.mp hplaced
    obtain ⟨rfl, -, -⟩ := placedRequest?_eq_some hr
    have hnumber := h.sound.number_of_get? hb
    subst hnumber
    have hfree : (forgetting d b.request.number).session.pending.waiting b.request.number = [] := by
      apply List.eq_nil_of_length_eq_zero
      show ((d.session.pending.remove b.request.number).2.waiting b.request.number).length = 0
      rw [Pending.waiting_remove, if_pos rfl, List.length_tail]
      omega
    have hcreations : (forgetting d b.request.number).creations b.request.number =
        d.creations b.request.number := rfl
    rw [adjust_final hplaced, resolve_final]
    split
    · have hsend := creations_sendRequest b.request (forgetting d b.request.number)
        b.request.number
      rw [pending_sendRequest, hfree, List.length_nil]
      omega
    · have hlog : ((buffer b.request).final (forgetting d b.request.number)).creations
          b.request.number = d.creations b.request.number := by
        rcases buffer_final b.request (forgetting d b.request.number) with hf | ⟨_, _, -, hf⟩
        · rw [hf, hcreations]
        · rw [hf]
          rfl
      have hwaiting := waiting_buffer hfree
      rw [hlog]
      rcases hwaiting with hw | hw
      · simp [hw]
      · simp [hw]

theorem untouched_adjust_other {n : Int32} (hd : d.Sound) (hn : n ≠ number) :
    Debugger.Untouched number d ((adjust n).final d) := by
  refine untouched_adjust fun b hb _ => ⟨hn, ?_⟩
  rw [hd.number_of_get? hb]
  exact hn

theorem untouched_adjustEach {numbers : List Int32} (hd : d.Sound) (hn : number ∉ numbers) :
    Debugger.Untouched number d ((adjustEach numbers).final d) := by
  induction numbers generalizing d with
  | nil => exact refl_of _ d
  | cons n ns ih =>
    rw [List.mem_cons, not_or] at hn
    obtain ⟨hne, hns⟩ := hn
    have hfirst := untouched_adjust_other hd (Ne.symm hne)
    have hsound := carried_sound.adjust n d hd
    rw [adjustEach_final_cons]
    cases hrun : (adjust n).run d with
    | error e d₁ =>
      rw [final_of_error hrun] at hfirst
      exact hfirst
    | ok adjusted d₁ =>
      rw [final_of_ok hrun] at hfirst hsound
      exact trans_of _ hfirst (ih hsound hns)

/-- Breakpoints that are resolved again, each of them once. -/
theorem creations_adjustEach {numbers : List Int32} (hnodup : numbers.Nodup)
    (h : d.Tidy number) :
    ((adjustEach numbers).final d).creations number +
        (((adjustEach numbers).final d).session.pending.waiting number).length ≤
      d.creations number + 1 := by
  have hlength := h.length_waiting_le_one
  induction numbers generalizing d with
  | nil =>
    show d.creations number + (d.session.pending.waiting number).length ≤ _
    omega
  | cons n ns ih =>
    obtain ⟨hn, hns⟩ := List.nodup_cons.mp hnodup
    have htidy := tidy_adjust n d h
    rw [adjustEach_final_cons]
    by_cases heq : n = number
    · subst heq
      have hown := creations_adjust h
      cases hrun : (adjust n).run d with
      | error e d₁ =>
        rw [final_of_error hrun] at hown
        exact hown
      | ok adjusted d₁ =>
        rw [final_of_ok hrun] at hown htidy
        have hrest := untouched_adjustEach htidy.sound hn
        dsimp only
        rw [hrest.creations, hrest.waiting]
        exact hown
    · have hother := untouched_adjust_other h.sound heq
      cases hrun : (adjust n).run d with
      | error e d₁ =>
        rw [final_of_error hrun] at hother
        dsimp only
        rw [hother.creations, hother.waiting]
        omega
      | ok adjusted d₁ =>
        rw [final_of_ok hrun] at hother htidy
        rw [← hother.creations]
        exact ih hns htidy htidy.length_waiting_le_one

/-- Taking over a code object creates a breakpoint once at most: it is resolved again and created,
or a request of it waits and is flushed. -/
theorem creations_onNewBinary (launch : Launch) (h : d.Tidy number)
    (hascending : d.host.breakpoints.Ascending) :
    ((onNewBinary launch).final d).creations number ≤ d.creations number + 1 := by
  have hquiet := quiet_prepare launch d
  have htidy : ((prepare launch).final d).Tidy number :=
    h.of_untouched (fun hs => hs.of_quiet hquiet) (hquiet.untouched number)
  have hnodup : ((prepare launch).final d).host.breakpoints.numbers.Nodup := by
    rw [hquiet.numbers]
    exact hascending.nodup
  have hadjust := creations_adjustEach hnodup htidy
  rw [← adjustAll_final, (hquiet.untouched number).creations] at hadjust
  have hadjusted : (adjustAll.final ((prepare launch).final d)).Tidy number :=
    respects_adjustAll (carried_tidy number).adjust _ htidy
  rw [onNewBinary_final]
  cases hrun : adjustAll.run ((prepare launch).final d) with
  | error e d₁ =>
    rw [final_of_error hrun] at hadjust
    dsimp only
    omega
  | ok adjusted d₁ =>
    rw [final_of_ok hrun] at hadjust hadjusted
    have hflush := creations_flushPending hadjusted.sound.distinct number
    dsimp only
    omega

theorem creations_quiet {α : Type} {op : Op α} (hop : Quiet op) (d : Debugger) :
    (op.final d).creations number ≤ d.creations number + 1 := by
  rw [((hop d).untouched number).creations]
  omega

theorem creations_dispatchNotification (n : Notification) (h : d.Tidy number)
    (hascending : d.host.breakpoints.Ascending) :
    ((dispatchNotification n).final d).creations number ≤ d.creations number + 1 := by
  by_cases hn : ∃ kernel groupSize gridSize, n = .newBinary kernel groupSize gridSize
  · obtain ⟨kernel, groupSize, gridSize, rfl⟩ := hn
    exact creations_onNewBinary ⟨kernel, groupSize, gridSize⟩ h hascending
  · refine creations_quiet (quiet_dispatchNotification fun kernel groupSize gridSize heq => ?_) d
    exact hn ⟨kernel, groupSize, gridSize, heq⟩

theorem creations_handleEvent (h : d.Tidy number) (hascending : d.host.breakpoints.Ascending) :
    (handleEvent.final d).creations number ≤ d.creations number + 1 := by
  unfold handleEvent
  rw [final_bind_of_ok (run_session d)]
  cases hinbox : d.session.inbox with
  | none => exact creations_quiet (.pure Poll.idle) d
  | some inbox =>
    have hquiet := (calm_pollInbox inbox d).quiet
    dsimp only
    cases hpoll : (pollInbox inbox).run d with
    | error e d₁ =>
      rw [final_of_error (bind_of_error hpoll), ← final_of_error hpoll]
      exact creations_quiet (calm_pollInbox inbox).quiet d
    | ok outcome d₁ =>
      rw [final_of_ok hpoll] at hquiet
      have htidy : d₁.Tidy number :=
        h.of_untouched (fun hs => hs.of_quiet hquiet) (hquiet.untouched number)
      rw [final_bind_of_ok hpoll, ← (hquiet.untouched number).creations]
      cases outcome with
      | idle => exact Nat.le_succ (d₁.creations number)
      | short count => exact creations_quiet (.bind (calm_notify _).quiet fun _ => .pure _) d₁
      | packet n =>
        dsimp only
        rw [final_bind_of_final_eq fun _ _ => rfl]
        exact creations_dispatchNotification n htidy
          (Debugger.Ordered.of_numbers_eq hascending hquiet.numbers)

theorem carried_advances : Carried Debugger.Advances where
  quiet _ _ hq := (hq.untouched 0).toAdvances
  flushSlot := advances_flushSlot
  adjust := advances_adjust

end Op

namespace Debugger.Orderly

/-- **A breakpoint is created once at most while a notification is handled**, if the host keeps one
request for each number. This is so for a notification that is given and for one that is read, for
that of a new code object too, and whatever became of code objects before. -/
theorem created_once {d : Debugger} (h : d.Orderly) {a : Action}
    (ha : a = .event ∨ ∃ n, a = .notification n) (number : Int32) :
    ∃ later, (a.run d).world.transmissions = d.world.transmissions ++ later ∧
      (later.countP fun t => t.creates number && t.isComplete) ≤ 1 := by
  have hsteps : Advances d (a.run d) ∧ (a.run d).creations number ≤ d.creations number + 1 := by
    rcases ha with rfl | ⟨n, rfl⟩
    · exact ⟨Op.carried_advances.handleEvent d,
        Op.creations_handleEvent (h.tidy number) h.reachable.ascending⟩
    · exact ⟨Op.carried_advances.dispatchNotification n d,
        Op.creations_dispatchNotification n (h.tidy number) h.reachable.ascending⟩
  obtain ⟨hadvances, hcreations⟩ := hsteps
  obtain ⟨later, hlater⟩ := hadvances.log
  refine ⟨later, hlater.symm, ?_⟩
  unfold creations at hcreations
  rw [← hlater, List.countP_append] at hcreations
  omega

end Debugger.Orderly

namespace Debugger

/-! ## A reload after one that failed -/

/-- Reads one code object, with code for line 4 only. -/
def oneObject : ImageReader := fun image _ =>
  if image = [1] then .ok ⟨[⟨256, 4, none⟩], none⟩ else .error .noDebugInfo

/-- A breakpoint on line 4 was sent. -/
def placed : Debugger :=
  Debugger.after ⟨Session.ofConfig { Config.standard with pendingCapacity := 4 } oneObject, .empty,
      Op.publishing [1]⟩
    [.openChannel .onPipe, .notification Op.published, .store ⟨1, .any, .source none 4 none⟩,
      .resolve ⟨1, .any, .source none 4 none⟩]

/-- The request of the breakpoint was buffered when a code object without debug information came,
and the first code object is published again. -/
def recovering : Debugger :=
  placed.after [.outside .empty (Op.publishing [2]), .notification Op.published,
    .outside .empty (Op.publishing [1])]

theorem orderly_placed : placed.Orderly := by
  have hstart := Orderly.start { Config.standard with pendingCapacity := 4 } oneObject .empty
    (Op.publishing [1]) rfl
  have hloaded := (hstart.other (a := .openChannel .onPipe) rfl).other
    (a := .notification Op.published) rfl
  have hstored := hloaded.store ⟨1, .any, .source none 4 none⟩ rfl
  exact hstored.resolve 1 (b := .ofRequest ⟨1, .any, .source none 4 none⟩) rfl

theorem orderly_recovering : recovering.Orderly := by
  have hfailed := (orderly_placed.outside .empty (Op.publishing [2])).other
    (a := .notification Op.published) rfl
  unfold recovering after
  simp only [List.foldl_cons, List.foldl_nil]
  exact hfailed.outside .empty (Op.publishing [1])

/-- The breakpoint is created once more, although a request of it waits. -/
theorem created_once_after_failure :
    recovering.session.pending.waiting 1 = [⟨1, .any, .source none 4 (some " ")⟩] ∧
    ∃ later, ((Action.notification Op.published).run recovering).world.transmissions =
        recovering.world.transmissions ++ later ∧
      (later.countP fun t => t.creates 1 && t.isComplete) = 1 := by
  have hbefore : recovering.creations 1 = 1 := by decide +kernel
  have hafter : ((Action.notification Op.published).run recovering).creations 1 = 2 := by
    decide +kernel
  obtain ⟨later, hlater, hcount⟩ := orderly_recovering.created_once (.inr ⟨Op.published, rfl⟩) 1
  refine ⟨by decide +kernel, later, hlater, Nat.le_antisymm hcount ?_⟩
  unfold creations at hbefore hafter
  rw [hlater, List.countP_append] at hafter
  omega

end Debugger

end GpuDebug
