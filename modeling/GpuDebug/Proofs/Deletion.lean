import GpuDebug.Proofs.Course

/-!
# Deleted breakpoints

Deleting a breakpoint drops the first request that waits under its number, and one number may have
several that wait, for different targets. A deleted breakpoint therefore stays deleted exactly if
no more than one request waited.

* `Debugger.Gone`: no request of a number waits, and no stored breakpoint of it was placed.
* `Debugger.Barren`: a step that keeps a number gone and writes no command that creates its
  breakpoint. Every action that does not ask for the breakpoint is such a step.
* `Debugger.deleted_stays_deleted_iff`: the main result.
-/

namespace GpuDebug

namespace Debugger

/-- No request of the number waits, and no stored breakpoint of it was placed in a code object. -/
structure Gone (number : Int32) (d : Debugger) : Prop where
  waiting : (d.view number).waiting = []
  unplaced : ∀ b, (d.view number).stored = some b → b.codeAddress = none

/-- None of the commands written by the step creates the breakpoint of the number. -/
def Uncreating (number : Int32) (d d' : Debugger) : Prop :=
  ∃ later, d'.world.transmissions = d.world.transmissions ++ later ∧
    ∀ t ∈ later, t.creates number = false

/-- The step keeps a number gone, and writes no command that creates its breakpoint. -/
def Barren (number : Int32) (d d' : Debugger) : Prop :=
  d.Sound → d.Gone number → d'.Sound ∧ d'.Gone number ∧ Uncreating number d d'

variable {number : Int32} {d d' : Debugger}

theorem Uncreating.of_log_eq (h : d'.world.transmissions = d.world.transmissions) :
    Uncreating number d d' :=
  ⟨[], by rw [h, List.append_nil], fun _ ht => absurd ht List.not_mem_nil⟩

theorem Uncreating.trans {d'' : Debugger} (h : Uncreating number d d')
    (h' : Uncreating number d' d'') : Uncreating number d d'' := by
  obtain ⟨later, hlog, hlater⟩ := h
  obtain ⟨later', hlog', hlater'⟩ := h'
  refine ⟨later ++ later', by rw [hlog', hlog, List.append_assoc], fun t ht => ?_⟩
  rcases List.mem_append.mp ht with ht | ht
  · exact hlater t ht
  · exact hlater' t ht

instance : IsPreorder Debugger (Barren number) where
  refl d hs hg := ⟨hs, hg, .of_log_eq rfl⟩
  trans d d' d'' h h' hs hg := by
    obtain ⟨hs', hg', huncreating⟩ := h hs hg
    obtain ⟨hs'', hg'', huncreating'⟩ := h' hs' hg'
    exact ⟨hs'', hg'', huncreating.trans huncreating'⟩

theorem Untouched.uncreating (h : Untouched number d d') : Uncreating number d d' := by
  obtain ⟨later, hlog, hlater⟩ := h.later
  refine ⟨later, hlog, fun t ht => Bool.eq_false_iff.mpr fun hc => ?_⟩
  exact Bool.eq_false_iff.mp (hlater t ht) (Transmission.concerns_of_creates hc)

theorem Untouched.gone (h : Untouched number d d') (hg : d.Gone number) : d'.Gone number where
  waiting := h.view ▸ hg.waiting
  unplaced := h.view ▸ hg.unplaced

/-- A step that does not touch the number is barren, if it keeps the invariant. -/
theorem Untouched.barren (hsound : d.Sound → d'.Sound)
    (h : d.Sound → d.Gone number → Untouched number d d') : Barren number d d' :=
  fun hs hg => ⟨hsound hs, (h hs hg).gone hg, (h hs hg).uncreating⟩

end Debugger

namespace Op

open Debugger (Barren Gone Untouched)

variable {number : Int32}

/-- Sending a command that creates no breakpoint. -/
theorem barren_send {c : Command} (hc : c.tag ≠ .createBreakpoint) :
    Respects (Barren number) (send c) := by
  intro d hs hg
  obtain ⟨hpending, hhost⟩ := send_keeps c d
  refine ⟨sound_send c d hs, ⟨?_, ?_⟩, ?_⟩
  · rw [Debugger.view, hpending]
    exact hg.waiting
  · rw [Debugger.view, hhost]
    exact hg.unplaced
  · rcases send_final c d with h | ⟨-, h | ⟨t, htc, h⟩⟩
    · exact .of_log_eq (by rw [h])
    · exact .of_log_eq (by rw [h]; rfl)
    · refine ⟨[t], h.log, fun t' ht' => ?_⟩
      cases List.mem_singleton.mp ht'
      simp [Transmission.creates, htc, hc]

/-- Dropping a request that waits. -/
theorem barren_removePending (n : Int32) : Respects (Barren number) (removePending n) := by
  intro d hs hg
  refine ⟨hs.withPending (hs.distinct.remove n), ⟨?_, hg.unplaced⟩, .of_log_eq rfl⟩
  have hwaiting : d.session.pending.waiting number = [] := hg.waiting
  change (d.session.pending.remove n).2.waiting number = []
  rw [Pending.waiting_remove, hwaiting]
  split <;> rfl

theorem barren_deleteBreakpoint (n : Int32) : Respects (Barren number) (deleteBreakpoint n) :=
  .bind (barren_removePending n) fun _ => .bind .session fun _ =>
    .ite (barren_send nofun) (.pure _)

/-- Flushing meets no request of a number that is gone, and its breakpoint is not resolved again. -/
theorem carried_barren (number : Int32) : Carried (Barren number) where
  quiet d d' hq := Untouched.barren (fun hs => hs.of_quiet hq) fun _ _ => hq.untouched number
  flushSlot slot d := by
    refine Untouched.barren (carried_sound.flushSlot slot d) fun _ hg => ?_
    refine untouched_flushSlot fun r hget hn => ?_
    have hr : r ∈ d.session.pending.waiting number := by
      rw [← hn]
      exact (Pending.waiting_take hget).2.mem_iff.mpr List.mem_cons_self
    rw [show d.session.pending.waiting number = [] from hg.waiting] at hr
    cases hr
  adjust n d := by
    refine Untouched.barren (carried_sound.adjust n d) fun hs hg => ?_
    refine untouched_adjust fun b hb haddress => ?_
    have hstored := Debugger.stored_of_get? hb
    have hne : n ≠ number := by
      rintro rfl
      rw [show b.codeAddress = none from hg.unplaced b.placing hstored] at haddress
      cases haddress
    exact ⟨hne, fun hn => hne ((hs.keyed n _ hstored).symm.trans hn)⟩

end Op

namespace Debugger

variable {number : Int32} {d d' : Debugger}

/-- Every action that does not ask for the breakpoint of a number is barren. -/
theorem barren_run {a : Action} (ha : a.resolves number = false) : Barren number d (a.run d) := by
  cases hspecial : a.isSpecial with
  | false => exact (Op.carried_barren number).run hspecial d
  | true =>
    intro hs hg
    refine ⟨hs.run a, ?_⟩
    cases a with
    | resolve r =>
      have h : Untouched number d ((Action.resolve r).run d) :=
        untouched_resolve (by simpa [Action.resolves] using ha)
      exact ⟨h.gone hg, h.uncreating⟩
    | delete n => exact (Op.barren_deleteBreakpoint n d hs hg).2
    | store r =>
      refine ⟨⟨hg.waiting, fun b hb => ?_⟩, .of_log_eq rfl⟩
      change ((d.host.add r).breakpoints.get? number).map Breakpoint.placing = some b at hb
      rw [Host.get?_add] at hb
      split at hb
      · cases hb
        rfl
      · exact hg.unplaced b hb
    | discard n =>
      refine ⟨⟨hg.waiting, fun b hb => ?_⟩, .of_log_eq rfl⟩
      change ((d.host.breakpoints.erase n).get? number).map Breakpoint.placing = some b at hb
      rw [BreakpointTable.get?_erase] at hb
      split at hb
      · cases hb
      · exact hg.unplaced b hb
    | outside h w => exact ⟨⟨hg.waiting, hg.unplaced⟩, .of_log_eq rfl⟩
    | _ => cases hspecial

theorem barren_after {actions : List Action} (h : ∀ a ∈ actions, a.resolves number = false) :
    Barren number d (d.after actions) := by
  induction actions generalizing d with
  | nil => exact refl_of _ d
  | cons a actions ih =>
    have hfirst : Barren number d (a.run d) := barren_run (h a List.mem_cons_self)
    exact trans_of _ hfirst (ih fun a' ha' => h a' (List.mem_cons_of_mem a ha'))

/-- **A breakpoint that was removed and deleted leaves nothing behind, and is never created again
before it is asked for again, exactly if no more than one request waited for it.** -/
theorem deleted_stays_deleted_iff (hd : d.Reachable)
    (hok : (Op.deleteBreakpoint number).run ((Action.discard number).run d) = .ok () d') :
    ((∀ r ∈ d'.session.pending.requests, r.number ≠ number) ∧
      ∀ actions : List Action, (∀ a ∈ actions, a.resolves number = false) →
        ∃ later, (d'.after actions).world.transmissions = d'.world.transmissions ++ later ∧
          ∀ t ∈ later, t.creates number = false) ↔
    (d.session.pending.waiting number).length ≤ 1 := by
  have hd' : (Action.delete number).run ((Action.discard number).run d) = d' := Op.final_of_ok hok
  have hsound : d'.Sound := hd' ▸ ((hd.step (.discard number)).step (.delete number)).sound
  obtain ⟨hwaiting, hstored⟩ := Op.view_deleteBreakpoint number ((Action.discard number).run d)
  rw [Op.final_of_ok hok] at hwaiting hstored
  have hwaiting : d'.session.pending.waiting number = (d.session.pending.waiting number).tail :=
    hwaiting
  have hnone : (d'.view number).stored = none := by
    rw [hstored]
    change ((d.host.breakpoints.erase number).get? number).map Breakpoint.placing = none
    rw [BreakpointTable.get?_erase, if_pos rfl, Option.map_none]
  constructor
  · rintro ⟨hnot, -⟩
    have hnil : d'.session.pending.waiting number = [] :=
      List.filter_eq_nil_iff.mpr fun r hr heq => hnot r hr (beq_iff_eq.mp heq)
    have hlength := congrArg List.length (hwaiting.symm.trans hnil)
    rw [List.length_tail, List.length_nil] at hlength
    omega
  · intro hlength
    have hnil : d'.session.pending.waiting number = [] := by
      rw [hwaiting]
      exact List.eq_nil_of_length_eq_zero (by rw [List.length_tail]; omega)
    have hgone : d'.Gone number := ⟨hnil, fun b hb => by rw [hnone] at hb; cases hb⟩
    refine ⟨fun r hr hn => ?_, fun actions hactions => ?_⟩
    · have hmem : r ∈ d'.session.pending.waiting number := Pending.mem_waiting.mpr ⟨hr, hn⟩
      rw [hnil] at hmem
      cases hmem
    · exact (barren_after hactions hsound hgone).2.2

/-- A breakpoint that was asked for twice before the channel was opened, on two kernels. -/
def askedTwice : Debugger :=
  fresh.after [.resolve ⟨1, .any, .kernel "a"⟩, .resolve ⟨1, .any, .kernel "b"⟩]

/-- The second request of a breakpoint survives its deletion. -/
theorem asked_twice_survives :
    ¬ ((∀ r ∈ ((Action.delete 1).run ((Action.discard 1).run askedTwice)).session.pending.requests,
        r.number ≠ 1) ∧
      ∀ actions : List Action, (∀ a ∈ actions, a.resolves 1 = false) →
        ∃ later,
          (((Action.delete 1).run ((Action.discard 1).run askedTwice)).after
            actions).world.transmissions =
            ((Action.delete 1).run ((Action.discard 1).run askedTwice)).world.transmissions ++
              later ∧
          ∀ t ∈ later, t.creates 1 = false) := by
  have hok : (Op.deleteBreakpoint 1).run ((Action.discard 1).run askedTwice) =
      .ok () ((Action.delete 1).run ((Action.discard 1).run askedTwice)) := rfl
  have hwaiting : askedTwice.session.pending.waiting 1 =
      [⟨1, .any, .kernel "a"⟩, ⟨1, .any, .kernel "b"⟩] := rfl
  have hreachable : askedTwice.Reachable := reachable_fresh.after _
  rw [deleted_stays_deleted_iff hreachable hok, hwaiting]
  decide

end Debugger

end GpuDebug
