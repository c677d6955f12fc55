import GpuDebug.Proofs.Course

/-!
# The requests that a state holds

Requests come into a state from outside, by being resolved or stored. The session writes the
statement of a line into the copy that the host stores, and changes nothing else about them.

* `Debugger.Holds Q`: every request that waits and every one that the host stores satisfies `Q`.
* `Action.Asks`: what an action asks for.
* `Debugger.Holds.run`: an action that asks for requests of a kind leaves only requests of this
  kind.
-/

namespace GpuDebug

namespace Debugger

variable {Q : Request → Prop} {d d' : Debugger}

/-- Every request of the state, waiting or stored, satisfies `Q`. -/
structure Holds (Q : Request → Prop) (d : Debugger) : Prop where
  waiting : ∀ number, ∀ r ∈ (d.view number).waiting, Q r
  stored : ∀ number b, (d.view number).stored = some b → Q b.request

namespace Holds

theorem of_view_eq (h : d.Holds Q)
    (hw : ∀ number, (d'.view number).waiting = (d.view number).waiting)
    (hs : ∀ number, (d'.view number).stored = (d.view number).stored) : d'.Holds Q :=
  ⟨fun number r hr => h.waiting number r (hw number ▸ hr),
    fun number b hb => h.stored number b (hs number ▸ hb)⟩

theorem of_quiet (h : d.Holds Q) (hq : Quiet d d') : d'.Holds Q :=
  h.of_view_eq (fun number => (hq.untouched number).waiting) fun number =>
    (hq.untouched number).stored

theorem withPending (h : d.Holds Q) {pending : Pending}
    (hpending : ∀ number, ∀ r ∈ pending.waiting number, Q r) : (d.withPending pending).Holds Q :=
  ⟨hpending, h.stored⟩

theorem of_slot (h : d.Holds Q) {slot : Nat} {r : Request}
    (hget : d.session.pending.get? slot = some r) : Q r :=
  h.waiting r.number r ((Pending.waiting_take hget).2.mem_iff.mpr List.mem_cons_self)

theorem of_placed (h : d.Holds Q) {number : Int32} {r : Request}
    (hplaced : (d.host.breakpoints.get? number).bind Op.placedRequest? = some r) : Q r := by
  obtain ⟨b, hb, hr⟩ := Option.bind_eq_some_iff.mp hplaced
  obtain ⟨rfl, -, -⟩ := Op.placedRequest?_eq_some hr
  exact h.stored number b.placing (stored_of_get? hb)

theorem without (h : d.Holds Q) (slot : Nat) : (Op.without d slot).Holds Q := by
  refine h.withPending fun number r hr => h.waiting number r ?_
  cases hget : d.session.pending.get? slot with
  | none => rwa [Pending.take_of_get?_none hget] at hr
  | some s =>
    obtain ⟨hother, hperm⟩ := Pending.waiting_take hget
    by_cases hn : s.number = number
    · subst hn
      exact hperm.mem_iff.mpr (List.mem_cons_of_mem s hr)
    · rwa [hother number hn] at hr

theorem forgetting (h : d.Holds Q) (number : Int32) : (Op.forgetting d number).Holds Q := by
  refine h.withPending fun n r hr => h.waiting n r ?_
  rw [Pending.waiting_remove] at hr
  split at hr
  · exact List.mem_of_mem_tail hr
  · exact hr

end Holds

end Debugger

namespace Op

open Debugger (Holds)

variable {Q : Request → Prop} {r : Request}

theorem holds_send (c : Command) : Preserves (Holds Q) (send c) := by
  intro d hd
  obtain ⟨hpending, hhost⟩ := send_keeps c d
  refine hd.of_view_eq (fun number => ?_) fun number => ?_
  · rw [Debugger.view, hpending]
    rfl
  · rw [Debugger.view, hhost]
    rfl

theorem holds_buffer (hr : Q r) : Preserves (Holds Q) (buffer r) := by
  intro d hd
  rcases buffer_final r d with h | ⟨slot, pending, hp, h⟩
  · rw [h]
    exact hd
  · rw [h]
    obtain ⟨hother, hown⟩ := Pending.waiting_push hp
    refine hd.withPending fun number s hs => ?_
    by_cases hn : r.number = number
    · subst hn
      rcases hown with ⟨rfl, -⟩ | ⟨-, hperm⟩
      · exact hd.waiting _ s hs
      · rcases List.mem_append.mp (hperm.mem_iff.mp hs) with hs | hs
        · unfold Pending.occupant at hs
          split at hs
          · cases hs
          · exact List.mem_singleton.mp hs ▸ hr
        · exact hd.waiting _ s hs
    · change s ∈ pending.waiting number at hs
      rw [hother number hn] at hs
      exact hd.waiting number s hs

variable (hstatement : ∀ (r : Request) (statement : String), Q r → Q (r.withStatement statement))

include hstatement

theorem holds_sendRequest (hr : Q r) : Preserves (Holds Q) (sendRequest r) := by
  refine respects_sendRequest (fun _ _ hl hd => hd.of_quiet hl.quiet) (fun c _ _ => holds_send c) ?_
  intro d d' _ hd
  refine ⟨hd.waiting, fun number b hb => ?_⟩
  rcases Debugger.stored_sentState_cases hb with hold | ⟨_, _, _, p, c, -, -, -, rfl⟩
  · exact hd.stored number b hold
  · exact hstatement r p.statement hr

theorem carried_holds : Carried fun d d' => Holds Q d → Holds Q d' where
  quiet _ _ hq hd := hd.of_quiet hq
  flushSlot slot d hd := by
    refine flushSlot_related (R := fun d d' => Holds Q d → Holds Q d') (fun r hget => ?_) hd
    have hr : Q r := hd.of_slot hget
    exact ⟨fun hd => hd.without slot, holds_sendRequest hstatement hr, holds_buffer hr⟩
  adjust number d hd := by
    refine adjust_related (R := fun d d' => Holds Q d → Holds Q d') (fun r hplaced => ?_) hd
    have hr : Q r := hd.of_placed hplaced
    exact ⟨fun hd => hd.forgetting number, holds_sendRequest hstatement hr, holds_buffer hr⟩

end Op

/-- The requests that the action brings satisfy `Q`, and the numbers that it names satisfy `N`. -/
def Action.Asks (Q : Request → Prop) (N : Int32 → Prop) : Action → Prop
  | resolve r | store r => Q r
  | delete number | disable number => N number
  | _ => True

namespace Debugger

variable {Q : Request → Prop} {N : Int32 → Prop} {d : Debugger}

theorem holds_start (config : Config) (reader : ImageReader) (host : Host) (world : World)
    (h : host.breakpoints = .empty) :
    Holds Q ⟨Session.ofConfig config reader, host, world⟩ := by
  refine ⟨fun number r hr => ?_, fun number b hb => ?_⟩
  · have hnone : (Pending.ofCapacity config.pendingCapacity).waiting number = [] :=
      Pending.waiting_of_requests_nil (Pending.requests_ofCapacity _) number
    change r ∈ (Pending.ofCapacity config.pendingCapacity).waiting number at hr
    rw [hnone] at hr
    cases hr
  · rw [view, h] at hb
    cases hb

/-- **The requests of a state stay of the kind that is asked for.** -/
theorem Holds.run (hd : d.Holds Q)
    (hstatement : ∀ (r : Request) (statement : String), Q r → Q (r.withStatement statement))
    {a : Action} (ha : a.Asks Q N) : (a.run d).Holds Q := by
  cases hspecial : a.isSpecial with
  | false => exact (Op.carried_holds hstatement).run hspecial d hd
  | true =>
    cases a with
    | resolve r =>
      exact Op.respects_resolve (Op.holds_sendRequest hstatement ha) (Op.holds_buffer ha) d hd
    | delete number =>
      have hdelete : Op.Preserves (Holds Q) (Op.deleteBreakpoint number) :=
        .bind (fun _ hd => hd.forgetting number) fun _ => .bind .session fun _ =>
          .ite (Op.holds_send _) (.pure _)
      exact hdelete d hd
    | store r =>
      refine ⟨hd.waiting, fun number b hb => ?_⟩
      change ((d.host.add r).breakpoints.get? number).map Breakpoint.placing = some b at hb
      rw [Host.get?_add] at hb
      split at hb
      · cases hb
        exact ha
      · exact hd.stored number b hb
    | discard n =>
      refine ⟨hd.waiting, fun number b hb => hd.stored number b ?_⟩
      change ((d.host.breakpoints.erase n).get? number).map Breakpoint.placing = some b at hb
      rw [BreakpointTable.get?_erase] at hb
      split at hb
      · cases hb
      · exact hb
    | outside h w => exact hd.of_view_eq (fun _ => rfl) fun _ => rfl
    | _ => cases hspecial

theorem Holds.after (hd : d.Holds Q)
    (hstatement : ∀ (r : Request) (statement : String), Q r → Q (r.withStatement statement))
    {actions : List Action} (ha : ∀ a ∈ actions, a.Asks Q N) : (d.after actions).Holds Q := by
  induction actions generalizing d with
  | nil => exact hd
  | cons a actions ih =>
    rw [List.forall_mem_cons] at ha
    exact ih (hd.run hstatement ha.1) ha.2

end Debugger

end GpuDebug
