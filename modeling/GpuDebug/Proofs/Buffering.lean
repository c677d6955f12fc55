import GpuDebug.Proofs.Creation
import GpuDebug.Proofs.Pending
import Mathlib.Data.List.Pairwise

/-!
# Buffering a request twice

The pending cache tells requests apart by their number and their target. A request that is buffered
where one of the same number and target waits is dropped, and with it its condition: the agent is
later told the condition of the earlier request.

* `Condition.tested`: the part of a condition that the agent tests.
* `Request.Restates`: two requests for the same breakpoint, target and condition.
* `Op.flushSlot_condition`: a flush writes the condition of the request that waits.
* `Debugger.buffered_request_kept_iff`: the main result. A buffered request is kept exactly if no
  request for its number and target waited with another condition.
-/

namespace GpuDebug

/-- The part of a condition that the agent tests; the text of the condition is for the user. -/
def Condition.tested (c : Condition) : ConditionCode × Dim × Dim :=
  (c.code, c.workGroup, c.workItem)

theorem Condition.toPacket_eq_of_tested_eq {c c' : Condition} (h : c.tested = c'.tested) :
    c.toPacket = c'.toPacket := by
  obtain ⟨hcode, hgroup, hitem⟩ : c.code = c'.code ∧ c.workGroup = c'.workGroup ∧
      c.workItem = c'.workItem := by
    simpa [tested] using h
  unfold toPacket
  rw [hcode, hgroup, hitem]

/-- The request asks for the same as another one, in different words at most. -/
structure Request.Restates (s r : Request) : Prop where
  number : s.number = r.number
  target : s.sameTarget r = true
  condition : s.condition.tested = r.condition.tested

/-! ## The requests in the slots -/

namespace Pending

/-- Only one request of a number waits for a target. -/
theorem Distinct.eq_of_sameTarget {p : Pending} (hd : p.Distinct) {number : Int32}
    {r s t : Request} (hs : s ∈ p.waiting number) (ht : t ∈ p.waiting number)
    (hsr : s.sameTarget r = true) (htr : t.sameTarget r = true) : s = t := by
  have hst : s.sameTarget t = true :=
    Request.sameTarget_trans hsr ((Request.sameTarget_comm r t).trans htr)
  by_contra hne
  have : Std.Symm fun a b : Request => a.sameTarget b = false :=
    ⟨fun a b hab => (Request.sameTarget_comm b a).trans hab⟩
  have hfalse := (hd number).forall hs ht hne
  rw [hst] at hfalse
  cases hfalse

end Pending

namespace Op

/-! ## What is written for a slot -/

/-- The command of a request carries its condition. -/
theorem condition_of_command? {d : Debugger} {r : Request} {c : Command}
    (h : d.command? r = .ok (some c)) : c.condition = r.condition.toPacket := by
  cases hr : r.location with
  | source file line statement =>
    obtain ⟨p, -, rfl⟩ := (Debugger.command?_eq_some_iff hr).mp h
    rfl
  | unknown =>
    rw [Debugger.command?, hr] at h
    cases h
  | _ =>
    rw [Debugger.command?, hr] at h
    cases h
    rfl

/-- Flushing a slot writes what handing over its request writes, buffered again or not. -/
theorem world_flushSlot {slot : Nat} {r : Request} {d : Debugger}
    (hget : d.session.pending.get? slot = some r) :
    ((flushSlot slot).final d).world = ((sendRequest r).final (without d slot)).world := by
  rw [flushSlot_final hget]
  cases hrun : (sendRequest r).run (without d slot) with
  | ok outcome d₁ => rw [final_of_ok hrun]
  | error e d₁ =>
    rw [final_of_error hrun]
    dsimp only
    split
    · rcases buffer_final r d₁ with h | ⟨slot', pending, -, h⟩
      · rw [h]
      · rw [h]
        rfl
    · rfl

/-- A flush writes the condition of the request that waits in the slot. -/
theorem flushSlot_condition {slot : Nat} {r : Request} {d : Debugger}
    (hget : d.session.pending.get? slot = some r) {later : List Transmission}
    (hlog : ((flushSlot slot).final d).world.transmissions = d.world.transmissions ++ later) :
    ∀ t ∈ later, t.command.condition = r.condition.toPacket := by
  rw [world_flushSlot hget] at hlog
  have hsame : (without d slot).world.transmissions = d.world.transmissions := rfl
  rcases sendRequest_attempt r (without d slot) with ⟨h, -⟩ | ⟨t, h, hcommand, -⟩
  · rw [h, hsame, List.self_eq_append_right] at hlog
    intro t ht
    rw [hlog] at ht
    cases ht
  · rw [h, hsame] at hlog
    obtain rfl := List.append_cancel_left hlog
    intro t' ht'
    cases List.mem_singleton.mp ht'
    exact condition_of_command? hcommand

/-- Resolving a request ends with it buffered only through the pending cache. -/
theorem push_of_resolve_buffered {r : Request} {d d' : Debugger}
    (h : (resolve r).run d = .ok .buffered d') :
    ∃ slot pending, d.session.pending.push r = .ok (slot, pending) ∧
      d' = d.withPending pending := by
  rw [run_resolve] at h
  split at h
  · -- Handing a request over never ends with it buffered.
    cases Hands.of_run h
  · obtain ⟨_, d₁, hbuffer, hpure⟩ := bind_eq_ok h
    cases hpure
    rw [run_buffer] at hbuffer
    cases hp : d.session.pending.push r with
    | error e =>
      rw [hp] at hbuffer
      cases hbuffer
    | ok pushed =>
      rw [hp] at hbuffer
      cases hbuffer
      exact ⟨pushed.1, pushed.2, rfl, rfl⟩

end Op

namespace Debugger

variable {d d' : Debugger} {r : Request}

/-- **A buffered request is kept, and its condition is what a later flush writes, exactly if no
request for its number and target waited with another condition.** -/
theorem buffered_request_kept_iff (hd : d.Reachable) (hknown : r.isUnknown = false)
    (h : (Op.resolve r).run d = .ok .buffered d') :
    (∃ slot s, d'.session.pending.get? slot = some s ∧ s.Restates r ∧
      ∀ e later, e.session.pending.get? slot = some s →
        ((Op.flushSlot slot).final e).world.transmissions = e.world.transmissions ++ later →
        ∀ t ∈ later, t.command.condition = r.condition.toPacket) ↔
    ∀ s ∈ d.session.pending.waiting r.number, s.sameTarget r = true →
      s.condition.tested = r.condition.tested := by
  obtain ⟨_, pending, hpush, rfl⟩ := Op.push_of_resolve_buffered h
  have hdistinct : pending.Distinct := hd.sound.distinct.push hpush
  have hcases := (Pending.waiting_push hpush).2
  constructor
  · rintro ⟨slot, s, hget, hs, -⟩ s' hs' htarget
    have hmem : s ∈ pending.waiting r.number := hs.number ▸ Pending.mem_waiting_of_get? hget
    rcases hcases with ⟨rfl, -⟩ | ⟨hno, -⟩
    · rw [hdistinct.eq_of_sameTarget hs' hmem htarget hs.target, hs.condition]
    · rw [hno s' hs'] at htarget
      cases htarget
  · intro hall
    -- The request that waits afterwards is the earlier one, if there was one.
    obtain ⟨s, hmem, hs⟩ : ∃ s ∈ pending.waiting r.number, s.Restates r := by
      rcases hcases with ⟨rfl, s, hs, htarget⟩ | ⟨-, hperm⟩
      · exact ⟨s, hs, (Pending.mem_waiting.mp hs).2, htarget, hall s hs htarget⟩
      · rw [Pending.occupant_of_known hknown] at hperm
        exact ⟨r, hperm.mem_iff.mpr List.mem_cons_self, rfl, r.sameTarget_self, rfl⟩
    obtain ⟨slot, hget⟩ := Pending.mem_requests_iff.mp (Pending.mem_waiting.mp hmem).1
    refine ⟨slot, s, hget, hs, fun e later he hlog t ht => ?_⟩
    rw [Op.flushSlot_condition he hlog t ht, Condition.toPacket_eq_of_tested_eq hs.condition]

/-- A breakpoint on a kernel waits without a condition, and is asked for with one. -/
theorem second_condition_dropped :
    let d := fresh.after [.resolve ⟨1, .any, .kernel "vadd"⟩]
    let r : Request := ⟨1, .equal ⟨1, 0, 0⟩ ⟨2, 0, 0⟩, .kernel "vadd"⟩
    ¬ ∃ slot s, ((Op.resolve r).final d).session.pending.get? slot = some s ∧ s.Restates r ∧
      ∀ e later, e.session.pending.get? slot = some s →
        ((Op.flushSlot slot).final e).world.transmissions = e.world.transmissions ++ later →
        ∀ t ∈ later, t.command.condition = r.condition.toPacket := by
  intro d r
  have hd : d.Reachable := reachable_fresh.after _
  have hok : (Op.resolve r).run d = .ok .buffered ((Op.resolve r).final d) := rfl
  have hwaiting : d.session.pending.waiting r.number = [⟨1, .any, .kernel "vadd"⟩] := rfl
  rw [buffered_request_kept_iff hd rfl hok, hwaiting]
  decide

end Debugger

end GpuDebug
