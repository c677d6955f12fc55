import GpuDebug.Proofs.Changes
import GpuDebug.Proofs.Course

/-!
# The count of buffered requests

The pending cache counts the requests that were buffered and not yet removed, beside the slots that
hold them. Buffering a request without a target counts it as well, though its slot stays free and no
operation finds it there again. From then on the count is too high by one, until the cache is
cleared. Sessions never clear it.

* `Pending.Counted`: what the count should be.
* `Pending.Tallied`: the count is too high by a number of strays.
* `Pending.strays`, `Debugger.strays`: how many strays some changes of a cache, and some actions on
  a session, leave behind.
* `Pending.Tallied.after`, `Debugger.tallied_after`: the count after them.
* `Debugger.counted_iff_no_strays`: the main result. `Debugger.counted_of_targets` is the case of
  requests that have a target, as all those that are parsed do.
-/

namespace GpuDebug

theorem Location.kind_eq_of_sameTarget {a b : Location} (h : a.sameTarget b = true) :
    a.kind = b.kind := by
  cases a <;> cases b <;> simp_all [sameTarget, kind]

theorem Request.isUnknown_eq_of_sameTarget {r s : Request} (h : s.sameTarget r = true) :
    s.isUnknown = r.isUnknown := by
  have hkind : s.kind = r.kind := Location.kind_eq_of_sameTarget h
  rw [isUnknown, isUnknown, hkind]

namespace Pending

variable {p p' : Pending} {r : Request} {k slot : Nat}

/-- The count is the number of the requests that wait, and not more than there are slots. -/
structure Counted (p : Pending) : Prop where
  live : p.live = p.requests.length
  isEmpty : p.isEmpty = true ↔ p.requests = []
  live_le : p.live ≤ p.capacity

/-- All requests that wait have a target, and the count is too high by the number of strays. -/
structure Tallied (p : Pending) (k : Nat) : Prop where
  known : ∀ r ∈ p.requests, r.isUnknown = false
  live : p.live = p.requests.length + k

theorem length_requests_le (p : Pending) : p.requests.length ≤ p.capacity :=
  List.length_filterMap_le id p.slots

theorem Tallied.counted_iff (h : p.Tallied k) : p.Counted ↔ k = 0 := by
  have hlive := h.live
  constructor
  · intro hcounted
    have := hcounted.live
    omega
  · rintro rfl
    rw [Nat.add_zero] at hlive
    refine ⟨hlive, ?_, hlive ▸ p.length_requests_le⟩
    rw [isEmpty, beq_iff_eq, hlive, List.length_eq_zero_iff]

theorem tallied_ofCapacity (capacity : Nat) : (ofCapacity capacity).Tallied 0 := by
  refine ⟨?_, ?_⟩
  · rw [requests_ofCapacity]
    exact nofun
  · rw [requests_ofCapacity]
    rfl

/-! ## One change -/

/-- One stray, if the request has no target and a slot is free. -/
def stray (p : Pending) (r : Request) : Nat :=
  if r.isUnknown && p.slots.any (·.isNone) then 1 else 0

theorem stray_of_known (h : r.isUnknown = false) : p.stray r = 0 := by
  rw [stray, h]
  rfl

theorem stray_of_full (h : ∀ slot, ¬ p.Free slot) : p.stray r = 0 := by
  have hnone : p.slots.any (·.isNone) = false := by
    refine List.any_eq_false.mpr fun entry hentry hnone => ?_
    rw [Option.isNone_iff_eq_none.mp hnone] at hentry
    exact (exists_free_iff.mpr hentry).elim h
  rw [stray, hnone, Bool.and_false]
  rfl

theorem stray_of_free (hr : r.isUnknown = true) (h : p.Free slot) : p.stray r = 1 := by
  have hnone : p.slots.any (·.isNone) = true :=
    List.any_eq_true.mpr ⟨none, exists_free_iff.mp ⟨slot, h⟩, rfl⟩
  rw [stray, hr, hnone]
  rfl

/-- The strays after a change. -/
def Change.strays (p : Pending) (k : Nat) : Change → Nat
  | push r => k + p.stray r
  | take _ | remove _ => k
  | clear => 0

/-- Some changes of a cache with strays, one after the other. -/
def strays (p : Pending) (k : Nat) : List Change → Nat
  | [] => k
  | c :: changes => (c.run p).strays (c.strays p k) changes

theorem Tallied.push (h : p.Tallied k) (r : Request) :
    ((Change.push r).run p).Tallied (k + p.stray r) := by
  cases hpush : p.push r with
  | error e =>
    rw [run_push_of_error hpush]
    cases Pushes.of_eq hpush with
    | full _ hfull => rwa [stray_of_full hfull]
  | ok pushed =>
    rw [run_push_of_ok hpush]
    cases Pushes.of_eq hpush with
    | doubled htwin =>
      -- The request in the slot has a target, and so has the new one.
      obtain ⟨s, hget, -, htarget⟩ := htwin
      have hknown : s.isUnknown = false := h.known s (mem_requests_iff.mpr ⟨_, hget⟩)
      rw [Request.isUnknown_eq_of_sameTarget htarget] at hknown
      rwa [stray_of_known hknown]
    | @stored slot hnew hfree =>
      obtain ⟨before, after, -, hp, hset⟩ := requests_around hfree
      rw [Option.toList_none, List.append_nil] at hp
      have hlive : p.live = before.length + after.length + k := by
        rw [h.live, hp, List.length_append]
      cases hr : r.isUnknown with
      | true =>
        rw [entry, hr, if_pos rfl, stray_of_free hr hfree]
        have hsame : requests ⟨p.slots.set slot none, p.live + 1⟩ = p.requests := by
          rw [hset, Option.toList_none, List.append_nil, hp]
        exact ⟨hsame ▸ h.known, by rw [hsame, h.live, Nat.add_assoc]⟩
      | false =>
        rw [entry_of_known hr, stray_of_known hr, Nat.add_zero]
        refine ⟨fun s hs => ?_, ?_⟩
        · rw [hset, List.append_assoc, Option.toList_some, List.singleton_append,
            List.perm_middle.mem_iff, ← hp] at hs
          rcases List.mem_cons.mp hs with rfl | hmem
          · exact hr
          · exact h.known s hmem
        · rw [hset, List.length_append, List.length_append, Option.toList_some,
            List.length_singleton]
          change p.live + 1 = _
          omega

theorem Tallied.take (h : p.Tallied k) (slot : Nat) : (p.take slot).2.Tallied k := by
  cases hget : p.get? slot with
  | none => rwa [take_of_get?_none hget]
  | some r =>
    obtain ⟨before, after, -, hp, hset⟩ := requests_around (get?_eq_some.mp hget)
    have htaken : (p.take slot).2 = ⟨p.slots.set slot none, p.live - 1⟩ := by
      rw [Pending.take, hget]
    have hlive := h.live
    rw [Option.toList_some, List.append_assoc, List.singleton_append] at hp
    rw [hp, List.length_append, List.length_cons] at hlive
    refine ⟨fun s hs => h.known s ?_, ?_⟩
    · rw [htaken, hset, Option.toList_none, List.append_nil] at hs
      rw [hp, List.perm_middle.mem_iff]
      exact List.mem_cons_of_mem r hs
    · rw [htaken, hset, Option.toList_none, List.append_nil, List.length_append]
      change p.live - 1 = _
      omega

theorem Tallied.remove (h : p.Tallied k) (number : Int32) : (p.remove number).2.Tallied k := by
  rcases p.remove_cases number with ⟨slot, -, hremove⟩ | ⟨-, hremove⟩
  · rw [hremove]
    exact h.take slot
  · rwa [hremove]

theorem Tallied.run (h : p.Tallied k) (c : Change) : (c.run p).Tallied (c.strays p k) := by
  cases c with
  | push r => exact h.push r
  | take slot => exact h.take slot
  | remove number => exact h.remove number
  | clear => exact tallied_ofCapacity p.capacity

theorem Tallied.after (h : p.Tallied k) (changes : List Change) :
    (p.after changes).Tallied (p.strays k changes) := by
  induction changes generalizing p k with
  | nil => exact h
  | cons c changes ih => exact ih (h.run c)

end Pending

/-! ## Sessions -/

/-- The stray of an action: a request without a target, if it is buffered. An open channel refuses
it. -/
def Action.stray (d : Debugger) : Action → Nat
  | resolve r => if d.session.channel.isOpen then 0 else d.session.pending.stray r
  | _ => 0

namespace Debugger

/-- The strays of some actions, one after the other. -/
def strays (d : Debugger) : List Action → Nat
  | [] => 0
  | a :: actions => a.stray d + (a.run d).strays actions

/-- The pending cache of the session has a number of strays. -/
def Tallied (k : Nat) (d : Debugger) : Prop :=
  d.session.pending.Tallied k

end Debugger

namespace Op

open Debugger (Tallied)

variable {k : Nat} {r : Request} {d d' : Debugger}

theorem pending_buffer (r : Request) (d : Debugger) :
    ((buffer r).final d).session.pending = (Pending.Change.push r).run d.session.pending := by
  have hrun := run_buffer r d
  cases hpush : d.session.pending.push r with
  | ok pushed =>
    rw [hpush] at hrun
    rw [final_of_ok hrun, Pending.run_push_of_ok hpush]
    rfl
  | error e =>
    rw [hpush] at hrun
    rw [final_of_error hrun, Pending.run_push_of_error hpush]

theorem tallied_of_pending_eq (h : d'.session.pending = d.session.pending) (hd : Tallied k d) :
    Tallied k d' := by
  rwa [Tallied, h]

theorem tallied_sendRequest (r : Request) : Preserves (Tallied k) (sendRequest r) := fun d =>
  tallied_of_pending_eq (pending_sendRequest r d)

theorem tallied_buffer_add (r : Request) (hd : Tallied k d) :
    Tallied (k + d.session.pending.stray r) ((buffer r).final d) := by
  rw [Tallied, pending_buffer]
  exact Pending.Tallied.push hd r

theorem tallied_buffer (hr : r.isUnknown = false) : Preserves (Tallied k) (buffer r) := by
  intro d hd
  have hadd := tallied_buffer_add r hd
  rwa [Pending.stray_of_known hr, Nat.add_zero] at hadd

/-- Resolving again and flushing buffer requests with a target only. -/
theorem carried_tallied : Carried fun d d' => Tallied k d → Tallied k d' where
  quiet _ _ hq := tallied_of_pending_eq hq.pending
  flushSlot slot d hd := by
    refine flushSlot_related (R := fun d d' => Tallied k d → Tallied k d') (fun r hget => ?_) hd
    have hr : r.isUnknown = false := hd.known r (Pending.mem_requests_iff.mpr ⟨slot, hget⟩)
    exact ⟨fun hd => hd.take slot, tallied_sendRequest r, tallied_buffer hr⟩
  adjust number d := by
    refine adjust_related (R := fun d d' => Tallied k d → Tallied k d') fun r hplaced => ?_
    obtain ⟨b, -, hb⟩ := Option.bind_eq_some_iff.mp hplaced
    have hr : r.isUnknown = false := by rw [Request.isUnknown, (placedRequest?_eq_some hb).2.2]; rfl
    exact ⟨fun hd => hd.remove number, tallied_sendRequest r, tallied_buffer hr⟩

end Op

namespace Debugger

variable {k : Nat} {d : Debugger}

theorem tallied_resolve (hd : Tallied k d) (r : Request) :
    Tallied (k + (Action.resolve r).stray d) ((Op.resolve r).final d) := by
  rw [Op.resolve_final, Action.stray]
  by_cases hopen : d.session.channel.isOpen = true
  · rw [if_pos hopen, Nat.add_zero]
    split
    · exact Op.tallied_sendRequest r d hd
    · next hready =>
      -- An open channel only keeps requests for source lines waiting.
      rw [Session.readyFor, hopen, Bool.true_and] at hready
      have hkind : r.kind = .source := by
        by_contra hne
        exact hready (by simp [hne])
      exact Op.tallied_buffer (by rw [Request.isUnknown, hkind]; rfl) d hd
  · have hready : ¬ d.session.readyFor r = true := by
      rw [Session.readyFor, Bool.eq_false_iff.mpr hopen]
      exact Bool.false_ne_true
    rw [if_neg hopen, if_neg hready]
    exact Op.tallied_buffer_add r hd

theorem Tallied.run (hd : Tallied k d) (a : Action) : Tallied (k + a.stray d) (a.run d) := by
  cases hspecial : a.isSpecial with
  | false =>
    have hstray : a.stray d = 0 := by
      cases a with
      | resolve r => cases hspecial
      | _ => rfl
    rw [hstray]
    exact Op.carried_tallied.run hspecial d hd
  | true =>
    cases a with
    | resolve r => exact tallied_resolve hd r
    | delete number =>
      have hsend : Op.Preserves (Tallied k) (Op.send (.delete number)) := fun d =>
        Op.tallied_of_pending_eq (Op.send_keeps _ d).1
      have hdelete : Op.Preserves (Tallied k) (Op.deleteBreakpoint number) :=
        .bind (fun _ hd => hd.remove number) fun _ => .bind .session fun _ => .ite hsend (.pure _)
      exact hdelete d hd
    | store r => exact hd
    | discard n => exact hd
    | outside h w => exact hd
    | _ => cases hspecial

/-- **The count after some actions** is too high by the strays that they leave behind. -/
theorem tallied_after (hd : Tallied k d) (actions : List Action) :
    Tallied (k + d.strays actions) (d.after actions) := by
  induction actions generalizing d k with
  | nil => exact hd
  | cons a actions ih =>
    rw [strays, ← Nat.add_assoc]
    exact ih (hd.run a)

theorem tallied_start (config : Config) (reader : ImageReader) (host : Host) (world : World) :
    Tallied 0 ⟨Session.ofConfig config reader, host, world⟩ :=
  Pending.tallied_ofCapacity config.pendingCapacity

/-- **The count of buffered requests is right exactly as long as there are no strays**, both of a
cache that is used on its own and of the cache of a session. It is too high by their number. -/
theorem counted_iff_no_strays (capacity : Nat) (changes : List Pending.Change) (config : Config)
    (reader : ImageReader) (host : Host) (world : World) (actions : List Action) :
    (let p := (Pending.ofCapacity capacity).after changes
      let strays := (Pending.ofCapacity capacity).strays 0 changes
      p.live = p.requests.length + strays ∧ p.requests.length ≤ p.capacity ∧
        p.capacity = capacity ∧ (p.Counted ↔ strays = 0)) ∧
    (let d : Debugger := ⟨Session.ofConfig config reader, host, world⟩
      let p := (d.after actions).session.pending
      p.live = p.requests.length + d.strays actions ∧ p.requests.length ≤ p.capacity ∧
        (p.Counted ↔ d.strays actions = 0)) := by
  refine ⟨?_, ?_⟩
  · have h := (Pending.tallied_ofCapacity capacity).after changes
    refine ⟨h.live, Pending.length_requests_le _, ?_, h.counted_iff⟩
    exact (Pending.capacity_after _ changes).trans List.length_replicate
  · have h := tallied_after (tallied_start config reader host world) actions
    rw [Nat.zero_add] at h
    exact ⟨h.live, Pending.length_requests_le _, h.counted_iff⟩

/-- A request without a target is counted, on its own and in a session, and does not wait. -/
theorem untargeted_request_is_counted :
    let r : Request := ⟨1, .cleared, .unknown⟩
    (¬ ((Pending.ofCapacity 1).after [.push r]).Counted ∧
      (Pending.ofCapacity 1).after [.push r] = ⟨[none], 1⟩) ∧
    ¬ (fresh.after [.resolve r]).session.pending.Counted := by
  intro r
  obtain ⟨⟨-, -, -, hcache⟩, -, -, hsession⟩ := counted_iff_no_strays 1 [.push r]
    fresh.session.config (fun _ _ => .error .noDebugInfo) Host.empty default [.resolve r]
  refine ⟨⟨fun h => ?_, rfl⟩, fun h => ?_⟩
  · exact absurd (hcache.mp h) (by decide)
  · exact absurd (hsession.mp h) (by decide)

/-- The count is right if every request that is resolved has a target. -/
theorem counted_of_targets {actions : List Action} (hd : Tallied 0 d)
    (h : ∀ r, .resolve r ∈ actions → r.isUnknown = false) :
    (d.after actions).session.pending.Counted := by
  have hnone : d.strays actions = 0 := by
    clear hd
    induction actions generalizing d with
    | nil => rfl
    | cons a actions ih =>
      have hfirst : a.stray d = 0 := by
        cases a with
        | resolve r =>
          rw [Action.stray, Pending.stray_of_known (h r List.mem_cons_self), ite_self]
        | _ => rfl
      rw [strays, hfirst, ih fun r hr => h r (List.mem_cons_of_mem a hr)]
  have htallied := tallied_after hd actions
  rw [hnone] at htallied
  exact htallied.counted_iff.mpr rfl

end Debugger

end GpuDebug
