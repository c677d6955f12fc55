import GpuDebug.Proofs.Slots

/-!
# The waiting requests

What the operations of the pending cache do to the requests that wait, and to those of one number
in particular. Which slot a request occupies is not visible here.

* `Pending.waiting`: the requests of one number, in slot order.
* `Pending.Distinct`: no two waiting requests have one number and one target. The operations keep
  it.
* `Pending.waiting_take`, `Pending.push_cases`, `Pending.waiting_remove`: taking a request out,
  buffering one, and dropping the first one of a number.
* `Pending.push_empty`: the only request that waits, and the cache once it was taken out.
-/

namespace GpuDebug

/-! ## Equality of targets -/

theorem Location.sameTarget_comm (a b : Location) : a.sameTarget b = b.sameTarget a := by
  cases a <;> cases b <;> simp only [Location.sameTarget, Bool.beq_comm]

theorem Request.sameTarget_self (r : Request) : r.sameTarget r = true := by
  unfold sameTarget Location.sameTarget
  cases r.location <;> simp

theorem Request.sameTarget_comm (r s : Request) : r.sameTarget s = s.sameTarget r :=
  Location.sameTarget_comm _ _

theorem Location.sameTarget_trans {a b c : Location} (hab : a.sameTarget b = true)
    (hbc : b.sameTarget c = true) : a.sameTarget c = true := by
  cases a <;> cases b <;> cases c <;> simp_all [Location.sameTarget]

theorem Request.sameTarget_trans {r s t : Request} (hrs : r.sameTarget s = true)
    (hst : s.sameTarget t = true) : r.sameTarget t = true :=
  Location.sameTarget_trans hrs hst

namespace Pending

/-- The waiting requests of one number, in slot order. -/
def waiting (p : Pending) (number : Int32) : List Request :=
  p.requests.filter (·.number == number)

/-- No two waiting requests have one number and one target. -/
def Distinct (p : Pending) : Prop :=
  ∀ number, (p.waiting number).Pairwise fun r s => r.sameTarget s = false

theorem mem_waiting {p : Pending} {number : Int32} {r : Request} :
    r ∈ p.waiting number ↔ r ∈ p.requests ∧ r.number = number := by
  simp [waiting]

theorem mem_waiting_of_get? {p : Pending} {slot : Nat} {r : Request} (h : p.get? slot = some r) :
    r ∈ p.waiting r.number :=
  mem_waiting.mpr ⟨mem_requests_iff.mpr ⟨slot, h⟩, rfl⟩

theorem waiting_eq_nil_iff {p : Pending} {number : Int32} :
    p.waiting number = [] ↔ ∀ s ∈ p.requests, s.number ≠ number := by
  simp [waiting]

theorem distinct_ofCapacity (capacity : Nat) : (ofCapacity capacity).Distinct := by
  intro number
  rw [waiting, requests_ofCapacity]
  exact List.Pairwise.nil

/-! ## Buffering a request -/

/-- A request occupies a slot unless it has no target. -/
def occupant (r : Request) : List Request :=
  if r.isUnknown then [] else [r]

theorem occupant_of_known {r : Request} (h : r.isUnknown = false) : occupant r = [r] := by
  rw [occupant, h]
  rfl

theorem filter_occupant (r : Request) :
    (occupant r).filter (·.number == r.number) = occupant r := by
  unfold occupant
  split <;> simp

theorem toList_entry (r : Request) : (entry r).toList = occupant r := by
  unfold entry occupant
  split <;> rfl

/-- Buffering finds the request there already, or puts it between others, or has no free slot. -/
theorem push_cases (p : Pending) (r : Request) :
    (∃ slot s, p.push r = .ok (slot, p) ∧ s ∈ p.requests ∧ s.number = r.number ∧
      s.sameTarget r = true) ∨
    ((∀ s ∈ p.requests, s.number = r.number → s.sameTarget r = false) ∧
      ((∃ slot p' before after, p.push r = .ok (slot, p') ∧ p.requests = before ++ after ∧
        p'.requests = before ++ occupant r ++ after) ∨
      (p.push r = .error (.cacheFull p.capacity) ∧ none ∉ p.slots))) := by
  have hother : (∀ i, ¬ p.Twin r i) →
      ∀ s ∈ p.requests, s.number = r.number → s.sameTarget r = false := by
    intro hnew s hs hn
    obtain ⟨i, hget⟩ := mem_requests_iff.mp hs
    exact Bool.eq_false_iff.mpr fun ht => hnew i ⟨s, hget, hn, ht⟩
  have hpushes := p.pushes r
  generalize p.push r = pushed at hpushes ⊢
  cases hpushes with
  | @doubled slot htwin =>
    obtain ⟨s, hget, hn, ht⟩ := htwin
    exact .inl ⟨slot, s, rfl, mem_requests_iff.mpr ⟨slot, hget⟩, hn, ht⟩
  | @stored slot hnew hfree =>
    obtain ⟨before, after, -, hp, hset⟩ := requests_around hfree
    refine .inr ⟨hother hnew, .inl ⟨slot, _, before, after, rfl, ?_, ?_⟩⟩
    · rw [hp, Option.toList_none, List.append_nil]
    · rw [hset, toList_entry]
  | full hnew hfull =>
    exact .inr ⟨hother hnew, .inr ⟨rfl, fun hmem => (exists_free_iff.mpr hmem).elim hfull⟩⟩

/-- What buffering does to the requests of one number. -/
theorem waiting_push {p p' : Pending} {r : Request} {slot : Nat} (h : p.push r = .ok (slot, p')) :
    (∀ number, r.number ≠ number → p'.waiting number = p.waiting number) ∧
    ((p' = p ∧ ∃ s ∈ p.waiting r.number, s.sameTarget r = true) ∨
      ((∀ s ∈ p.waiting r.number, s.sameTarget r = false) ∧
        (p'.waiting r.number).Perm (occupant r ++ p.waiting r.number))) := by
  rcases p.push_cases r with
    ⟨slot', s, hp, hs, hn, ht⟩ | ⟨hno, ⟨slot', q, before, after, hp, hb, ha⟩ | ⟨hp, -⟩⟩
  · rw [hp] at h
    cases h
    exact ⟨fun _ _ => rfl, .inl ⟨rfl, s, mem_waiting.mpr ⟨hs, hn⟩, ht⟩⟩
  · rw [hp] at h
    cases h
    have split : ∀ number, p'.waiting number = before.filter (·.number == number) ++
        (occupant r).filter (·.number == number) ++ after.filter (·.number == number) := by
      intro number
      rw [waiting, ha, List.filter_append, List.filter_append]
    refine ⟨fun number hne => ?_, .inr ⟨fun s hs => ?_, ?_⟩⟩
    · have hocc : (occupant r).filter (·.number == number) = [] := by
        unfold occupant
        split <;> simp [hne]
      rw [split, hocc, List.append_nil, waiting, hb, List.filter_append]
    · exact hno s (mem_waiting.mp hs).1 (mem_waiting.mp hs).2
    · rw [split, filter_occupant, waiting, hb, List.filter_append, List.append_assoc]
      exact List.perm_append_comm_assoc _ _ _
  · rw [hp] at h
    cases h

theorem Distinct.push {p p' : Pending} {r : Request} {slot : Nat} (hd : p.Distinct)
    (h : p.push r = .ok (slot, p')) : p'.Distinct := by
  obtain ⟨hother, hown⟩ := waiting_push h
  intro number
  by_cases hn : r.number = number
  · subst hn
    rcases hown with ⟨rfl, -⟩ | ⟨hno, hperm⟩
    · exact hd r.number
    · have hsymm : ∀ {s t : Request}, s.sameTarget t = false → t.sameTarget s = false :=
        fun {s t} hst => (Request.sameTarget_comm t s).trans hst
      rw [hperm.pairwise_iff hsymm]
      unfold occupant
      split
      · exact hd r.number
      · rw [List.singleton_append, List.pairwise_cons]
        exact ⟨fun s hs => hsymm (hno s hs), hd r.number⟩
  · rw [hother number hn]
    exact hd number

/-! ## Taking a request out, by number -/

theorem waiting_take {p : Pending} {slot : Nat} {r : Request} (h : p.get? slot = some r) :
    (∀ number, r.number ≠ number → (p.take slot).2.waiting number = p.waiting number) ∧
    (p.waiting r.number).Perm (r :: (p.take slot).2.waiting r.number) := by
  obtain ⟨p', before, after, ht, hp, hp', -⟩ := take_requests h
  rw [ht]
  refine ⟨fun number hne => ?_, ?_⟩
  · rw [waiting, waiting, hp, hp', List.filter_append, List.filter_append,
      List.filter_cons_of_neg (by simpa using hne)]
  · rw [waiting, waiting, hp, hp', List.filter_append, List.filter_append,
      List.filter_cons_of_pos (by simp)]
    exact List.perm_middle

theorem Distinct.take {p : Pending} (hd : p.Distinct) (slot : Nat) : (p.take slot).2.Distinct := by
  cases hget : p.get? slot with
  | none => rwa [take_of_get?_none hget]
  | some r =>
    obtain ⟨hother, hperm⟩ := waiting_take hget
    intro number
    by_cases hn : r.number = number
    · subst hn
      have hdist := (hperm.pairwise_iff fun {a b} hab =>
        (Request.sameTarget_comm b a).trans hab).mp (hd r.number)
      exact (List.pairwise_cons.mp hdist).2
    · rw [hother number hn]
      exact hd number

/-- A request that was taken out can be buffered again. -/
theorem push_take {p : Pending} (hd : p.Distinct) {slot : Nat} {r : Request}
    (h : p.get? slot = some r) :
    ∃ slot' p', (p.take slot).2.push r = .ok (slot', p') ∧
      p'.requests.Perm (occupant r ++ (p.take slot).2.requests) := by
  obtain ⟨q, before, after, ht, -, -, hfree⟩ := take_requests h
  have hperm := (waiting_take h).2
  rw [ht] at hperm ⊢
  rcases q.push_cases r with
    ⟨slot', s, -, hs, hn, hst⟩ | ⟨-, ⟨slot', q', before, after, hq, hb, ha⟩ | ⟨-, hfull⟩⟩
  · have hdist := (hperm.pairwise_iff fun {a b} hab => (Request.sameTarget_comm b a).trans hab).mp
      (hd r.number)
    have hne := (List.pairwise_cons.mp hdist).1 s (mem_waiting.mpr ⟨hs, hn⟩)
    rw [Request.sameTarget_comm, hst] at hne
    cases hne
  · refine ⟨slot', q', hq, ?_⟩
    rw [hb, ha, List.append_assoc]
    exact List.perm_append_comm_assoc _ _ _
  · exact absurd hfree hfull

/-! ## Dropping the first request of a number -/

/-- The first slot of a number holds the first request of the number that waits. -/
theorem waiting_of_first {p : Pending} {number : Int32} {slot : Nat} {r : Request}
    (h : p.First number slot) (hget : p.get? slot = some r) :
    p.waiting number = r :: (p.take slot).2.waiting number := by
  obtain ⟨before, after, hbefore, hp, hp'⟩ := requests_of_first h hget
  have hnone : before.filter (·.number == number) = [] :=
    List.filter_eq_nil_iff.mpr fun s hs => by simpa using hbefore s hs
  rw [waiting, waiting, hp, hp', List.filter_append, List.filter_append, hnone,
    List.filter_cons_of_pos (by simp [number_of_first h hget]), List.nil_append, List.nil_append]

theorem waiting_remove (p : Pending) (n number : Int32) :
    (p.remove n).2.waiting number =
      if n = number then (p.waiting number).tail else p.waiting number := by
  rcases p.remove_cases n with ⟨slot, hfirst, hremove⟩ | ⟨hnone, hremove⟩
  · obtain ⟨r, hget, hn⟩ := hfirst.1
    rw [hremove]
    split
    · next heq => rw [← heq, waiting_of_first hfirst hget, List.tail_cons]
    · next hne => exact (waiting_take hget).1 number (hn ▸ hne)
  · rw [hremove]
    split
    · next heq => rw [← heq, waiting_eq_nil_iff.mpr hnone, List.tail_nil]
    · rfl

theorem Distinct.remove {p : Pending} (hd : p.Distinct) (n : Int32) : (p.remove n).2.Distinct := by
  intro number
  rw [waiting_remove]
  split
  · exact (hd number).sublist (List.tail_sublist _)
  · exact hd number

theorem remove_of_waiting_nil {p : Pending} {number : Int32} (h : p.waiting number = []) :
    (p.remove number).2 = p := by
  rcases p.remove_cases number with ⟨slot, hfirst, -⟩ | ⟨-, hremove⟩
  · obtain ⟨r, hget, -⟩ := hfirst.1
    rw [waiting_of_first hfirst hget] at h
    cases h
  · rw [hremove]

/-! ## A cache in which nothing waits -/

theorem slots_eq_none {p : Pending} (h : p.requests = []) : ∀ entry ∈ p.slots, entry = none := by
  intro entry hentry
  have hnone := List.filterMap_eq_nil_iff.mp h entry hentry
  exact hnone

theorem waiting_of_requests_nil {p : Pending} (h : p.requests = []) (number : Int32) :
    p.waiting number = [] := by
  simp [waiting, h]

/-- No slot is ready behind the first ones if all of them are free. -/
theorem readySlots_of_free {slots : List (Option Request)} (h : ∀ entry ∈ slots, entry = none)
    (ready : Request → Bool) (first : Nat) :
    ((slots.zipIdx first).filterMap fun (entry, slot) =>
      if entry.any ready then some slot else none) = [] := by
  refine List.filterMap_eq_nil_iff.mpr fun (entry, slot) hmem => ?_
  have hentry := h entry (List.fst_mem_of_mem_zipIdx hmem)
  simp [hentry]

theorem readySlots_of_requests_nil {p : Pending} (h : p.requests = []) (ready : Request → Bool) :
    p.readySlots ready = [] :=
  readySlots_of_free (slots_eq_none h) ready 0

/-- A request that is buffered where nothing waits goes to the first slot, and is the only one. When
it is taken out the cache is as it was. -/
theorem push_empty {p : Pending} {r : Request} (h : p.requests = []) (hroom : 0 < p.capacity)
    (hknown : r.isUnknown = false) :
    ∃ q, p.push r = .ok (0, q) ∧ q.get? 0 = some r ∧ (q.take 0).2 = p ∧
      (∀ ready, q.readySlots ready = if ready r then [0] else []) ∧
      ∀ number, r.number ≠ number → q.waiting number = [] := by
  obtain ⟨slots, live⟩ := p
  have hfree := slots_eq_none h
  obtain ⟨entry, others, rfl⟩ := List.exists_cons_of_length_pos hroom
  obtain rfl : entry = none := hfree entry (by simp)
  have hothers : ∀ entry ∈ others, entry = none := fun entry hentry =>
    hfree entry (List.mem_cons_of_mem none hentry)
  have hnew : ∀ i, ¬ Twin ⟨none :: others, live⟩ r i := by
    rintro i ⟨s, hget, -⟩
    have hmem := mem_requests_iff.mpr ⟨i, hget⟩
    rw [h] at hmem
    cases hmem
  have hpush := push_of_free hnew (i := 0) rfl fun j hj => absurd hj (Nat.not_lt_zero j)
  rw [entry_of_known hknown] at hpush
  refine ⟨⟨some r :: others, live + 1⟩, hpush, rfl, rfl, fun ready => ?_, fun number hn => ?_⟩
  · have hrest := readySlots_of_free hothers ready 1
    unfold readySlots
    rw [List.zipIdx_cons, List.filterMap_cons, hrest]
    by_cases hready : ready r = true
    · simp [hready]
    · simp [hready]
  · have hrest : others.filterMap id = [] :=
      List.filterMap_eq_nil_iff.mpr fun entry hentry => hothers entry hentry
    have hrequests : requests ⟨some r :: others, live + 1⟩ = [r] := by
      show (some r :: others).filterMap id = [r]
      rw [List.filterMap_cons, hrest]
      rfl
    simp [waiting, hrequests, hn]

end Pending

end GpuDebug
