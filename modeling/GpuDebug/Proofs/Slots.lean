import GpuDebug.Breakpoint.Pending
import Mathlib.Data.List.Basic

/-!
# The slots of the pending cache

What the operations of the pending cache do to each slot, and to the requests in slot order. A
request that is buffered goes to the lowest free slot; taking one out frees its slot.

* `Pending.Free`, `Pending.Twin`, `Pending.First`: a slot that is free, one whose request has the
  number and the target of another request, and the first one of a number.
* `Pending.requests_around`: the requests before and after a slot, whatever is put into it.
* `Pending.take_requests`, `Pending.get?_take`: taking a request out.
* `Pending.remove_cases`: dropping a request of a number takes it out of the first slot.
* `Pending.readySlots_pairwise_lt`, `Pending.filterMap_get?_readySlots`: the ready slots ascend, and
  hold the ready requests.
* `Pending.pushes`: what buffering a request comes to, slot by slot.
-/

namespace GpuDebug.Pending

variable {p p' : Pending} {r s : Request} {slot i : Nat} {number : Int32}

/-! ## What a slot holds -/

/-- The slot exists and holds no request. -/
def Free (p : Pending) (slot : Nat) : Prop :=
  p.slots[slot]? = some none

/-- The request of the slot has the number and the target of another one. -/
def Twin (p : Pending) (r : Request) (slot : Nat) : Prop :=
  ∃ s, p.get? slot = some s ∧ s.number = r.number ∧ s.sameTarget r = true

/-- The slot is the first one with a request of the number. -/
def First (p : Pending) (number : Int32) (slot : Nat) : Prop :=
  (∃ s, p.get? slot = some s ∧ s.number = number) ∧
    ∀ i < slot, ∀ s, p.get? i = some s → s.number ≠ number

theorem get?_eq_some : p.get? slot = some r ↔ p.slots[slot]? = some (some r) := by
  unfold get?
  cases p.slots[slot]? with
  | none => simp
  | some entry => cases entry <;> simp

theorem get?_of_free (h : p.Free slot) : p.get? slot = none := by
  rw [get?, h]
  rfl

theorem get?_ofCapacity (capacity slot : Nat) : (ofCapacity capacity).get? slot = none := by
  unfold get? ofCapacity
  rw [List.getElem?_replicate]
  split <;> rfl

theorem get?_set {entry : Option Request} (h : slot < p.capacity) (live i : Nat) :
    get? ⟨p.slots.set slot entry, live⟩ i = if i = slot then entry else p.get? i := by
  unfold get?
  by_cases hi : i = slot
  · subst hi
    rw [if_pos rfl, List.getElem?_set_self h]
    rfl
  · rw [if_neg hi, List.getElem?_set_ne (Ne.symm hi)]

theorem lt_capacity_of_get? (h : p.get? slot = some r) : slot < p.capacity :=
  (List.getElem?_eq_some_iff.mp (get?_eq_some.mp h)).1

theorem lt_capacity_of_free (h : p.Free slot) : slot < p.capacity :=
  (List.getElem?_eq_some_iff.mp h).1

theorem exists_free_iff : (∃ slot, p.Free slot) ↔ none ∈ p.slots :=
  List.mem_iff_getElem?.symm

theorem mem_requests_iff : r ∈ p.requests ↔ ∃ slot, p.get? slot = some r := by
  have hmem : r ∈ p.requests ↔ some r ∈ p.slots := by simp [requests]
  rw [hmem, List.mem_iff_getElem?]
  exact exists_congr fun slot => get?_eq_some.symm

theorem requests_ofCapacity (capacity : Nat) : (ofCapacity capacity).requests = [] := by
  simp [ofCapacity, requests]

/-- The requests around a slot, whatever the slot holds. -/
theorem requests_around {entry : Option Request}
    (h : p.slots[slot]? = some entry) :
    ∃ before after, before = (p.slots.take slot).filterMap id ∧
      p.requests = before ++ entry.toList ++ after ∧
      ∀ entry' live, requests ⟨p.slots.set slot entry', live⟩ =
        before ++ entry'.toList ++ after := by
  obtain ⟨hlt, hentry⟩ := List.getElem?_eq_some_iff.mp h
  have toList_eq : ∀ (e : Option Request) l,
      (e :: l).filterMap id = e.toList ++ l.filterMap id := by
    intro e l
    cases e <;> rfl
  refine ⟨_, (p.slots.drop (slot + 1)).filterMap id, rfl, ?_, ?_⟩
  · have hsplit : p.slots = p.slots.take slot ++ entry :: p.slots.drop (slot + 1) := by
      rw [← hentry, List.getElem_cons_drop, List.take_append_drop]
    calc p.requests
        = (p.slots.take slot ++ entry :: p.slots.drop (slot + 1)).filterMap id := by
          rw [← hsplit]; rfl
      _ = _ := by rw [List.filterMap_append, toList_eq, List.append_assoc]
  · intro entry' live
    unfold requests
    rw [List.set_eq_take_append_cons_drop, if_pos hlt, List.filterMap_append, toList_eq,
      List.append_assoc]

/-! ## Taking a request out -/

theorem take_of_get?_none (h : p.get? slot = none) : p.take slot = (none, p) := by
  rw [take, h]

/-- What is taken out of a slot is what the slot holds. -/
theorem take_fst (p : Pending) (slot : Nat) : (p.take slot).1 = p.get? slot := by
  unfold take
  split
  · next hget => rw [hget]
  · next hget => rw [hget]

/-- Taking a request out frees its slot, and leaves the others as they are. -/
theorem get?_take (p : Pending) (slot i : Nat) :
    (p.take slot).2.get? i = if i = slot then none else p.get? i := by
  unfold take
  split
  · next hget => exact get?_set (lt_capacity_of_get? hget) _ i
  · next hget =>
    split
    · next hi => rw [hi, hget]
    · rfl

theorem get?_take_self (p : Pending) (slot : Nat) : (p.take slot).2.get? slot = none := by
  rw [get?_take, if_pos rfl]

/-- Taking a request out puts none into another slot. -/
theorem get?_of_take (h : (p.take slot).2.get? i = some r) : p.get? i = some r := by
  rw [get?_take] at h
  split at h
  · cases h
  · exact h

/-- Taking a request out leaves the others, and a free slot. -/
theorem take_requests (h : p.get? slot = some r) :
    ∃ p' before after, p.take slot = (some r, p') ∧ p.requests = before ++ r :: after ∧
      p'.requests = before ++ after ∧ none ∈ p'.slots := by
  obtain ⟨before, after, -, hp, hset⟩ := requests_around (get?_eq_some.mp h)
  refine ⟨⟨p.slots.set slot none, p.live - 1⟩, before, after, ?_, ?_, ?_, ?_⟩
  · rw [take, h]
  · rw [hp, Option.toList_some, List.append_assoc, List.singleton_append]
  · rw [hset, Option.toList_none, List.append_nil]
  · have hlt := (List.getElem?_eq_some_iff.mp (get?_eq_some.mp h)).1
    exact List.mem_of_getElem? (i := slot) (by rw [List.getElem?_set_self hlt])

theorem requests_take_perm (h : p.get? slot = some r) :
    ((p.take slot).2.requests ++ [r]).Perm p.requests := by
  obtain ⟨p', before, after, htake, hp, hp', -⟩ := take_requests h
  rw [htake, hp, show p'.requests = before ++ after from hp', List.append_assoc]
  exact List.perm_append_comm.append_left before

theorem capacity_take (p : Pending) (slot : Nat) : (p.take slot).2.capacity = p.capacity := by
  unfold take
  split
  · exact List.length_set
  · rfl

/-! ## Dropping the first request of a number -/

/-- Dropping a request of a number takes it out of the first slot that holds one. -/
theorem remove_cases (p : Pending) (number : Int32) :
    (∃ slot, p.First number slot ∧ p.remove number = (true, (p.take slot).2)) ∨
      (∀ s ∈ p.requests, s.number ≠ number) ∧ p.remove number = (false, p) := by
  unfold remove
  cases hfind : p.slots.findIdx? (hasNumber number) with
  | none =>
    refine .inr ⟨fun s hs hn => ?_, rfl⟩
    obtain ⟨i, hget⟩ := mem_requests_iff.mp hs
    have hno := List.findIdx?_eq_none_iff.mp hfind _
      (List.mem_of_getElem? (get?_eq_some.mp hget))
    simp [hasNumber, hn] at hno
  | some slot =>
    obtain ⟨hlt, hslot, hfirst⟩ := List.findIdx?_eq_some_iff_getElem.mp hfind
    have hat : ∀ i s (hi : i < p.slots.length), p.get? i = some s →
        hasNumber number p.slots[i] = (s.number == number) := by
      intro i s hi hget
      rw [get?_eq_some, List.getElem?_eq_getElem hi, Option.some.injEq] at hget
      rw [hget]
      rfl
    obtain ⟨s, hget⟩ : ∃ s, p.get? slot = some s := by
      cases hs : p.slots[slot] with
      | none => simp [hs, hasNumber] at hslot
      | some s => exact ⟨s, by rw [get?_eq_some, List.getElem?_eq_getElem hlt, hs]⟩
    refine .inl ⟨slot, ⟨⟨s, hget, ?_⟩, fun i hi s' hget' hn => hfirst i hi ?_⟩, ?_⟩
    · simpa [hat slot s hlt hget] using hslot
    · rw [hat i s' (Nat.lt_trans hi hlt) hget', hn, beq_self_eq_true]
    · rw [take, hget]

theorem First.unique {j : Nat} (h : p.First number i) (h' : p.First number j) : i = j := by
  obtain ⟨s, hs, hn⟩ := h.1
  obtain ⟨s', hs', hn'⟩ := h'.1
  rcases Nat.lt_trichotomy i j with hlt | heq | hlt
  · exact absurd hn (h'.2 i hlt s hs)
  · exact heq
  · exact absurd hn' (h.2 j hlt s' hs')

/-- No request before the first slot of a number has the number. -/
theorem requests_of_first (h : p.First number slot) (hget : p.get? slot = some r) :
    ∃ before after, (∀ s ∈ before, s.number ≠ number) ∧ p.requests = before ++ r :: after ∧
      (p.take slot).2.requests = before ++ after := by
  obtain ⟨before, after, hbefore, hp, hset⟩ := requests_around (get?_eq_some.mp hget)
  refine ⟨before, after, fun s hs => ?_, ?_, ?_⟩
  · rw [hbefore] at hs
    obtain ⟨entry, hentry, rfl⟩ := List.mem_filterMap.mp hs
    obtain ⟨i, hi⟩ := List.mem_iff_getElem?.mp hentry
    rw [List.getElem?_take] at hi
    split at hi
    · next hlt => exact h.2 i hlt s (get?_eq_some.mpr hi)
    · cases hi
  · rw [hp, Option.toList_some, List.append_assoc, List.singleton_append]
  · rw [take, hget]
    exact (hset none _).trans (by rw [Option.toList_none, List.append_nil])

theorem number_of_first (h : p.First number slot) (hget : p.get? slot = some r) :
    r.number = number := by
  obtain ⟨s, hs, hn⟩ := h.1
  cases hget.symm.trans hs
  exact hn

/-- The first slot of a number holds the first request of the number. -/
theorem find?_requests_of_first (h : p.First number slot) (hget : p.get? slot = some r) :
    p.requests.find? (·.number == number) = some r := by
  obtain ⟨before, after, hbefore, hp, -⟩ := requests_of_first h hget
  have hnone : before.find? (·.number == number) = none :=
    List.find?_eq_none.mpr fun s hs => by simpa using hbefore s hs
  rw [hp, List.find?_append, hnone]
  simp [number_of_first h hget]

theorem capacity_remove (p : Pending) (number : Int32) :
    (p.remove number).2.capacity = p.capacity := by
  rcases p.remove_cases number with ⟨slot, -, h⟩ | ⟨-, h⟩
  · rw [h, capacity_take]
  · rw [h]

/-! ## Ready slots -/

theorem mem_readySlots {ready : Request → Bool} (hget : p.get? slot = some r) (h : ready r = true) :
    slot ∈ p.readySlots ready := by
  refine List.mem_filterMap.mpr ⟨(some r, slot), ?_, ?_⟩
  · exact List.mem_zipIdx_iff_getElem?.mpr (get?_eq_some.mp hget)
  · simp [h]

/-- The request of a ready slot is ready. -/
theorem ready_of_mem_readySlots {ready : Request → Bool} (h : slot ∈ p.readySlots ready)
    (hget : p.get? slot = some r) : ready r = true := by
  obtain ⟨⟨entry, i⟩, hmem, hentry⟩ := List.mem_filterMap.mp h
  dsimp only at hentry
  split at hentry
  · next hready =>
    cases hentry
    have hslot := List.mem_zipIdx_iff_getElem?.mp hmem
    cases hslot.symm.trans (get?_eq_some.mp hget)
    exact hready
  · cases hentry

theorem readySlots_pairwise_lt (p : Pending) (ready : Request → Bool) :
    (p.readySlots ready).Pairwise (· < ·) := by
  have hindices : p.slots.zipIdx.Pairwise fun a b => a.2 < b.2 := by
    rw [← List.pairwise_map, List.zipIdx_map_snd]
    exact List.pairwise_lt_range'
  refine hindices.filterMap _ fun a a' hlt i hi i' hi' => ?_
  dsimp only at hi hi'
  split at hi <;> cases hi
  split at hi' <;> cases hi'
  exact hlt

/-- The requests of the ready slots, in their order. -/
theorem filterMap_get?_readySlots (p : Pending) (ready : Request → Bool) :
    (p.readySlots ready).filterMap p.get? = p.requests.filter ready := by
  have hentry : ∀ a ∈ p.slots.zipIdx,
      ((if a.1.any ready then some a.2 else none).bind p.get?) =
        if a.1.any ready then a.1 else none := by
    rintro ⟨entry, i⟩ hmem
    have hslot := List.mem_zipIdx_iff_getElem?.mp hmem
    dsimp only at hslot ⊢
    split
    · change p.get? i = entry
      rw [get?, hslot]
      rfl
    · rfl
  calc (p.readySlots ready).filterMap p.get?
      = p.slots.zipIdx.filterMap fun a => if a.1.any ready then a.1 else none := by
        rw [readySlots, List.filterMap_filterMap]
        exact List.filterMap_congr hentry
    _ = (p.slots.zipIdx.map Prod.fst).filterMap fun entry =>
          if entry.any ready then entry else none := by
        rw [List.filterMap_map]
        rfl
    _ = p.requests.filter ready := by
        rw [List.zipIdx_map_fst, requests, List.filter_filterMap]
        refine List.filterMap_congr fun entry _ => ?_
        cases entry with
        | none => rfl
        | some r => by_cases h : ready r = true <;> simp [h, Option.filter]

/-! ## Buffering a request -/

/-- What a slot holds once a request was put into it. -/
def entry (r : Request) : Option Request :=
  if r.isUnknown then none else some r

theorem entry_of_known (h : r.isUnknown = false) : entry r = some r := by
  rw [entry, h]
  rfl

/-- What buffering a request comes to: it is there already, or it goes to the lowest free slot, or
there is none. -/
inductive Pushes (p : Pending) (r : Request) : Except Error (Nat × Pending) → Prop
  | doubled {slot : Nat} (h : p.Twin r slot) : Pushes p r (.ok (slot, p))
  | stored {slot : Nat} (hnew : ∀ i, ¬ p.Twin r i) (hfree : p.Free slot)
      (hlowest : ∀ i < slot, ¬ p.Free i) :
      Pushes p r (.ok (slot, ⟨p.slots.set slot (entry r), p.live + 1⟩))
  | full (hnew : ∀ i, ¬ p.Twin r i) (hfull : ∀ i, ¬ p.Free i) :
      Pushes p r (.error (.cacheFull p.capacity))

theorem isDuplicate_iff {slot : Nat} (h : slot < p.slots.length) :
    isDuplicate r p.slots[slot] = true ↔ p.Twin r slot := by
  have hget : p.get? slot = p.slots[slot] := by
    rw [get?, List.getElem?_eq_getElem h]
    rfl
  rw [Twin, hget]
  cases p.slots[slot] <;> simp [isDuplicate]

/-- **What buffering a request comes to.** -/
theorem pushes (p : Pending) (r : Request) : Pushes p r (p.push r) := by
  unfold push
  cases hdup : p.slots.findIdx? (isDuplicate r) with
  | some slot =>
    obtain ⟨hlt, hslot, -⟩ := List.findIdx?_eq_some_iff_getElem.mp hdup
    exact .doubled ((isDuplicate_iff hlt).mp hslot)
  | none =>
    have hnew : ∀ i, ¬ p.Twin r i := by
      intro i htwin
      have hlt : i < p.slots.length := by
        obtain ⟨s, hget, -⟩ := htwin
        exact lt_capacity_of_get? hget
      have hno := List.findIdx?_eq_none_iff.mp hdup _ (List.getElem_mem hlt)
      rw [(isDuplicate_iff hlt).mpr htwin] at hno
      cases hno
    cases hfree : p.slots.findIdx? (·.isNone) with
    | none =>
      refine .full hnew fun i hi => ?_
      simpa using List.findIdx?_eq_none_iff.mp hfree _ (List.mem_of_getElem? hi)
    | some slot =>
      obtain ⟨hlt, hslot, hlowest⟩ := List.findIdx?_eq_some_iff_getElem.mp hfree
      refine .stored hnew ?_ fun i hi hempty => ?_
      · rw [Free, List.getElem?_eq_getElem hlt, Option.isNone_iff_eq_none.mp hslot]
      · obtain ⟨hlt', heq⟩ := List.getElem?_eq_some_iff.mp hempty
        exact hlowest i hi (by rw [heq]; rfl)

theorem Pushes.of_eq {x : Except Error (Nat × Pending)} (h : p.push r = x) : Pushes p r x :=
  h ▸ p.pushes r

/-- A request finds no room exactly if it is not there already and no slot is free. -/
theorem push_eq_error_iff :
    p.push r = .error (.cacheFull p.capacity) ↔ (∀ i, ¬ p.Twin r i) ∧ ∀ i, ¬ p.Free i := by
  constructor
  · intro h
    cases Pushes.of_eq h with
    | full hnew hfull => exact ⟨hnew, hfull⟩
  · rintro ⟨hnew, hfull⟩
    cases hpush : p.push r with
    | error e =>
      cases Pushes.of_eq hpush with
      | full => rfl
    | ok pushed =>
      cases Pushes.of_eq hpush with
      | @doubled slot htwin => exact absurd htwin (hnew slot)
      | @stored slot _ hfree => exact absurd hfree (hfull slot)

theorem capacity_push (h : p.push r = .ok (slot, p')) : p'.capacity = p.capacity := by
  cases Pushes.of_eq h with
  | doubled => rfl
  | stored => exact List.length_set

/-- Buffering fails for want of a free slot only. -/
theorem error_of_push {e : Error} (h : p.push r = .error e) : e = .cacheFull p.capacity := by
  cases Pushes.of_eq h with
  | full => rfl

/-- A request without a twin goes to the lowest free slot. -/
theorem push_of_free (hnew : ∀ j, ¬ p.Twin r j) (hfree : p.Free i) (hlowest : ∀ j < i, ¬ p.Free j) :
    p.push r = .ok (i, ⟨p.slots.set i (entry r), p.live + 1⟩) := by
  cases hpush : p.push r with
  | ok pushed =>
    cases Pushes.of_eq hpush with
    | @doubled j htwin => exact absurd htwin (hnew j)
    | @stored j _ hfree' hlowest' =>
      rcases Nat.lt_trichotomy i j with hlt | rfl | hlt
      · exact absurd hfree (hlowest' i hlt)
      · rfl
      · exact absurd hfree' (hlowest j hlt)
  | error e =>
    cases Pushes.of_eq hpush with
    | full _ hfull => exact absurd hfree (hfull i)

end GpuDebug.Pending
