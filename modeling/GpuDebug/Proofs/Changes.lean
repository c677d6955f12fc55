import GpuDebug.Proofs.Pending

/-!
# The pending cache after some changes

A request that is buffered stays in its slot until it is taken out, whatever happens to the other
slots.

* `Pending.Change`, `Pending.after`: the operations as data, and the cache after some of them.
* `Pending.Change.Frees`: the change takes the request out of a slot.
* `Pending.added`, `Pending.removed`: the requests that some changes put in and take out.
* `Pending.requests_after_perm`: they account for the requests that wait.
* `Pending.Apart`: no two slots hold requests of one number and one target. Changes keep it.
* `Pending.Faithful`: what the cache owes to the requests.
* `Pending.faithful_after`: the main result. No request is lost, doubled or altered.
-/

namespace GpuDebug.Pending

variable {p p' : Pending} {r : Request} {slot i : Nat}

/-! ## Changes -/

/-- There is room for the request: it does not wait already, and a slot is free. -/
def Admits (p : Pending) (r : Request) : Prop :=
  (∀ i, ¬ p.Twin r i) ∧ ∃ i, p.Free i

theorem admits_iff : p.Admits r ↔
    (∀ s ∈ p.requests, s.number = r.number → s.sameTarget r = false) ∧ none ∈ p.slots := by
  refine and_congr ⟨?_, ?_⟩ exists_free_iff
  · intro h s hs hn
    obtain ⟨i, hget⟩ := mem_requests_iff.mp hs
    exact Bool.eq_false_iff.mpr fun ht => h i ⟨s, hget, hn, ht⟩
  · rintro h i ⟨s, hget, hn, ht⟩
    rw [h s (mem_requests_iff.mpr ⟨i, hget⟩) hn] at ht
    cases ht

instance (p : Pending) (r : Request) : Decidable (p.Admits r) :=
  decidable_of_iff _ admits_iff.symm

/-- One operation on the cache. -/
inductive Change
  | push (r : Request)
  | take (slot : Nat)
  | remove (number : Int32)
  | clear

namespace Change

/-- The cache after a change. A request that finds no room changes nothing. -/
def run (p : Pending) : Change → Pending
  | push r =>
    match p.push r with
    | .ok (_, p') => p'
    | .error _ => p
  | take slot => (p.take slot).2
  | remove number => (p.remove number).2
  | clear => p.clear

/-- The change takes the request out of a slot. -/
def Frees (p : Pending) (slot : Nat) : Change → Prop
  | push _ => False
  | take i => i = slot
  | remove number => p.First number slot
  | clear => True

/-- The request that the change puts in, if there is room for it. -/
def added (p : Pending) : Change → List Request
  | push r => if p.Admits r then [r] else []
  | take _ | remove _ | clear => []

/-- The requests that the change takes out. -/
def removed (p : Pending) : Change → List Request
  | push _ => []
  | take slot => (p.get? slot).toList
  | remove number => (p.requests.find? (·.number == number)).toList
  | clear => p.requests

end Change

/-- The cache after some changes. -/
def after (p : Pending) (changes : List Change) : Pending :=
  changes.foldl Change.run p

/-- The requests that some changes put in, one after the other. -/
def added (p : Pending) : List Change → List Request
  | [] => []
  | c :: changes => c.added p ++ (c.run p).added changes

/-- The requests that some changes take out, one after the other. -/
def removed (p : Pending) : List Change → List Request
  | [] => []
  | c :: changes => c.removed p ++ (c.run p).removed changes

@[simp] theorem after_nil (p : Pending) : p.after [] = p := rfl

@[simp] theorem after_cons (p : Pending) (c : Change) (changes : List Change) :
    p.after (c :: changes) = (c.run p).after changes := rfl

theorem run_push_of_ok (h : p.push r = .ok (slot, p')) : (Change.push r).run p = p' := by
  rw [Change.run, h]

theorem run_push_of_error {e : Error} (h : p.push r = .error e) : (Change.push r).run p = p := by
  rw [Change.run, h]

/-! ## One change -/

namespace Change

theorem capacity_run (p : Pending) (c : Change) : (c.run p).capacity = p.capacity := by
  cases c with
  | push r =>
    cases hpush : p.push r with
    | ok pushed => rw [run_push_of_ok hpush, capacity_push hpush]
    | error e => rw [run_push_of_error hpush]
  | take slot => exact p.capacity_take slot
  | remove number => exact p.capacity_remove number
  | clear => simp [run, Pending.clear, ofCapacity, capacity]

/-- A request comes into a slot only by being buffered. -/
theorem get?_of_run {c : Change} (h : (c.run p).get? slot = some r) :
    p.get? slot = some r ∨ c = push r := by
  cases c with
  | push s =>
    cases hpush : p.push s with
    | error e =>
      rw [run_push_of_error hpush] at h
      exact .inl h
    | ok pushed =>
      rw [run_push_of_ok hpush] at h
      cases Pushes.of_eq hpush with
      | doubled => exact .inl h
      | stored hnew hfree =>
        rw [get?_set (lt_capacity_of_free hfree)] at h
        split at h
        · unfold entry at h
          split at h
          · cases h
          · cases h
            exact .inr rfl
        · exact .inl h
  | take i => exact .inl (get?_of_take h)
  | remove number =>
    rcases p.remove_cases number with ⟨i, -, hremove⟩ | ⟨-, hremove⟩
    · rw [run, hremove] at h
      exact .inl (get?_of_take h)
    · rw [run, hremove] at h
      exact .inl h
  | clear =>
    rw [run, Pending.clear, get?_ofCapacity] at h
    cases h

/-- A request stays in its slot unless the change takes it out. -/
theorem get?_run_of_not_frees {c : Change} (hget : p.get? slot = some r) (h : ¬ c.Frees p slot) :
    (c.run p).get? slot = some r := by
  cases c with
  | push s =>
    cases hpush : p.push s with
    | error e => rwa [run_push_of_error hpush]
    | ok pushed =>
      rw [run_push_of_ok hpush]
      cases Pushes.of_eq hpush with
      | doubled => exact hget
      | @stored i hnew hfree =>
        rw [get?_set (lt_capacity_of_free hfree), if_neg]
        · exact hget
        · rintro rfl
          rw [get?_of_free hfree] at hget
          cases hget
  | take i => rwa [run, get?_take, if_neg (fun heq => h heq.symm)]
  | remove number =>
    rcases p.remove_cases number with ⟨i, hfirst, hremove⟩ | ⟨-, hremove⟩
    · rw [run, hremove, get?_take, if_neg]
      · exact hget
      · rintro rfl
        exact h hfirst
    · rwa [run, hremove]
  | clear => exact absurd trivial h

/-- The change takes out what it frees. -/
theorem get?_run_of_frees {c : Change} (h : c.Frees p slot) : (c.run p).get? slot = none := by
  cases c with
  | push s => exact h.elim
  | take i =>
    cases h
    exact p.get?_take_self slot
  | remove number =>
    rcases p.remove_cases number with ⟨i, hfirst, hremove⟩ | ⟨hnone, -⟩
    · rw [run, hremove, hfirst.unique h]
      exact p.get?_take_self slot
    · obtain ⟨s, hget, hn⟩ := h.1
      exact absurd hn (hnone s (mem_requests_iff.mpr ⟨slot, hget⟩))
  | clear => exact get?_ofCapacity _ slot

/-- **A change keeps the account**: the requests that wait and those that it takes out are those
that waited and those that it puts in. -/
theorem requests_run_perm {c : Change} (hknown : ∀ r, c = push r → r.isUnknown = false) :
    ((c.run p).requests ++ c.removed p).Perm (p.requests ++ c.added p) := by
  cases c with
  | push r =>
    rw [removed, List.append_nil, added]
    cases hpush : p.push r with
    | error e =>
      rw [run_push_of_error hpush]
      cases Pushes.of_eq hpush with
      | full hnew hfull =>
        have hnot : ¬ p.Admits r := fun h => h.2.elim hfull
        rw [if_neg hnot, List.append_nil]
    | ok pushed =>
      rw [run_push_of_ok hpush]
      cases Pushes.of_eq hpush with
      | @doubled slot htwin =>
        have hnot : ¬ p.Admits r := fun h => h.1 slot htwin
        rw [if_neg hnot, List.append_nil]
      | @stored slot hnew hfree =>
        obtain ⟨before, after, -, hp, hset⟩ := requests_around hfree
        rw [if_pos ⟨hnew, slot, hfree⟩, hset, hp, entry_of_known (hknown r rfl), Option.toList_none,
          Option.toList_some, List.append_nil, List.append_assoc, List.append_assoc]
        exact (List.perm_append_comm).append_left before
  | take slot =>
    rw [added, List.append_nil, run, removed]
    cases hget : p.get? slot with
    | none => simp [take_of_get?_none hget]
    | some r => exact requests_take_perm hget
  | remove number =>
    rw [added, List.append_nil, run, removed]
    rcases p.remove_cases number with ⟨slot, hfirst, hremove⟩ | ⟨hnone, hremove⟩
    · obtain ⟨r, hget, -⟩ := hfirst.1
      rw [hremove, find?_requests_of_first hfirst hget]
      exact requests_take_perm hget
    · have hfind : p.requests.find? (·.number == number) = none :=
        List.find?_eq_none.mpr fun s hs => by simpa using hnone s hs
      simp [hremove, hfind]
  | clear =>
    rw [added, run, removed, Pending.clear, requests_ofCapacity, List.nil_append, List.append_nil]

end Change

/-! ## Some changes -/

/-- A request that waits in the end waited in the beginning or was buffered in between. -/
theorem get?_of_after {changes : List Change} (h : (p.after changes).get? slot = some r) :
    p.get? slot = some r ∨ .push r ∈ changes := by
  induction changes generalizing p with
  | nil => exact .inl h
  | cons c changes ih =>
    rcases ih h with hrun | hmem
    · rcases Change.get?_of_run hrun with hget | rfl
      · exact .inl hget
      · exact .inr List.mem_cons_self
    · exact .inr (List.mem_cons_of_mem c hmem)

theorem capacity_after (p : Pending) (changes : List Change) :
    (p.after changes).capacity = p.capacity := by
  induction changes generalizing p with
  | nil => rfl
  | cons c changes ih => rw [after_cons, ih, Change.capacity_run]

/-- **A request stays in its slot until a change takes it out.** -/
theorem kept_until_freed {changes : List Change} (hget : p.get? slot = some r) :
    (p.after changes).get? slot = some r ∨
      ∃ first c rest, changes = first ++ c :: rest ∧ (p.after first).get? slot = some r ∧
        c.Frees (p.after first) slot := by
  induction changes generalizing p with
  | nil => exact .inl hget
  | cons c changes ih =>
    by_cases hfrees : c.Frees p slot
    · exact .inr ⟨[], c, changes, rfl, hget, hfrees⟩
    · rcases ih (Change.get?_run_of_not_frees hget hfrees) with
        hkept | ⟨first, c', rest, rfl, hfirst, hfrees'⟩
      · exact .inl hkept
      · exact .inr ⟨c :: first, c', rest, rfl, hfirst, hfrees'⟩

/-- **Some changes keep the account.** -/
theorem requests_after_perm {changes : List Change}
    (hknown : ∀ r, Change.push r ∈ changes → r.isUnknown = false) :
    ((p.after changes).requests ++ p.removed changes).Perm (p.requests ++ p.added changes) := by
  induction changes generalizing p with
  | nil => exact .refl _
  | cons c changes ih =>
    have hfirst : ((c.run p).requests ++ c.removed p).Perm (p.requests ++ c.added p) :=
      Change.requests_run_perm fun r hr => hknown r (hr ▸ List.mem_cons_self)
    have hrest := ih (p := c.run p) fun r hr => hknown r (List.mem_cons_of_mem c hr)
    calc List.Perm
          (((c.run p).after changes).requests ++ (c.removed p ++ (c.run p).removed changes))
          (c.removed p ++ (((c.run p).after changes).requests ++ (c.run p).removed changes)) :=
        List.perm_append_comm_assoc _ _ _
      List.Perm _ (c.removed p ++ ((c.run p).requests ++ (c.run p).added changes)) :=
        hrest.append_left _
      List.Perm _ ((c.run p).requests ++ c.removed p ++ (c.run p).added changes) := by
        rw [← List.append_assoc]
        exact List.perm_append_comm.append_right _
      List.Perm _ (p.requests ++ c.added p ++ (c.run p).added changes) := hfirst.append_right _
      _ = p.requests ++ (c.added p ++ (c.run p).added changes) := List.append_assoc _ _ _

/-- No two slots hold requests of one number and one target. -/
def Apart (p : Pending) : Prop :=
  ∀ i j r s, p.get? i = some r → p.get? j = some s → r.number = s.number →
    r.sameTarget s = true → i = j

/-- No two slots hold such requests exactly if no two waiting requests are such. -/
theorem apart_iff_distinct : p.Apart ↔ p.Distinct := by
  have hslots : p.Distinct ↔ ∀ i j r s, i < j → p.get? i = some r → p.get? j = some s →
      r.number = s.number → r.sameTarget s = false := by
    simp only [Distinct, waiting, requests, List.pairwise_filter, List.pairwise_filterMap]
    simp only [List.pairwise_iff_getElem, get?_eq_some, List.getElem?_eq_some_iff, beq_iff_eq, id]
    constructor
    · rintro h i j r s hlt ⟨hi, hr⟩ ⟨hj, hs⟩ hn
      exact h s.number i j hi hj hlt r hr s hs hn rfl
    · rintro h number i j hi hj hlt r hr s hs hn rfl
      exact h i j r s hlt ⟨hi, hr⟩ ⟨hj, hs⟩ hn
  rw [hslots]
  constructor
  · intro h i j r s hlt hr hs hn
    exact Bool.eq_false_iff.mpr fun ht => Nat.ne_of_lt hlt (h i j r s hr hs hn ht)
  · intro h i j r s hr hs hn ht
    rcases Nat.lt_trichotomy i j with hlt | heq | hlt
    · rw [h i j r s hlt hr hs hn] at ht
      cases ht
    · exact heq
    · rw [Request.sameTarget_comm, h j i s r hlt hs hr hn.symm] at ht
      cases ht

namespace Apart

theorem ofCapacity (capacity : Nat) : (ofCapacity capacity).Apart := by
  intro i j r s hr
  rw [get?_ofCapacity] at hr
  cases hr

theorem run (h : p.Apart) (c : Change) : (c.run p).Apart := by
  rw [apart_iff_distinct] at h ⊢
  cases c with
  | push r =>
    cases hpush : p.push r with
    | error e => rwa [run_push_of_error hpush]
    | ok pushed =>
      rw [run_push_of_ok hpush]
      exact h.push hpush
  | take slot => exact h.take slot
  | remove number => exact h.remove number
  | clear => exact distinct_ofCapacity _

theorem after (h : p.Apart) (changes : List Change) : (p.after changes).Apart := by
  induction changes generalizing p with
  | nil => exact h
  | cons c changes ih => exact ih (h.run c)

end Apart

/-- A request has one twin at most. -/
theorem Apart.twin_unique {j : Nat} (h : p.Apart) (hi : p.Twin r i) (hj : p.Twin r j) : i = j := by
  obtain ⟨s, hs, hn, ht⟩ := hi
  obtain ⟨s', hs', hn', ht'⟩ := hj
  refine h i j s s' hs hs' (hn.trans hn'.symm) (Request.sameTarget_trans ht ?_)
  exact (Request.sameTarget_comm r s').trans ht'

/-! ## What the cache owes to the requests -/

/-- What a new cache owes to the requests, after some changes and in all that come later. -/
structure Faithful (capacity : Nat) (changes : List Change) (p : Pending) : Prop where
  apart : p.Apart
  /-- What waits was buffered, as it is. -/
  buffered : ∀ i r, p.get? i = some r → .push r ∈ changes
  /-- It stays where it is until a change takes it out of there. -/
  stays : ∀ i r later, p.get? i = some r → (p.after later).get? i = some r ∨
    ∃ first c rest, later = first ++ c :: rest ∧ (p.after first).get? i = some r ∧
      c.Frees (p.after first) i
  /-- What a change takes out of a slot is no longer there. -/
  freed : ∀ i (c : Change), c.Frees p i → (c.run p).get? i = none
  /-- Taking a request out gives what the slot holds. -/
  taken : ∀ i, (p.take i).1 = p.get? i
  doubled : ∀ i r, p.Twin r i → p.push r = .ok (i, p)
  /-- A request without a twin goes to the lowest free slot, and the other slots stay the same. -/
  stored : ∀ i r, r.isUnknown = false → (∀ j, ¬ p.Twin r j) → p.Free i → (∀ j < i, ¬ p.Free j) →
    ∃ p', p.push r = .ok (i, p') ∧ p'.capacity = capacity ∧
      ∀ j, p'.get? j = if j = i then some r else p.get? j
  full : ∀ r, p.push r = .error (.cacheFull capacity) ↔
    (∀ j, ¬ p.Twin r j) ∧ ∀ j < capacity, ¬ p.Free j
  /-- A request that finds no room changes nothing. -/
  refused : ∀ r e, p.push r = .error e → e = .cacheFull capacity ∧ (Change.push r).run p = p
  /-- The requests that wait are those that were put in, less those that were taken out. -/
  account : (p.requests ++ (ofCapacity capacity).removed changes).Perm
    ((ofCapacity capacity).added changes)

theorem push_of_twin (h : p.Apart) (htwin : p.Twin r i) : p.push r = .ok (i, p) := by
  cases hpush : p.push r with
  | ok pushed =>
    cases Pushes.of_eq hpush with
    | doubled htwin' => rw [h.twin_unique htwin htwin']
    | stored hnew => exact absurd htwin (hnew i)
  | error e =>
    cases Pushes.of_eq hpush with
    | full hnew => exact absurd htwin (hnew i)

/-- **The cache neither loses, doubles nor alters a request**, whatever it was used for. -/
theorem faithful_after (capacity : Nat) (changes : List Change)
    (hknown : ∀ r, Change.push r ∈ changes → r.isUnknown = false) :
    Faithful capacity changes ((ofCapacity capacity).after changes) := by
  have hempty : (ofCapacity capacity).capacity = capacity := List.length_replicate
  have hcapacity := (capacity_after (ofCapacity capacity) changes).trans hempty
  have hapart := (Apart.ofCapacity capacity).after changes
  generalize hp : (ofCapacity capacity).after changes = p at hcapacity hapart ⊢
  refine
    { apart := hapart
      buffered := fun i r hget => ?_
      stays := fun i r later hget => kept_until_freed hget
      freed := fun i c hfrees => Change.get?_run_of_frees hfrees
      taken := p.take_fst
      doubled := fun i r htwin => push_of_twin hapart htwin
      stored := fun i r hr hnew hfree hlowest => ?_
      full := fun r => ?_
      refused := fun r e hpush => ?_
      account := ?_ }
  · rw [← hp] at hget
    refine (get?_of_after hget).resolve_left ?_
    rw [get?_ofCapacity]
    exact nofun
  · refine ⟨_, push_of_free hnew hfree hlowest, ?_, fun j => ?_⟩
    · exact (List.length_set).trans hcapacity
    · rw [get?_set (lt_capacity_of_free hfree), entry_of_known hr]
  · rw [← hcapacity, push_eq_error_iff]
    refine and_congr_right fun _ => ⟨fun hfull j _ => hfull j, fun hfull j hfree => ?_⟩
    exact hfull j (lt_capacity_of_free hfree) hfree
  · exact ⟨hcapacity ▸ error_of_push hpush, run_push_of_error hpush⟩
  · rw [← hp, ← List.nil_append (added _ _), ← requests_ofCapacity capacity]
    exact requests_after_perm hknown

/-- Two slots. The first is freed and taken by another request; then the second request is buffered
once more, and one that finds no room. -/
theorem faithful_after_reuse :
    let a : Request := ⟨1, .any, .kernel "a"⟩
    let b : Request := ⟨2, .any, .kernel "b"⟩
    let c : Request := ⟨3, .any, .source none 4 none⟩
    let d : Request := ⟨4, .any, .anywhere "*"⟩
    let changes : List Change := [.push a, .push b, .remove 1, .push c, .push b, .push d]
    (∀ r, .push r ∈ changes → r.isUnknown = false) ∧
      Faithful 2 changes ((ofCapacity 2).after changes) ∧
      (ofCapacity 2).after changes = ⟨[some c, some b], 2⟩ := by
  intro a b c d changes
  have hknown : ∀ r, Change.push r ∈ changes → r.isUnknown = false := by
    intro r hr
    simp only [changes, List.mem_cons, Change.push.injEq, reduceCtorEq, List.not_mem_nil, or_false,
      false_or] at hr
    rcases hr with rfl | rfl | rfl | rfl | rfl <;> rfl
  exact ⟨hknown, faithful_after 2 changes hknown, by decide⟩

end GpuDebug.Pending
