import GpuDebug.Proofs.Pending

/-!
# Buffering requests anew

Without debug information, resolving a breakpoint on a source line again only buffers its request
anew: the request of its number that waits is dropped, and the one that the host stores is put into
a free slot. Dropping a request frees a slot, so only a request that did not wait before can find
the cache full.

* `Pending.renew`, `Pending.renewAll`: buffering one request anew, and some of them.
* `Pending.Renewable`: a request on a source line, with one request of its number at most waiting,
  which is on a source line as well.
* `Pending.waiting_renewAll`: such requests wait afterwards, unless the cache is full.
* `Pending.offSource_renewAll`: the other requests wait as before.
-/

namespace GpuDebug.Pending

/-- Drops the first request of a number that waits, and buffers another one if there is room. -/
def renew (p : Pending) (r : Request) : Pending :=
  match (p.remove r.number).2.push r with
  | .ok (_, p') => p'
  | .error _ => (p.remove r.number).2

/-- Buffers some requests anew. -/
def renewAll (p : Pending) (rs : List Request) : Pending :=
  rs.foldl renew p

/-- The requests that wait for source lines. -/
def onSource (p : Pending) : List Request :=
  p.requests.filter (·.kind == .source)

/-- The other requests that wait. -/
def offSource (p : Pending) : List Request :=
  p.requests.filter (·.kind != .source)

theorem mem_onSource_of_waiting {p : Pending} {r : Request} {number : Int32}
    (hr : r ∈ p.waiting number) (hkind : r.kind = .source) : r ∈ p.onSource :=
  List.mem_filter.mpr ⟨(mem_waiting.mp hr).1, beq_iff_eq.mpr hkind⟩

/-- The request is for a source line, and so is the only one of its number that may wait. -/
structure Renewable (p : Pending) (r : Request) : Prop where
  source : r.kind = .source
  single : (p.waiting r.number).length ≤ 1
  waiting : ∀ s ∈ p.waiting r.number, s.kind = .source

/-- No slot is free. -/
def Full (p : Pending) : Prop :=
  p.capacity ≤ p.requests.length

variable {p : Pending} {r : Request} {rs : List Request} {number : Int32}

/-! ## Slots and requests -/

/-- If no slot is free, every slot has a request. -/
theorem full_of_none_notMem (h : none ∉ p.slots) : p.Full := by
  have hall : ∀ slots : List (Option Request), none ∉ slots →
      (slots.filterMap id).length = slots.length := by
    intro slots hnone
    induction slots with
    | nil => rfl
    | cons entry slots ih =>
      rw [List.mem_cons, not_or] at hnone
      cases entry with
      | none => exact absurd rfl hnone.1
      | some s =>
        have hcons : (some s :: slots).filterMap id = s :: slots.filterMap id := rfl
        rw [hcons, List.length_cons, List.length_cons, ih hnone.2]
  exact Nat.le_of_eq (hall p.slots h).symm

theorem length_offSource_add (p : Pending) :
    p.offSource.length + p.onSource.length = p.requests.length := by
  unfold offSource onSource
  induction p.requests with
  | nil => rfl
  | cons s requests ih =>
    by_cases hs : s.kind = .source
    · rw [List.filter_cons_of_neg (by simp [hs]), List.filter_cons_of_pos (by simp [hs]),
        List.length_cons, List.length_cons, ← ih, Nat.add_assoc]
    · rw [List.filter_cons_of_pos (by simp [hs]), List.filter_cons_of_neg (by simp [hs]),
        List.length_cons, List.length_cons, ← ih, Nat.add_right_comm]

/-- Taking a request out leaves the others, whichever of them are looked at. -/
theorem filter_take {keep : Request → Bool} {slot : Nat} (hget : p.get? slot = some r)
    (hkeep : ¬ keep r = true) :
    (p.take slot).2.requests.filter keep = p.requests.filter keep := by
  obtain ⟨p', before, after, htake, hp, hp', -⟩ := take_requests hget
  rw [htake, hp, show p'.requests = _ from hp', List.filter_append, List.filter_append,
    List.filter_cons_of_neg hkeep]

/-! ## One request -/

/-- What dropping a request for a source line leaves of the others. -/
theorem offSource_remove (h : ∀ s ∈ p.waiting number, s.kind = .source) :
    (p.remove number).2.offSource = p.offSource ∧
      p.requests.length ≤ (p.remove number).2.requests.length + 1 := by
  rcases p.remove_cases number with ⟨slot, hfirst, hremove⟩ | ⟨-, hremove⟩
  · obtain ⟨s, hget, rfl⟩ := hfirst.1
    rw [hremove]
    refine ⟨filter_take hget (by simp [h s (mem_waiting_of_get? hget)]), Nat.le_of_eq ?_⟩
    obtain ⟨p', before, after, htake, hp, hp', -⟩ := take_requests hget
    rw [htake, hp, show p'.requests = _ from hp', List.length_append, List.length_append,
      List.length_cons, Nat.add_assoc]
  · rw [hremove]
    exact ⟨rfl, Nat.le_succ _⟩

/-- What buffering a request anew comes to: there is a free slot for it, or nothing of its number
waited and the cache is full. -/
theorem renew_cases (h : p.Renewable r) :
    (∃ slot before after, (p.remove r.number).2.push r = .ok (slot, p.renew r) ∧
      (p.remove r.number).2.requests = before ++ after ∧
      (p.renew r).requests = before ++ r :: after) ∨
    (p.Full ∧ p.waiting r.number = [] ∧ p.renew r = p) := by
  have hnil : (p.remove r.number).2.waiting r.number = [] := by
    apply List.eq_nil_of_length_eq_zero
    have hsingle := h.single
    rw [waiting_remove, if_pos rfl, List.length_tail]
    omega
  have hoccupant : occupant r = [r] := by
    refine occupant_of_known ?_
    rw [Request.isUnknown, h.source]
    rfl
  rcases (p.remove r.number).2.push_cases r with ⟨slot, s, -, hs, hn, -⟩ |
    ⟨-, ⟨slot, p', before, after, hpush, hbefore, hafter⟩ | ⟨hpush, hfree⟩⟩
  · have hmem := mem_waiting.mpr ⟨hs, hn⟩
    rw [hnil] at hmem
    cases hmem
  · have hrenew : p.renew r = p' := by rw [renew, hpush]
    rw [hoccupant, List.append_assoc, List.singleton_append] at hafter
    rw [hrenew]
    exact .inl ⟨slot, before, after, hpush, hbefore, hafter⟩
  · have hrenew : p.renew r = (p.remove r.number).2 := by rw [renew, hpush]
    rcases p.remove_cases r.number with ⟨slot, hfirst, hremove⟩ | ⟨hnone, hremove⟩
    · obtain ⟨s, hget, -⟩ := hfirst.1
      obtain ⟨p', -, -, htake, -, -, hempty⟩ := take_requests hget
      rw [hremove, htake] at hfree
      exact absurd hempty hfree
    · rw [hremove] at hfree hrenew
      exact .inr ⟨full_of_none_notMem hfree, waiting_eq_nil_iff.mpr hnone, hrenew⟩

theorem waiting_renew_of_ne (hn : r.number ≠ number) :
    (p.renew r).waiting number = p.waiting number := by
  have hremove : (p.remove r.number).2.waiting number = p.waiting number := by
    rw [waiting_remove, if_neg hn]
  unfold renew
  split
  · next hpush => rw [(waiting_push hpush).1 number hn, hremove]
  · exact hremove

/-- A request that is buffered anew waits, or there was no free slot for it. -/
theorem waiting_renew (h : p.Renewable r) :
    (p.renew r).waiting r.number = [r] ∨
      (p.Full ∧ p.waiting r.number = [] ∧ p.renew r = p) := by
  rcases renew_cases h with ⟨slot, before, after, -, hbefore, hafter⟩ | hfull
  · left
    have hnil : (before ++ after).filter (·.number == r.number) = [] := by
      rw [← hbefore, ← waiting]
      apply List.eq_nil_of_length_eq_zero
      have hsingle := h.single
      rw [waiting_remove, if_pos rfl, List.length_tail]
      omega
    rw [List.filter_append, List.append_eq_nil_iff] at hnil
    rw [waiting, hafter, List.filter_append, List.filter_cons_of_pos (by simp), hnil.1, hnil.2,
      List.nil_append]
  · exact .inr hfull

theorem capacity_renew (p : Pending) (r : Request) : (p.renew r).capacity = p.capacity := by
  unfold renew
  split
  · next hpush => rw [capacity_push hpush, capacity_remove]
  · exact p.capacity_remove r.number

/-- Buffering a request anew leaves requests for other targets as they are, and not fewer requests
wait afterwards. -/
theorem offSource_renew (h : p.Renewable r) :
    (p.renew r).offSource = p.offSource ∧ p.requests.length ≤ (p.renew r).requests.length := by
  rcases renew_cases h with ⟨slot, before, after, -, hbefore, hafter⟩ | ⟨-, -, hsame⟩
  · obtain ⟨hothers, hlength⟩ := offSource_remove h.waiting
    rw [hbefore, List.length_append] at hlength
    refine ⟨?_, ?_⟩
    · rw [← hothers, offSource, offSource, hafter, hbefore, List.filter_append, List.filter_append,
        List.filter_cons_of_neg (by simp [h.source])]
    · rw [hafter, List.length_append, List.length_cons]
      omega
  · rw [hsame]
    exact ⟨rfl, Nat.le_refl _⟩

/-! ## Some requests -/

theorem Renewable.of_waiting_eq {p' : Pending} (h : p.Renewable r)
    (hw : p'.waiting r.number = p.waiting r.number) : p'.Renewable r :=
  ⟨h.source, hw ▸ h.single, hw ▸ h.waiting⟩

theorem waiting_renewAll_of_ne (hn : ∀ r ∈ rs, r.number ≠ number) :
    (p.renewAll rs).waiting number = p.waiting number := by
  induction rs generalizing p with
  | nil => rfl
  | cons r rs ih =>
    rw [List.forall_mem_cons] at hn
    exact (ih hn.2).trans (waiting_renew_of_ne hn.1)

theorem capacity_renewAll (p : Pending) (rs : List Request) :
    (p.renewAll rs).capacity = p.capacity := by
  induction rs generalizing p with
  | nil => rfl
  | cons r rs ih => exact (ih _).trans (p.capacity_renew r)

section Renewables

variable (h : ∀ r ∈ rs, p.Renewable r) (hdistinct : rs.Pairwise fun r s => r.number ≠ s.number)

include h hdistinct

/-- Requests of other numbers can still be buffered anew. -/
theorem renewable_renew {r : Request} {rs' : List Request} (hrs : rs = r :: rs') :
    ∀ s ∈ rs', (p.renew r).Renewable s := by
  subst hrs
  rw [List.forall_mem_cons] at h
  rw [List.pairwise_cons] at hdistinct
  exact fun s hs => (h.2 s hs).of_waiting_eq (waiting_renew_of_ne (hdistinct.1 s hs))

/-- Buffering requests anew leaves requests for other targets as they are, and not fewer requests
wait afterwards. -/
theorem offSource_renewAll :
    (p.renewAll rs).offSource = p.offSource ∧
      p.requests.length ≤ (p.renewAll rs).requests.length := by
  induction rs generalizing p with
  | nil => exact ⟨rfl, Nat.le_refl _⟩
  | cons r rs ih =>
    obtain ⟨hothers, hlength⟩ := offSource_renew (h r List.mem_cons_self)
    obtain ⟨hothers', hlength'⟩ :=
      ih (renewable_renew h hdistinct rfl) (List.pairwise_cons.mp hdistinct).2
    exact ⟨hothers'.trans hothers, Nat.le_trans hlength hlength'⟩

/-- **Requests that are buffered anew wait**, unless nothing of their number waited before and the
cache is full. -/
theorem waiting_renewAll (hr : r ∈ rs) :
    (p.renewAll rs).waiting r.number = [r] ∨
      (p.waiting r.number = [] ∧ (p.renewAll rs).Full) := by
  induction rs generalizing p with
  | nil => cases hr
  | cons s rs ih =>
    have hlater := renewable_renew h hdistinct rfl
    obtain ⟨hfirst, hrest⟩ := List.pairwise_cons.mp hdistinct
    rcases List.mem_cons.mp hr with rfl | hmem
    · have hkept : (p.renewAll (r :: rs)).waiting r.number = (p.renew r).waiting r.number :=
        waiting_renewAll_of_ne fun s hs => (hfirst s hs).symm
      rw [hkept]
      refine (waiting_renew (h r List.mem_cons_self)).imp_right fun ⟨hfull, hw, hsame⟩ => ⟨hw, ?_⟩
      -- The cache was full then, and not fewer requests wait at the end.
      rw [Full, capacity_renewAll]
      calc p.capacity
          ≤ p.requests.length := hfull
        _ = (p.renew r).requests.length := by rw [hsame]
        _ ≤ (p.renewAll (r :: rs)).requests.length := (offSource_renewAll hlater hrest).2
    · have hw := waiting_renew_of_ne (p := p) (hfirst r hmem)
      rw [← hw]
      exact ih hlater hrest hmem

end Renewables

end GpuDebug.Pending
