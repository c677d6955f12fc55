import GpuDebug.LineTable

/-!
# Where lines have code

* `LineTable.nearest_cases`: the nearest line with code is that of a row, and there is no other
  failure than to find none.
* `LineTable.addresses_location`: the place of a row has an address.
* `LineTable.StartsAt`: the first address of the nearest line with code. There is one at most, and
  there is one unless no line at or after it has code.
-/

namespace GpuDebug.LineTable

@[simp] theorem mem_insertOnce {a b : UInt64} {numbers : List UInt64} :
    b ∈ insertOnce a numbers ↔ b = a ∨ b ∈ numbers := by
  induction numbers with
  | nil => rw [insertOnce, List.mem_singleton, or_iff_left List.not_mem_nil]
  | cons c cs ih =>
    unfold insertOnce
    by_cases hlt : a < c
    · rw [if_pos hlt, List.mem_cons]
    · rw [if_neg hlt]
      by_cases heq : a = c
      · rw [if_pos heq, heq, List.mem_cons, or_self_left]
      · rw [if_neg heq, List.mem_cons, List.mem_cons, ih, or_left_comm]

@[simp] theorem mem_ascending {a : UInt64} {numbers : List UInt64} :
    a ∈ ascending numbers ↔ a ∈ numbers := by
  unfold ascending
  induction numbers with
  | nil => rfl
  | cons b bs ih => rw [List.foldr_cons, mem_insertOnce, ih, List.mem_cons]

theorem mem_of_leastLine? {rows : List LineRow} {r : LineRow} (h : leastLine? rows = some r) :
    r ∈ rows := by
  induction rows with
  | nil => cases h
  | cons s rows ih =>
    unfold leastLine? at h
    split at h
    · next t ht =>
      by_cases hlt : t.line < s.line
      · rw [if_pos hlt] at h
        exact List.mem_cons_of_mem s (ih (ht.trans h))
      · rw [if_neg hlt] at h
        cases h
        exact List.mem_cons_self
    · cases h
      exact List.mem_cons_self

theorem inFile_self (r : LineRow) : r.inFile r.file = true := by
  unfold LineRow.inFile
  cases r.file with
  | none => rfl
  | some file => simp

/-- Looking for the nearest line finds a row, or nothing. -/
theorem nearest_cases (t : LineTable) (file : Option String) (line : UInt64) :
    (∃ r ∈ t.rows, t.nearest file line = .ok r.location) ∨
      t.nearest file line = .error .notFound := by
  unfold nearest
  split
  · next r hr => exact .inl ⟨r, (List.mem_filter.mp (mem_of_leastLine? hr)).1, rfl⟩
  · exact .inr rfl

/-- The place of a row has an address. -/
theorem addresses_location {t : LineTable} {r : LineRow} (hr : r ∈ t.rows) :
    ∃ address others, t.addresses r.location = .ok (address :: others) := by
  have hmem : r.address ∈ ascending ((t.rows.filter fun s =>
      s.inFile r.location.file && s.line == r.location.line).map (·.address)) := by
    refine mem_ascending.mpr (List.mem_map.mpr ⟨r, List.mem_filter.mpr ⟨hr, ?_⟩, rfl⟩)
    exact Bool.and_eq_true_iff.mpr ⟨inFile_self r, beq_self_eq_true r.line⟩
  unfold addresses found
  cases hascending : ascending ((t.rows.filter fun s =>
      s.inFile r.location.file && s.line == r.location.line).map (·.address)) with
  | nil =>
    rw [hascending] at hmem
    cases hmem
  | cons address others => exact ⟨address, others, rfl⟩

/-- The address is the first one of the nearest line with code at or after `line`. -/
def StartsAt (t : LineTable) (line address : UInt64) : Prop :=
  ∃ place others, t.nearest none line = .ok place ∧ t.addresses place = .ok (address :: others)

/-- A line starts at one address at most. -/
theorem StartsAt.unique {t : LineTable} {line a b : UInt64} (h : t.StartsAt line a)
    (h' : t.StartsAt line b) : a = b := by
  obtain ⟨place, others, hplace, haddresses⟩ := h
  obtain ⟨place', others', hplace', haddresses'⟩ := h'
  cases hplace.symm.trans hplace'
  cases haddresses.symm.trans haddresses'
  rfl

theorem not_startsAt {t : LineTable} {line address : UInt64}
    (h : t.nearest none line = .error .notFound) : ¬ t.StartsAt line address := by
  rintro ⟨place, others, hplace, -⟩
  rw [h] at hplace
  cases hplace

theorem startsAt_or_not_found (t : LineTable) (line : UInt64) :
    (∃ address, t.StartsAt line address) ∨ t.nearest none line = .error .notFound := by
  rcases t.nearest_cases none line with ⟨r, hr, hplace⟩ | hnone
  · obtain ⟨address, others, haddresses⟩ := addresses_location hr
    exact .inl ⟨address, r.location, others, hplace, haddresses⟩
  · exact .inr hnone

end GpuDebug.LineTable
