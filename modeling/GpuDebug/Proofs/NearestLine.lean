import GpuDebug.DebugInfo
import GpuDebug.Proofs.StepTargets

/-!
# Where the nearest line starts

A line without code stands for the nearest line after it that has code. The search goes through the
rows in the order of their addresses and takes the first row of the least line, so that row has the
least address of its line. The address is then looked up again, among the rows of that line in the
file of the row; the row itself is one of them, so the second search comes to the same address,
whatever files the other rows name.

* `LineTable.leastLine?_eq_some`: the row that is taken, and those before and after it.
* `LineTable.Ordered.nearest_eq_ok`: the nearest line, and the least address of it.
* `LineTable.addresses_of_first`: the least address of a line is the first one of its row's place.
* `DebugInfo.nearest_line_starts`: the main result, for the debug information of a session.
-/

namespace GpuDebug

namespace LineTable

variable {t : LineTable} {a line : UInt64} {place : CodeLocation} {numbers : List UInt64}
  {rows : List LineRow} {r : LineRow}

/-! ## The first row of the least line -/

theorem leastLine?_eq_none_iff : leastLine? rows = none ↔ rows = [] := by
  refine ⟨fun h => ?_, fun h => h ▸ rfl⟩
  cases rows with
  | nil => rfl
  | cons s rows =>
    unfold leastLine? at h
    split at h
    · split at h <;> cases h
    · cases h

/-- The row with the least line is before all others of its line. -/
theorem leastLine?_eq_some (h : leastLine? rows = some r) :
    ∃ before after, rows = before ++ r :: after ∧ (∀ s ∈ before, r.line < s.line) ∧
      ∀ s ∈ after, r.line ≤ s.line := by
  induction rows generalizing r with
  | nil => cases h
  | cons s rows ih =>
    unfold leastLine? at h
    split at h
    · next q hq =>
      obtain ⟨before, after, hrows, hbefore, hafter⟩ := ih hq
      by_cases hlt : q.line < s.line
      · rw [if_pos hlt] at h
        cases h
        exact ⟨s :: before, after, congrArg (s :: ·) hrows,
          List.forall_mem_cons.mpr ⟨hlt, hbefore⟩, hafter⟩
      · rw [if_neg hlt] at h
        cases h
        have hle : s.line ≤ q.line := UInt64.not_lt.mp hlt
        refine ⟨[], rows, rfl, List.forall_mem_nil _, fun x hx => ?_⟩
        rw [hrows] at hx
        rcases List.mem_append.mp hx with hx | hx
        · exact UInt64.le_trans hle (UInt64.le_of_lt (hbefore x hx))
        · rcases List.mem_cons.mp hx with rfl | hx
          · exact hle
          · exact UInt64.le_trans hle (hafter x hx)
    · next hnone =>
      cases h
      exact ⟨[], rows, rfl, List.forall_mem_nil _, leastLine?_eq_none_iff.mp hnone ▸
        List.forall_mem_nil _⟩

/-! ## The nearest line -/

theorem mem_candidates {rows : List LineRow} :
    r ∈ rows.filter (fun r => r.inFile none && line ≤ r.line) ↔ r ∈ rows ∧ line ≤ r.line := by
  simp [LineRow.inFile]

/-- Nothing is found exactly if every row is of a line before. -/
theorem nearest_eq_notFound_iff :
    t.nearest none line = .error .notFound ↔ ¬ ∃ r ∈ t.rows, line ≤ r.line := by
  simp only [not_exists, not_and]
  unfold nearest
  split
  · next r hr =>
    have hmem := mem_candidates.mp (mem_of_leastLine? hr)
    exact iff_of_false nofun fun hnone => hnone r hmem.1 hmem.2
  · next hnone =>
    have hnil := leastLine?_eq_none_iff.mp hnone
    refine iff_of_true rfl fun r hr hle => ?_
    exact List.not_mem_nil (hnil ▸ mem_candidates.mpr ⟨hr, hle⟩)

/-- What is found is the least line with code, and the place of the row with its least address. -/
theorem Ordered.nearest_eq_ok (ht : t.Ordered) (h : t.nearest none line = .ok place) :
    ∃ r ∈ t.rows, r.location = place ∧ line ≤ r.line ∧
      (∀ s ∈ t.rows, line ≤ s.line → r.line ≤ s.line) ∧
      ∀ s ∈ t.rows, s.line = r.line → r.address ≤ s.address := by
  unfold nearest at h
  split at h
  · next r hr =>
    cases h
    obtain ⟨hmem, hle⟩ := mem_candidates.mp (mem_of_leastLine? hr)
    obtain ⟨before, after, hrows, hbefore, hafter⟩ := leastLine?_eq_some hr
    have hcases : ∀ s ∈ t.rows, line ≤ s.line → s ∈ before ∨ s = r ∨ s ∈ after := by
      intro s hs hline
      have hs := mem_candidates.mpr ⟨hs, hline⟩
      rwa [hrows, List.mem_append, List.mem_cons] at hs
    refine ⟨r, hmem, rfl, hle, fun s hs hline => ?_, fun s hs hline => ?_⟩
    · rcases hcases s hs hline with hs | rfl | hs
      · exact UInt64.le_of_lt (hbefore s hs)
      · exact UInt64.le_refl _
      · exact hafter s hs
    · rcases hcases s hs (hline ▸ hle) with hs | rfl | hs
      · exact absurd (hline ▸ hbefore s hs) (UInt64.lt_irrefl _)
      · exact UInt64.le_refl _
      · have hsorted : (before ++ r :: after).Pairwise (·.address ≤ ·.address) :=
          hrows ▸ ht.filter _
        exact (List.pairwise_cons.mp (List.pairwise_append.mp hsorted).2.1).1 s hs
  · cases h

/-- A row with the least address of its line: the first address of its place is its own, for it is
in its own file. -/
theorem addresses_of_first (hr : r ∈ t.rows)
    (hfirst : ∀ s ∈ t.rows, s.line = r.line → r.address ≤ s.address) :
    ∃ others, t.addresses r.location = .ok (r.address :: others) := by
  obtain ⟨address, others, haddresses⟩ := addresses_location hr
  obtain ⟨hlist, -⟩ := found_eq_ok haddresses
  have hmem : ∀ {b}, b ∈ address :: others ↔
      ∃ s ∈ t.rows, (s.inFile r.file = true ∧ s.line = r.line) ∧ s.address = b := by
    intro b
    rw [hlist, mem_ascending, List.mem_map]
    simp only [List.mem_filter, Bool.and_eq_true, beq_iff_eq, and_assoc, LineRow.location]
  have hle : r.address ≤ address := by
    obtain ⟨s, hs, ⟨-, hline⟩, rfl⟩ := hmem.mp List.mem_cons_self
    exact hfirst s hs hline
  have hge : address ≤ r.address := by
    have hsorted : (address :: others).Pairwise (· < ·) := hlist ▸ pairwise_ascending _
    rcases List.mem_cons.mp (hmem.mpr ⟨r, hr, ⟨inFile_self r, rfl⟩, rfl⟩) with heq | hothers
    · exact heq ▸ UInt64.le_refl _
    · exact UInt64.le_of_lt ((List.pairwise_cons.mp hsorted).1 _ hothers)
  exact ⟨others, UInt64.le_antisymm hle hge ▸ haddresses⟩

end LineTable

namespace DebugInfo

variable {i : DebugInfo} {t : LineTable} {line address : UInt64} {place : CodeLocation}

theorem require_of_table (h : i.table = some t) : i.require = .ok t := by
  rw [require, h]

theorem resolveLine_of_ok {file : Option String} (h : i.table = some t)
    (hnearest : t.nearest file line = .ok place) : i.resolveLine file line = .ok (some place) := by
  simp only [resolveLine, require_of_table h, hnearest, bind, Except.bind, pure, Except.pure]

theorem resolveLine_of_notFound {file : Option String} (h : i.table = some t)
    (hnearest : t.nearest file line = .error .notFound) : i.resolveLine file line = .ok none := by
  simp only [resolveLine, require_of_table h, hnearest, bind, Except.bind, pure, Except.pure]

theorem firstAddress_of_ok {others : List UInt64} (h : i.table = some t)
    (haddresses : t.addresses place = .ok (address :: others)) :
    i.firstAddress place = .ok (some address) := by
  simp only [firstAddress, require_of_table h, haddresses, bind, Except.bind, pure, Except.pure,
    List.head?_cons]

/-- **Where a line starts.** Looking for a line in no particular file finds nothing exactly if no
row is of that line or a later one. Otherwise it finds the least such line that has rows, and a
place on it whose first address can be looked up and is the lowest address of any row of that
line, in whatever file. -/
theorem nearest_line_starts (i : DebugInfo) {rows : List LineRow} {text : Option String}
    (h : i.table = some (.ofRows rows text)) (line : UInt64) :
    (i.resolveLine none line = .ok none ↔ ¬ ∃ r ∈ rows, line ≤ r.line) ∧
    ((∃ r ∈ rows, line ≤ r.line) → ∃ place address,
      i.resolveLine none line = .ok (some place) ∧
      (line ≤ place.line ∧ (∃ r ∈ rows, r.line = place.line) ∧
        ∀ r ∈ rows, line ≤ r.line → place.line ≤ r.line) ∧
      i.firstAddress place = .ok (some address) ∧
      (∃ r ∈ rows, r.line = place.line ∧ r.address = address) ∧
        ∀ r ∈ rows, r.line = place.line → address ≤ r.address) := by
  have hmem {r : LineRow} : r ∈ (LineTable.ofRows rows text).rows ↔ r ∈ rows :=
    LineTable.mem_rows_ofRows
  rcases LineTable.nearest_cases (.ofRows rows text) none line with ⟨r', -, hok⟩ | hnone
  · obtain ⟨r, hr, hplace, hle, hleast, hfirst⟩ :=
      (LineTable.ordered_ofRows rows text).nearest_eq_ok hok
    obtain ⟨others, haddresses⟩ := LineTable.addresses_of_first hr hfirst
    have hfound : ∃ r ∈ rows, line ≤ r.line := ⟨r, hmem.mp hr, hle⟩
    refine ⟨iff_of_false ?_ (not_not_intro hfound), fun _ => ⟨r.location, r.address,
      resolveLine_of_ok h (hplace ▸ hok), ⟨hle, ⟨r, hmem.mp hr, rfl⟩, ?_⟩,
      firstAddress_of_ok h haddresses, ⟨r, hmem.mp hr, rfl, rfl⟩, ?_⟩⟩
    · rw [resolveLine_of_ok h hok]
      exact nofun
    · exact fun s hs => hleast s (hmem.mpr hs)
    · exact fun s hs => hfirst s (hmem.mpr hs)
  · have hnothing : ¬ ∃ r ∈ rows, line ≤ r.line := fun ⟨r, hr, hle⟩ =>
      LineTable.nearest_eq_notFound_iff.mp hnone ⟨r, hmem.mpr hr, hle⟩
    exact ⟨iff_of_true (resolveLine_of_notFound h hnone) hnothing,
      fun hfound => absurd hfound hnothing⟩

/-- Line 7 has rows in two files and one in no file, and line 9 has one; they are in no order. -/
def scattered : List LineRow :=
  [⟨48, 9, none⟩, ⟨32, 7, none⟩, ⟨24, 7, some "b.cl"⟩, ⟨16, 7, some "src/a.cl"⟩]

/-- What is held after a code object with these rows was loaded. -/
def holdingScattered : DebugInfo :=
  ((DebugInfo.empty (fun _ _ => .ok (.ofRows scattered none)) "").load .empty []).2.1

/-- Line 5 has no code, so it starts where line 7 does. -/
theorem line_five_starts_at_seven :
    holdingScattered.table = some (.ofRows scattered none) ∧
    (∃ r ∈ scattered, 5 ≤ r.line) ∧
    ∃ place, holdingScattered.resolveLine none 5 = .ok (some place) ∧ place.line = 7 ∧
      holdingScattered.firstAddress place = .ok (some 16) := by
  have htable : holdingScattered.table = some (.ofRows scattered none) := rfl
  have hexists : ∃ r ∈ scattered, 5 ≤ r.line := ⟨⟨16, 7, some "src/a.cl"⟩, by decide, by decide⟩
  obtain ⟨place, address, hplace, ⟨hle, ⟨r, hr, hline⟩, hleast⟩, haddress,
    ⟨s, hs, hsline, hsaddress⟩, hlowest⟩ := (nearest_line_starts _ htable 5).2 hexists
  have hseven : place.line = 7 := by
    have honly : ∀ r ∈ scattered, 5 ≤ r.line → r.line ≤ 7 → r.line = 7 := by decide
    rw [← hline]
    exact honly r hr (hline ▸ hle) (hline ▸ hleast ⟨16, 7, some "src/a.cl"⟩ (by decide) (by decide))
  have hsixteen : address = 16 := by
    have honly : ∀ s ∈ scattered, s.line = 7 → s.address ≤ 16 → s.address = 16 := by decide
    rw [← hsaddress]
    exact honly s hs (hsline.trans hseven)
      (hsaddress ▸ hlowest ⟨16, 7, some "src/a.cl"⟩ (by decide) hseven.symm)
  exact ⟨htable, hexists, place, hplace, hseven, hsixteen ▸ haddress⟩

end DebugInfo

end GpuDebug
