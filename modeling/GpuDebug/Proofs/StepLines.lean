import GpuDebug.Proofs.StepTargets
import Mathlib.Data.List.Sort

/-!
# The lines that a step leaves

A step over a line is planned by the rows that are not of the line, while the line of an address is
that of the last row at it. Rows of several lines may have one address, so the two need not agree:
an address of the line can be among those at which a step over it ends. A step out ends above every
address of the line, so it is not concerned.

* `LineTable.Ordered.exists_row`: the row that the line of an address comes from.
* `LineTable.elsewhere`: the mapped addresses whose line is another one.
* `LineTable.offLine`, `LineTable.stepTargets_over`: where a step over a line ends.
* `LineTable.Ordered.mem_stepTargets_out`: where a step out of a line ends.
* `LineTable.stepOver_leaves_line_iff`: when a step over a line ends exactly elsewhere.
* `LineTable.stepOut_refines_stepOver`: a step out makes progress, and ends where a step over may.
-/

namespace GpuDebug.LineTable

variable {t : LineTable} {a b pc : UInt64} {place : CodeLocation} {numbers : List UInt64}
  {rows : List LineRow} {text : Option String}

/-! ## The line of an address -/

/-- In the order of addresses, the rows up to an address come first. -/
theorem takeWhile_eq_filter (h : rows.Pairwise (·.address ≤ ·.address)) :
    rows.takeWhile (·.address ≤ a) = rows.filter (·.address ≤ a) := by
  induction rows with
  | nil => rfl
  | cons r rows ih =>
    obtain ⟨hr, hrows⟩ := List.pairwise_cons.mp h
    by_cases hle : r.address ≤ a
    · rw [List.takeWhile_cons_of_pos (by simpa using hle),
        List.filter_cons_of_pos (by simpa using hle), ih hrows]
    · have hnil : (r :: rows).filter (·.address ≤ a) = [] := by
        refine List.filter_eq_nil_iff.mpr fun s hs hdecide => hle ?_
        rcases List.mem_cons.mp hs with rfl | hmem
        · exact of_decide_eq_true hdecide
        · exact UInt64.le_trans (hr s hmem) (of_decide_eq_true hdecide)
      rw [hnil, List.takeWhile_cons_of_neg (by simpa using hle)]

/-- The line of an address is that of a row not above it, with no row in between. -/
theorem Ordered.exists_row (ht : t.Ordered) (h : t.locate a = .ok place) :
    ∃ r ∈ t.rows, r.location = place ∧ r.address ≤ a ∧
      ∀ s ∈ t.rows, r.address < s.address → a < s.address := by
  unfold locate at h
  rw [takeWhile_eq_filter ht] at h
  split at h
  · next r hr =>
    cases h
    obtain ⟨init, hinit⟩ := List.getLast?_eq_some_iff.mp hr
    have hsorted : (init ++ [r]).Pairwise (·.address ≤ ·.address) := hinit ▸ ht.filter _
    have hmem : r ∈ t.rows.filter (·.address ≤ a) := List.mem_of_getLast? hr
    refine ⟨r, (List.mem_filter.mp hmem).1, rfl, of_decide_eq_true (List.mem_filter.mp hmem).2,
      fun s hs hlt => UInt64.not_le.mp fun hle => ?_⟩
    have hs : s ∈ init ++ [r] := hinit ▸ List.mem_filter.mpr ⟨hs, decide_eq_true hle⟩
    rcases List.mem_append.mp hs with hs | hs
    · have hsr := (List.pairwise_append.mp hsorted).2.2 s hs r List.mem_cons_self
      exact UInt64.not_lt.mpr hsr hlt
    · rw [List.mem_singleton.mp hs] at hlt
      exact UInt64.lt_irrefl _ hlt
  · cases h

/-- The line of the address of a row is that of a row there. -/
theorem Ordered.exists_row_at (ht : t.Ordered) {r : LineRow} (hr : r ∈ t.rows)
    (h : t.locate r.address = .ok place) :
    ∃ s ∈ t.rows, s.address = r.address ∧ s.location = place := by
  obtain ⟨s, hs, hplace, hle, hnext⟩ := ht.exists_row h
  refine ⟨s, hs, UInt64.le_antisymm hle (UInt64.not_lt.mp fun hlt => ?_), hplace⟩
  exact UInt64.lt_irrefl _ (hnext r hr hlt)

/-- The mapped addresses whose line is another one than that of the place, lowest first. -/
def elsewhere (t : LineTable) (place : CodeLocation) : List UInt64 :=
  t.mapped.filter fun a => t.locate a ≠ .ok place

theorem pairwise_elsewhere (t : LineTable) (place : CodeLocation) :
    (t.elsewhere place).Pairwise (· < ·) :=
  (pairwise_ascending _).filter _

theorem Ordered.mem_elsewhere (ht : t.Ordered) :
    a ∈ t.elsewhere place ↔
      (∃ r ∈ t.rows, r.address = a) ∧ ∃ other, t.locate a = .ok other ∧ other ≠ place := by
  rw [elsewhere, List.mem_filter, mem_mapped, decide_eq_true_iff]
  refine and_congr_right fun ⟨r, hr, hra⟩ => ⟨fun hne => ?_, ?_⟩
  · obtain ⟨other, hother⟩ := ht.exists_locate hr
    rw [hra] at hother
    exact ⟨other, hother, fun heq => hne (heq ▸ hother)⟩
  · rintro ⟨other, hother, hne⟩ heq
    exact hne (Except.ok.inj (hother.symm.trans heq))

/-! ## Lists of addresses -/

/-- Two ascending lists with the same numbers are equal. -/
theorem ascending_eq {addresses : List UInt64} (h : addresses.Pairwise (· < ·))
    (hmem : ∀ a, a ∈ addresses ↔ a ∈ numbers) : ascending numbers = addresses :=
  (pairwise_ascending numbers).eq_of_mem_iff h fun a => mem_ascending.trans (hmem a).symm

theorem found_inj {others : List UInt64} : found numbers = found others ↔ numbers = others := by
  refine ⟨fun h => ?_, congrArg found⟩
  cases numbers with
  | nil =>
    cases others with
    | nil => rfl
    | cons => cases h
  | cons =>
    cases others with
    | nil => cases h
    | cons => exact Except.ok.inj h

theorem max_lt_iff {b c : UInt64} : max b c < a ↔ b < a ∧ c < a := by
  change (if b ≤ c then c else b) < a ↔ b < a ∧ c < a
  simp only [UInt64.le_iff_toNat_le, UInt64.lt_iff_toNat_lt]
  split <;> omega

/-- A number is above the largest one exactly if it is above all of them. -/
theorem largest_lt_iff {start : UInt64} :
    largest start numbers < a ↔ ∀ b ∈ start :: numbers, b < a := by
  induction numbers generalizing start with
  | nil => exact (List.forall_mem_singleton (p := (· < a))).symm
  | cons c cs ih =>
    have hstep : largest start (c :: cs) = largest (max start c) cs := rfl
    rw [hstep, ih, List.forall_mem_cons, max_lt_iff, List.forall_mem_cons, List.forall_mem_cons,
      and_assoc]

theorem found_of_ne_nil (h : numbers ≠ []) : found numbers = .ok numbers := by
  rw [found, if_neg (by simpa using h)]

/-! ## Where a step ends -/

/-- The addresses of the rows that are not of the place, lowest first. -/
def offLine (t : LineTable) (place : CodeLocation) : List UInt64 :=
  ascending ((t.rows.filter (·.location != place)).map (·.address))

theorem mem_offLine : a ∈ t.offLine place ↔ ∃ r ∈ t.rows, r.address = a ∧ r.location ≠ place := by
  simp only [offLine, mem_ascending, List.mem_map, List.mem_filter, bne_iff_ne]
  constructor
  · rintro ⟨r, ⟨hr, hne⟩, ha⟩
    exact ⟨r, hr, ha, hne⟩
  · rintro ⟨r, hr, ha, hne⟩
    exact ⟨r, ⟨hr, hne⟩, ha⟩

/-- A step over a line ends at the addresses of the rows that are not of the line. -/
theorem stepTargets_over (h : t.locate pc = .ok place) :
    t.stepTargets pc false = found (t.offLine place) := by
  rw [stepTargets, h]
  rfl

/-- An address of another line has a row of that line. -/
theorem Ordered.elsewhere_subset (ht : t.Ordered) : t.elsewhere place ⊆ t.offLine place := by
  intro a ha
  obtain ⟨⟨r, hr, rfl⟩, other, hother, hne⟩ := ht.mem_elsewhere.mp ha
  obtain ⟨s, hs, haddress, rfl⟩ := ht.exists_row_at hr hother
  exact mem_offLine.mpr ⟨s, hs, haddress, hne⟩

/-- The two views of a line agree exactly if every row at an address of the line is of the line. -/
theorem Ordered.offLine_eq_elsewhere_iff (ht : t.Ordered) :
    t.offLine place = t.elsewhere place ↔
      ∀ r ∈ t.rows, t.locate r.address = .ok place → r.location = place := by
  refine ⟨fun heq r hr hplace => by_contra fun hne => ?_, fun hrows => ?_⟩
  · have hmem : r.address ∈ t.elsewhere place := heq ▸ mem_offLine.mpr ⟨r, hr, rfl, hne⟩
    obtain ⟨-, other, hother, hdiffers⟩ := ht.mem_elsewhere.mp hmem
    exact hdiffers (Except.ok.inj (hother.symm.trans hplace))
  · refine ascending_eq (pairwise_elsewhere t place) fun a => ?_
    refine Iff.trans ⟨fun ha => ht.elsewhere_subset ha, fun ha => ?_⟩ mem_ascending
    obtain ⟨r, hr, rfl, hne⟩ := mem_offLine.mp ha
    obtain ⟨other, hother⟩ := ht.exists_locate hr
    refine ht.mem_elsewhere.mpr ⟨⟨r, hr, rfl⟩, other, hother, ?_⟩
    rintro rfl
    exact hne (hrows r hr hother)

/-- A step out of a line with addresses ends at those of the rows above the last of them. -/
theorem stepTargets_out {first : UInt64} {others : List UInt64} (h : t.locate pc = .ok place)
    (hown : (t.rows.filter (·.location == place)).map (·.address) = first :: others) :
    t.stepTargets pc true =
      found (ascending ((t.rows.filter (largest first others < ·.address)).map (·.address))) := by
  simp only [stepTargets, h, bind, Except.bind, if_true, hown]

/-- A step out of a line ends at the mapped addresses above all those of the line. -/
theorem Ordered.mem_stepTargets_out (ht : t.Ordered) {out : List UInt64}
    (h : t.stepTargets pc true = .ok out) :
    ∃ place, t.locate pc = .ok place ∧ out.Pairwise (· < ·) ∧ out ≠ [] ∧
      ∀ a, a ∈ out ↔ (∃ r ∈ t.rows, r.address = a) ∧
        ∀ r ∈ t.rows, r.location = place → r.address < a := by
  obtain ⟨place, hplace, -⟩ := except_bind_eq_ok h
  obtain ⟨own, hown, hownplace, -⟩ := ht.exists_row hplace
  have hmem : own.address ∈ (t.rows.filter (·.location == place)).map (·.address) :=
    List.mem_map_of_mem (List.mem_filter.mpr ⟨hown, beq_iff_eq.mpr hownplace⟩)
  obtain ⟨first, others, hcons⟩ := List.exists_cons_of_ne_nil (List.ne_nil_of_mem hmem)
  rw [stepTargets_out hplace hcons] at h
  obtain ⟨rfl, hne⟩ := found_eq_ok h
  refine ⟨place, hplace, pairwise_ascending _, hne, fun a => ?_⟩
  have habove : largest first others < a ↔
      ∀ r ∈ t.rows, r.location = place → r.address < a := by
    rw [largest_lt_iff, ← hcons, List.forall_mem_map]
    simp only [List.mem_filter, beq_iff_eq, and_imp]
  rw [mem_ascending, List.mem_map, ← habove]
  simp only [List.mem_filter, decide_eq_true_iff]
  constructor
  · rintro ⟨r, ⟨hr, hlt⟩, rfl⟩
    exact ⟨⟨r, hr, rfl⟩, hlt⟩
  · rintro ⟨⟨r, hr, rfl⟩, hlt⟩
    exact ⟨r, ⟨hr, hlt⟩, rfl⟩

/-- Above all addresses of a line, no address is on the line. -/
theorem Ordered.lt_of_locate (ht : t.Ordered) (hmapped : ∃ r ∈ t.rows, r.address = a)
    (habove : ∀ r ∈ t.rows, r.location = place → r.address < a) (hb : t.locate b = .ok place) :
    b < a := by
  obtain ⟨own, hown, hownplace, -, hnext⟩ := ht.exists_row hb
  obtain ⟨r, hr, rfl⟩ := hmapped
  exact hnext r hr (habove own hown hownplace)

/-- **A step over a line ends elsewhere, unless rows of other lines are at addresses of the line.**
It ends at the addresses of the rows that are not of the line, lowest first. All mapped addresses of
other lines are among them; and they are the only ones exactly if every row at an address of the
line is of the line. -/
theorem stepOver_leaves_line_iff (rows : List LineRow) (text : Option String) {pc : UInt64}
    {place : CodeLocation} (h : (ofRows rows text).locate pc = .ok place) :
    ((ofRows rows text).stepTargets pc false = found ((ofRows rows text).elsewhere place) ↔
      ∀ r ∈ rows, (ofRows rows text).locate r.address = .ok place → r.location = place) ∧
    ∃ targets, (ofRows rows text).stepTargets pc false = found targets ∧
      targets.Pairwise (· < ·) ∧
      (∀ a, a ∈ targets ↔ ∃ r ∈ rows, r.address = a ∧ r.location ≠ place) ∧
      (ofRows rows text).elsewhere place ⊆ targets := by
  have ht := ordered_ofRows rows text
  refine ⟨?_, (ofRows rows text).offLine place, stepTargets_over h, pairwise_ascending _,
    fun a => ?_, ht.elsewhere_subset⟩
  · rw [stepTargets_over h, found_inj, ht.offLine_eq_elsewhere_iff]
    simp only [mem_rows_ofRows]
  · rw [mem_offLine]
    simp only [mem_rows_ofRows]

/-- Rows of two lines at one address, and one of a third line above them. -/
def shared : List LineRow :=
  [⟨16, 5, none⟩, ⟨16, 6, none⟩, ⟨32, 7, none⟩]

/-- The debugger shows line 6 at address 16, and a step over line 6 ends at address 16. -/
theorem step_over_stays :
    (ofRows shared none).locate 16 = .ok ⟨none, 6⟩ ∧
    (ofRows shared none).elsewhere ⟨none, 6⟩ = [32] ∧
    ¬ (ofRows shared none).stepTargets 16 false =
        found ((ofRows shared none).elsewhere ⟨none, 6⟩) ∧
    ∃ targets, (ofRows shared none).stepTargets 16 false = .ok targets ∧ 16 ∈ targets := by
  have hrows : ofRows shared none = ⟨shared, none⟩ := by
    rw [ofRows, List.mergeSort_of_pairwise (by decide)]
  have hlocate : (ofRows shared none).locate 16 = .ok ⟨none, 6⟩ := by
    rw [hrows]
    rfl
  obtain ⟨hiff, targets, htargets, -, hmem, -⟩ := stepOver_leaves_line_iff shared none hlocate
  have h16 : (16 : UInt64) ∈ targets := (hmem 16).mpr ⟨⟨16, 5, none⟩, by decide, rfl, by decide⟩
  refine ⟨hlocate, ?_, fun heq => ?_, targets, ?_, h16⟩
  · rw [hrows]
    decide
  · exact absurd (hiff.mp heq ⟨16, 5, none⟩ (by decide) hlocate) (by decide)
  · rw [htargets]
    exact found_of_ne_nil (List.ne_nil_of_mem h16)

/-- **A step out makes progress and ends where a step over may.** Wherever a step out of a line
ends, it ends above the address it starts from and above every address of the line: those of its
rows, and all whose line it is. Each of these addresses is one at which a step over the line ends,
and those are mapped; all three lists are ascending. -/
theorem stepOut_refines_stepOver (rows : List LineRow) (text : Option String) {pc : UInt64}
    {out : List UInt64} (h : (ofRows rows text).stepTargets pc true = .ok out) :
    ∃ place targets, (ofRows rows text).locate pc = .ok place ∧
      (ofRows rows text).stepTargets pc false = .ok targets ∧
      (∀ a ∈ out, pc < a ∧ (∀ r ∈ rows, r.location = place → r.address < a) ∧
        ∀ b, (ofRows rows text).locate b = .ok place → b < a) ∧
      out ⊆ targets ∧ targets ⊆ (ofRows rows text).mapped ∧
      out.Pairwise (· < ·) ∧ targets.Pairwise (· < ·) ∧
      (ofRows rows text).mapped.Pairwise (· < ·) := by
  have ht := ordered_ofRows rows text
  obtain ⟨place, hplace, hascending, hne, hmem⟩ := ht.mem_stepTargets_out h
  have hout : out ⊆ (ofRows rows text).offLine place := by
    intro a ha
    obtain ⟨⟨r, hr, rfl⟩, habove⟩ := (hmem a).mp ha
    exact mem_offLine.mpr ⟨r, hr, rfl, fun heq => UInt64.lt_irrefl _ (habove r hr heq)⟩
  refine ⟨place, _, hplace, (stepTargets_over hplace).trans (found_of_ne_nil fun hnil => ?_),
    fun a ha => ?_, hout, fun a ha => ?_, hascending, pairwise_ascending _, pairwise_ascending _⟩
  · exact hne (List.subset_nil.mp (hnil ▸ hout))
  · obtain ⟨hmapped, habove⟩ := (hmem a).mp ha
    exact ⟨ht.lt_of_locate hmapped habove hplace,
      fun r hr => habove r (mem_rows_ofRows.mpr hr),
      fun b hb => ht.lt_of_locate hmapped habove hb⟩
  · obtain ⟨r, hr, haddress, -⟩ := mem_offLine.mp ha
    exact mem_mapped.mpr ⟨r, hr, haddress⟩

/-- Line 5 has addresses below and above those of line 6; the rows are in no order. -/
def looping : List LineRow :=
  [⟨32, 7, none⟩, ⟨24, 5, none⟩, ⟨16, 5, none⟩, ⟨20, 6, none⟩]

/-- A step out of line 5 passes line 6 and ends where a step over line 5 may. -/
theorem step_out_passes_line :
    (ofRows looping none).stepTargets 16 true = .ok [32] ∧
    ∃ targets, (ofRows looping none).stepTargets 16 false = .ok targets ∧ 32 ∈ targets ∧
      ∀ b, (ofRows looping none).locate b = .ok ⟨none, 5⟩ → b < 32 := by
  have hrows : (ofRows looping none).rows =
      [⟨16, 5, none⟩, ⟨20, 6, none⟩, ⟨24, 5, none⟩, ⟨32, 7, none⟩] := by
    simp [ofRows, looping, List.mergeSort, List.MergeSort.Internal.splitInTwo, LineRow.before]
  have hout : (ofRows looping none).stepTargets 16 true = .ok [32] := by
    rw [stepTargets, locate, hrows]
    rfl
  have hlocate : (ofRows looping none).locate 16 = .ok ⟨none, 5⟩ := by
    rw [locate, hrows]
    rfl
  obtain ⟨place, targets, hplace, htargets, habove, hsubset, -⟩ :=
    stepOut_refines_stepOver looping none hout
  cases hlocate.symm.trans hplace
  exact ⟨hout, targets, htargets, hsubset List.mem_cons_self, (habove 32 List.mem_cons_self).2.2⟩

end GpuDebug.LineTable
