import GpuDebug.Proofs.Lines
import GpuDebug.Proofs.Operation

/-!
# Where a step may end

The rows of a line table are in the order of their addresses. So every address of a row has a line,
and the addresses at which a step may end come in ascending order, each once.

* `LineTable.Ordered`: the order of the rows; every table that is made of rows has it.
* `LineTable.Ordered.exists_locate`: an address of a row has a line.
* `LineTable.pairwise_ascending`: an ascending list is one.
* `Op.stepAddresses_eq_ok`: the addresses of a step are those of some rows, so they are ascending,
  no more than the rows, and of the table.
-/

namespace GpuDebug

theorem LineRow.before_iff {r s : LineRow} :
    r.before s = true ↔ r.address < s.address ∨ (r.address = s.address ∧ r.line ≤ s.line) := by
  simp [before]

namespace LineTable

variable {t : LineTable} {a : UInt64} {numbers : List UInt64} {rows : List LineRow}

/-! ## Tables in the order of their addresses -/

/-- No row has a lower address than one before it. -/
def Ordered (t : LineTable) : Prop :=
  t.rows.Pairwise (·.address ≤ ·.address)

theorem ordered_ofRows (rows : List LineRow) (text : Option String) :
    (ofRows rows text).Ordered := by
  have htrans : ∀ r s u : LineRow, r.before s = true → s.before u = true → r.before u = true := by
    intro r s u
    simp only [LineRow.before_iff, UInt64.lt_iff_toNat_lt, UInt64.le_iff_toNat_le,
      ← UInt64.toNat_inj]
    omega
  have htotal : ∀ r s : LineRow, (r.before s || s.before r) = true := by
    intro r s
    simp only [Bool.or_eq_true, LineRow.before_iff, UInt64.lt_iff_toNat_lt, UInt64.le_iff_toNat_le,
      ← UInt64.toNat_inj]
    omega
  refine (List.pairwise_mergeSort htrans htotal rows).imp fun {r s} h => ?_
  rcases LineRow.before_iff.mp h with hlt | ⟨heq, -⟩
  · exact UInt64.le_of_lt hlt
  · exact heq ▸ UInt64.le_refl _

theorem mem_rows_ofRows {r : LineRow} {text : Option String} :
    r ∈ (ofRows rows text).rows ↔ r ∈ rows :=
  List.mem_mergeSort

theorem length_ofRows (rows : List LineRow) (text : Option String) :
    (ofRows rows text).rows.length = rows.length :=
  List.length_mergeSort rows

/-- An address of a row has a line: the first row at least is not above it. -/
theorem Ordered.exists_locate (h : t.Ordered) {r : LineRow} (hr : r ∈ t.rows) :
    ∃ place, t.locate r.address = .ok place := by
  obtain ⟨first, others, hrows⟩ := List.exists_cons_of_ne_nil (List.ne_nil_of_mem hr)
  have hfirst : first.address ≤ r.address := by
    rw [Ordered, hrows, List.pairwise_cons] at h
    rw [hrows] at hr
    rcases List.mem_cons.mp hr with rfl | hmem
    · exact UInt64.le_refl _
    · exact h.1 r hmem
  unfold locate
  rw [hrows, List.takeWhile_cons_of_pos (by exact decide_eq_true hfirst), List.getLast?_cons]
  exact ⟨_, rfl⟩

/-! ## Numbers in ascending order -/

theorem pairwise_insertOnce (h : numbers.Pairwise (· < ·)) :
    (insertOnce a numbers).Pairwise (· < ·) := by
  induction numbers with
  | nil => exact List.pairwise_singleton _ _
  | cons b bs ih =>
    unfold insertOnce
    obtain ⟨hb, hbs⟩ := List.pairwise_cons.mp h
    by_cases hlt : a < b
    · rw [if_pos hlt]
      refine h.cons fun c hc => ?_
      rcases List.mem_cons.mp hc with rfl | hmem
      · exact hlt
      · exact UInt64.lt_trans hlt (hb c hmem)
    · rw [if_neg hlt]
      by_cases heq : a = b
      · rwa [if_pos heq]
      · rw [if_neg heq]
        refine (ih hbs).cons fun c hc => ?_
        rcases mem_insertOnce.mp hc with rfl | hmem
        · exact UInt64.lt_of_le_of_ne (UInt64.not_lt.mp hlt) (Ne.symm heq)
        · exact hb c hmem

theorem pairwise_ascending (numbers : List UInt64) : (ascending numbers).Pairwise (· < ·) := by
  induction numbers with
  | nil => exact List.Pairwise.nil
  | cons b bs ih => exact pairwise_insertOnce ih

theorem length_insertOnce_le (a : UInt64) (numbers : List UInt64) :
    (insertOnce a numbers).length ≤ numbers.length + 1 := by
  induction numbers with
  | nil => exact Nat.le_refl 1
  | cons b bs ih =>
    unfold insertOnce
    split
    · exact Nat.le_refl _
    · split
      · exact Nat.le_succ _
      · exact Nat.succ_le_succ ih

/-- What comes twice is listed once. -/
theorem length_ascending_le (numbers : List UInt64) :
    (ascending numbers).length ≤ numbers.length := by
  induction numbers with
  | nil => exact Nat.le_refl 0
  | cons b bs ih => exact Nat.le_trans (length_insertOnce_le b _) (Nat.succ_le_succ ih)

/-- The address of every row is mapped, and no other. -/
theorem mem_mapped : a ∈ t.mapped ↔ ∃ r ∈ t.rows, r.address = a :=
  mem_ascending.trans List.mem_map

/-! ## The addresses of a step -/

theorem found_eq_ok {addresses : List UInt64} (h : found numbers = .ok addresses) :
    addresses = numbers ∧ addresses ≠ [] := by
  unfold found at h
  split at h
  · cases h
  · next hsome =>
    cases h
    exact ⟨rfl, fun hnil => hsome (hnil ▸ rfl)⟩

/-- The addresses after a step over or out are those of some rows. -/
theorem stepTargets_eq_ok {pc : UInt64} {out : Bool} {addresses : List UInt64}
    (h : t.stepTargets pc out = .ok addresses) :
    ∃ rows : List LineRow, rows.Sublist t.rows ∧ addresses = ascending (rows.map (·.address)) := by
  unfold stepTargets at h
  obtain ⟨current, -, h⟩ := except_bind_eq_ok h
  refine ⟨_, ?_, (found_eq_ok h).1⟩
  split
  · split <;> exact List.filter_sublist
  · exact List.filter_sublist

end LineTable

namespace Op

variable {t : LineTable} {kind : StepKind} {pc : UInt64} {addresses : List UInt64}

/-- **The addresses of a step** are those of some rows. -/
theorem stepAddresses_eq_ok (h : stepAddresses t kind pc = .ok addresses) :
    ∃ rows : List LineRow, rows.Sublist t.rows ∧
      addresses = LineTable.ascending (rows.map (·.address)) := by
  match kind, h with
  | .into, h =>
    cases h
    exact ⟨t.rows, List.Sublist.refl _, rfl⟩
  | .over, h => exact LineTable.stepTargets_eq_ok h
  | .out, h => exact LineTable.stepTargets_eq_ok h

theorem pairwise_stepAddresses (h : stepAddresses t kind pc = .ok addresses) :
    addresses.Pairwise (· < ·) := by
  obtain ⟨rows, -, rfl⟩ := stepAddresses_eq_ok h
  exact LineTable.pairwise_ascending _

theorem length_stepAddresses_le (h : stepAddresses t kind pc = .ok addresses) :
    addresses.length ≤ t.rows.length := by
  obtain ⟨rows, hrows, rfl⟩ := stepAddresses_eq_ok h
  calc (LineTable.ascending (rows.map (·.address))).length
      ≤ (rows.map (·.address)).length := LineTable.length_ascending_le _
    _ = rows.length := List.length_map _
    _ ≤ t.rows.length := hrows.length_le

/-- A step ends at addresses of the table only. -/
theorem mem_stepAddresses {address : UInt64} (h : stepAddresses t kind pc = .ok addresses)
    (hmem : address ∈ addresses) : ∃ row ∈ t.rows, row.address = address := by
  obtain ⟨rows, hrows, rfl⟩ := stepAddresses_eq_ok h
  obtain ⟨row, hrow, rfl⟩ := List.mem_map.mp (LineTable.mem_ascending.mp hmem)
  exact ⟨row, hrows.subset hrow, rfl⟩

end Op

end GpuDebug
