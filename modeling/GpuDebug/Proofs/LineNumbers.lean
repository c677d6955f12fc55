import GpuDebug.CodeObject
import GpuDebug.Proofs.Operation

/-!
# Line numbers of code objects

Lines are counted from one. A line program may set its line to zero, for code that belongs to no
line; such rows are left out.

* `ImageReader.Numbered`: no table that is read has a row of line zero.
* `CodeObject.read_numbered`: the reader of code objects is of this kind.
-/

namespace GpuDebug

/-- Every row of every table that is read has a line, counted from one. -/
def ImageReader.Numbered (reader : ImageReader) : Prop :=
  ∀ image format table, reader image format = .ok table → ∀ row ∈ table.rows, 1 ≤ row.line

namespace Dwarf

variable {s : Strings}

theorem LineHeader.one_le_line_of_row? {h : LineHeader} {r : Registers} {row : LineRow}
    (hrow : h.row? s r = .ok (some row)) : 1 ≤ row.line := by
  unfold row? at hrow
  split at hrow
  · cases hrow
  · next hkept =>
    obtain ⟨file, -, hrow⟩ := except_bind_eq_ok hrow
    cases hrow
    have hline : r.line ≠ 0 := fun heq =>
      hkept (Bool.or_eq_true_iff.mpr (.inr (decide_eq_true heq)))
    have hpos : 0 < r.line.toNat := Nat.pos_of_ne_zero fun h => hline (UInt64.toNat_inj.mp h)
    exact UInt64.le_iff_toNat_le.mpr hpos

/-- The rows that the rest of a line program emits. -/
theorem LineHeader.one_le_line_of_rowsFor {fuel : Nat} {h : LineHeader} {r : Registers}
    {bytes : Bytes} {rows : List LineRow} (hrows : rowsFor s fuel h r bytes = .ok rows) :
    ∀ row ∈ rows, 1 ≤ row.line := by
  induction fuel generalizing h r bytes rows with
  | zero =>
    cases bytes with
    | nil =>
      cases hrows
      exact fun _ => nofun
    | cons byte bytes => cases hrows
  | succ fuel ih =>
    cases bytes with
    | nil =>
      cases hrows
      exact fun _ => nofun
    | cons byte bytes =>
      obtain ⟨⟨instruction, rest⟩, -, hrows⟩ := except_bind_eq_ok hrows
      have joined : ∀ {first : Option LineRow}, (∀ row ∈ first, 1 ≤ row.line) →
          (do
            let others ← rowsFor s fuel (h.after instruction) (r.step h instruction).1 rest
            return first.toList ++ others) = .ok rows → ∀ row ∈ rows, 1 ≤ row.line := by
        intro first hfirst hrows
        obtain ⟨others, hothers, hrows⟩ := except_bind_eq_ok hrows
        cases hrows
        intro row hrow
        rcases List.mem_append.mp hrow with hrow | hrow
        · exact hfirst row (Option.mem_toList.mp hrow)
        · exact ih hothers row hrow
      dsimp only at hrows
      split at hrows
      · obtain ⟨first, hfirst, hrows⟩ := except_bind_eq_ok hrows
        refine joined (fun row hrow => ?_) hrows
        obtain rfl : first = some row := hrow
        exact one_le_line_of_row? hfirst
      · obtain ⟨first, hfirst, hrows⟩ := except_bind_eq_ok hrows
        cases hfirst
        exact joined (fun row hrow => absurd hrow (Option.not_mem_none row)) hrows

namespace Sections

variable {s : Sections}

theorem one_le_line_of_unitRows {u : UnitHeader} {rows : List LineRow}
    (hrows : s.unitRows u = .ok rows) : ∀ row ∈ rows, 1 ≤ row.line := by
  obtain ⟨table, -, hrows⟩ := except_bind_eq_ok hrows
  obtain ⟨root, -, hrows⟩ := except_bind_eq_ok hrows
  obtain ⟨header, -, hrows⟩ := except_bind_eq_ok hrows
  obtain ⟨-, -, hrows⟩ := except_bind_eq_ok hrows
  cases header with
  | none =>
    cases hrows
    exact fun _ => nofun
  | some h => exact LineHeader.one_le_line_of_rowsFor hrows

theorem one_le_line_of_rowsFor {fuel : Nat} {bytes : Bytes} {rows : List LineRow}
    (hrows : s.rowsFor fuel bytes = .ok rows) : ∀ row ∈ rows, 1 ≤ row.line := by
  induction fuel generalizing bytes rows with
  | zero =>
    cases bytes with
    | nil =>
      cases hrows
      exact fun _ => nofun
    | cons byte bytes => cases hrows
  | succ fuel ih =>
    cases bytes with
    | nil =>
      cases hrows
      exact fun _ => nofun
    | cons byte bytes =>
      obtain ⟨⟨u, rest⟩, -, hrows⟩ := except_bind_eq_ok hrows
      obtain ⟨own, hown, hrows⟩ := except_bind_eq_ok hrows
      obtain ⟨others, hothers, hrows⟩ := except_bind_eq_ok hrows
      cases hrows
      intro row hrow
      rcases List.mem_append.mp hrow with hrow | hrow
      · exact one_le_line_of_unitRows hown row hrow
      · exact ih hothers row hrow

end Sections

end Dwarf

namespace CodeObject

theorem one_le_line_of_lineTable {o : Elf.Object} {sourceText : Option String} {table : LineTable}
    (htable : lineTable o sourceText = .ok table) : ∀ row ∈ table.rows, 1 ≤ row.line := by
  unfold lineTable at htable
  split at htable
  · cases htable
  · cases htable
  · next rows _ hrows =>
    cases htable
    intro row hrow
    exact Dwarf.Sections.one_le_line_of_rowsFor hrows row (List.mem_mergeSort.mp hrow)

/-- **Code objects give no row of line zero.** -/
theorem read_numbered : ImageReader.Numbered read := by
  intro image format table htable
  unfold read at htable
  split at htable
  · cases htable
  · cases format with
    | singleLevel => exact one_le_line_of_lineTable htable
    | twoLevel =>
      obtain ⟨text, -, htable⟩ := except_bind_eq_ok htable
      exact one_le_line_of_lineTable htable

end CodeObject

end GpuDebug
