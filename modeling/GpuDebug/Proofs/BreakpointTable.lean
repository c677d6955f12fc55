import GpuDebug.Host
import Mathlib.Data.List.Nodup

/-!
# Looking breakpoints up

* `BreakpointTable.get?_insert`, `BreakpointTable.get?_erase`, `Host.get?_update`: the breakpoint
  of a number after a change of the table.
* `Breakpoint.placing`: what remains of a breakpoint when its counters are left out. Hits and
  switching a breakpoint off change nothing else.
* `BreakpointTable.Ascending`: the numbers stand in ascending order. Inserting and erasing keep the
  order, and other changes keep the numbers.
-/

namespace GpuDebug

theorem Request.number_withStatement (r : Request) (statement : String) :
    (r.withStatement statement).number = r.number := by
  unfold withStatement
  split <;> rfl

namespace Breakpoint

/-- The breakpoint without its hit count and its switch. -/
def placing (b : Breakpoint) : Breakpoint :=
  { b with hitCount := 0, enabled := true }

@[simp] theorem placing_number (b : Breakpoint) : b.placing.number = b.number := rfl

@[simp] theorem placing_request (b : Breakpoint) : b.placing.request = b.request := rfl

@[simp] theorem placing_pc (b : Breakpoint) : b.placing.pc = b.pc := rfl

@[simp] theorem placing_codeAddress (b : Breakpoint) : b.placing.codeAddress = b.codeAddress := rfl

@[simp] theorem placing_ofRequest (r : Request) : (ofRequest r).placing = ofRequest r := rfl

end Breakpoint

namespace BreakpointTable

theorem mem_numbers {t : BreakpointTable} {number : Int32} :
    number ∈ t.numbers ↔ (t.get? number).isSome := by
  simp [numbers, get?, List.find?_isSome]

theorem get?_cons (c : Breakpoint) (cs : List Breakpoint) (number : Int32) :
    get? ⟨c :: cs⟩ number = if c.number = number then some c else get? ⟨cs⟩ number := by
  unfold get?
  by_cases hc : c.number = number
  · rw [List.find?_cons_of_pos (by simpa using hc), if_pos hc]
  · rw [List.find?_cons_of_neg (by simpa using hc), if_neg hc]

theorem get?_insert (t : BreakpointTable) (b : Breakpoint) (number : Int32) :
    (t.insert b).get? number = if b.number = number then some b else t.get? number := by
  obtain ⟨entries⟩ := t
  change get? ⟨insertIn b entries⟩ number = _
  induction entries with
  | nil => rw [insertIn, get?_cons]
  | cons c cs ih =>
    unfold insertIn
    by_cases hlt : b.number < c.number
    · rw [if_pos hlt, get?_cons]
    · rw [if_neg hlt]
      by_cases heq : b.number = c.number
      · rw [if_pos heq, get?_cons, get?_cons, ← heq]
        by_cases hb : b.number = number
        · rw [if_pos hb, if_pos hb]
        · rw [if_neg hb, if_neg hb, if_neg hb]
      · rw [if_neg heq, get?_cons, get?_cons, ih]
        by_cases hc : c.number = number
        · rw [if_pos hc, if_pos hc, if_neg (hc ▸ heq)]
        · rw [if_neg hc, if_neg hc]

theorem get?_erase (t : BreakpointTable) (n number : Int32) :
    (t.erase n).get? number = if n = number then none else t.get? number := by
  unfold erase get?
  rw [List.find?_filter]
  by_cases hn : n = number
  · rw [if_pos hn, List.find?_eq_none]
    intro b _
    simp [hn]
  · rw [if_neg hn]
    congr 1
    funext b
    by_cases hb : b.number = number
    · simp [hb, Ne.symm hn]
    · simp [hb]

/-- Changing a breakpoint of some number, for changes that keep the number. -/
theorem get?_modify (t : BreakpointTable) (n number : Int32) {f : Breakpoint → Breakpoint}
    (hf : ∀ b, (f b).number = b.number) :
    (t.modify n f).get? number =
      if n = number then (t.get? number).map f else t.get? number := by
  obtain ⟨entries⟩ := t
  change get? ⟨entries.map _⟩ number = _
  induction entries with
  | nil => exact (ite_self none).symm
  | cons c cs ih =>
    rw [List.map_cons, get?_cons, get?_cons, ih]
    by_cases hc : c.number = n
    · subst hc
      by_cases hn : c.number = number <;> simp [hf, hn]
    · by_cases hn : n = number
      · subst hn
        simp [hc]
      · simp [hc, hn]

/-! ## The order of the entries -/

/-- The numbers stand in ascending order, so that none occurs twice. -/
def Ascending (t : BreakpointTable) : Prop :=
  t.numbers.Pairwise (· < ·)

instance (t : BreakpointTable) : Decidable t.Ascending :=
  inferInstanceAs (Decidable (List.Pairwise _ _))

theorem ascending_empty : empty.Ascending := List.Pairwise.nil

theorem Ascending.nodup {t : BreakpointTable} (h : t.Ascending) : t.numbers.Nodup := by
  refine List.Pairwise.imp (fun {a b} hab heq => ?_) h
  rw [heq] at hab
  exact Int32.lt_irrefl hab

/-- Entries of one number are one entry. -/
theorem Ascending.eq_of_number_eq {t : BreakpointTable} (h : t.Ascending) {b c : Breakpoint}
    (hb : b ∈ t.entries) (hc : c ∈ t.entries) (heq : b.number = c.number) : b = c :=
  List.inj_on_of_nodup_map h.nodup hb hc heq

theorem mem_insertIn {b c : Breakpoint} {cs : List Breakpoint} (h : c ∈ insertIn b cs) :
    c = b ∨ c ∈ cs := by
  induction cs with
  | nil => exact .inl (List.mem_singleton.mp h)
  | cons e es ih =>
    unfold insertIn at h
    by_cases hlt : b.number < e.number
    · rw [if_pos hlt] at h
      exact List.mem_cons.mp h
    · rw [if_neg hlt] at h
      by_cases heq : b.number = e.number
      · rw [if_pos heq] at h
        exact (List.mem_cons.mp h).imp_right (List.mem_cons_of_mem e)
      · rw [if_neg heq] at h
        rcases List.mem_cons.mp h with rfl | h
        · exact .inr List.mem_cons_self
        · exact (ih h).imp_right (List.mem_cons_of_mem e)

theorem pairwise_insertIn (b : Breakpoint) {cs : List Breakpoint}
    (h : cs.Pairwise fun c e => c.number < e.number) :
    (insertIn b cs).Pairwise fun c e => c.number < e.number := by
  induction cs with
  | nil => exact List.pairwise_singleton _ b
  | cons c cs ih =>
    obtain ⟨hc, hcs⟩ := List.pairwise_cons.mp h
    unfold insertIn
    by_cases hlt : b.number < c.number
    · rw [if_pos hlt]
      refine List.pairwise_cons.mpr ⟨fun e he => ?_, h⟩
      rcases List.mem_cons.mp he with rfl | he
      · exact hlt
      · exact Int32.lt_trans hlt (hc e he)
    · rw [if_neg hlt]
      by_cases heq : b.number = c.number
      · rw [if_pos heq]
        exact List.pairwise_cons.mpr ⟨fun e he => heq ▸ hc e he, hcs⟩
      · rw [if_neg heq]
        have hgt : c.number < b.number :=
          Int32.lt_of_le_of_ne (Int32.not_lt.mp hlt) (Ne.symm heq)
        refine List.pairwise_cons.mpr ⟨fun e he => ?_, ih hcs⟩
        rcases mem_insertIn he with rfl | he
        · exact hgt
        · exact hc e he

theorem Ascending.insert {t : BreakpointTable} (h : t.Ascending) (b : Breakpoint) :
    (t.insert b).Ascending :=
  List.pairwise_map.mpr (pairwise_insertIn b (List.pairwise_map.mp h))

theorem Ascending.erase {t : BreakpointTable} (h : t.Ascending) (number : Int32) :
    (t.erase number).Ascending :=
  h.sublist (List.filter_sublist.map _)

/-- An entry that is found first has the least number. -/
theorem Ascending.number_le_of_find? {t : BreakpointTable} (h : t.Ascending)
    {p : Breakpoint → Bool} {b c : Breakpoint} (hfind : t.entries.find? p = some b)
    (hc : c ∈ t.entries) (hpc : p c = true) : b.number ≤ c.number := by
  obtain ⟨-, before, after, hsplit, hbefore⟩ := List.find?_eq_some_iff_append.mp hfind
  have hpair : t.entries.Pairwise fun c e => c.number < e.number := List.pairwise_map.mp h
  rw [hsplit] at hc hpair
  have hafter : ∀ e ∈ after, b.number < e.number :=
    (List.pairwise_cons.mp (List.pairwise_append.mp hpair).2.1).1
  rcases List.mem_append.mp hc with hc | hc
  · have hno := hbefore c hc
    simp [hpc] at hno
  · rcases List.mem_cons.mp hc with rfl | hc
    · exact Int32.le_refl _
    · exact Int32.le_of_lt (hafter c hc)

/-- The first entry of some kind is the one of the least number. -/
theorem Ascending.find?_eq_some_iff {t : BreakpointTable} (h : t.Ascending)
    {p : Breakpoint → Bool} {b : Breakpoint} :
    t.entries.find? p = some b ↔
      b ∈ t.entries ∧ p b = true ∧ ∀ c ∈ t.entries, p c = true → b.number ≤ c.number := by
  constructor
  · intro hfind
    exact ⟨List.mem_of_find?_eq_some hfind, List.find?_some hfind, fun c hc hpc =>
      h.number_le_of_find? hfind hc hpc⟩
  · rintro ⟨hb, hpb, hleast⟩
    cases hfind : t.entries.find? p with
    | none =>
      have hno := List.find?_eq_none.mp hfind b hb
      exact absurd hpb hno
    | some c =>
      have hc := List.mem_of_find?_eq_some hfind
      have hle : b.number ≤ c.number := hleast c hc (List.find?_some hfind)
      have hge : c.number ≤ b.number := h.number_le_of_find? hfind hb hpb
      rw [h.eq_of_number_eq hb hc (Int32.le_antisymm hle hge)]

/-- Changing a breakpoint, for changes that keep the number. -/
theorem numbers_modify (t : BreakpointTable) (n : Int32) {f : Breakpoint → Breakpoint}
    (hf : ∀ b, (f b).number = b.number) : (t.modify n f).numbers = t.numbers := by
  unfold modify numbers
  rw [List.map_map]
  refine List.map_congr_left fun b _ => ?_
  simp only [Function.comp_apply]
  split
  · exact hf b
  · rfl

end BreakpointTable

namespace Host

theorem numbers_update (h : Host) (n : Int32) {f : Breakpoint → Breakpoint}
    (hf : ∀ b, (f b).number = b.number) :
    (h.update n f).breakpoints.numbers = h.breakpoints.numbers := by
  unfold update
  cases h.breakpoints.get? n with
  | some b => exact h.breakpoints.numbers_modify n hf
  | none => rfl

theorem get?_add (h : Host) (r : Request) (number : Int32) :
    (h.add r).breakpoints.get? number =
      if r.number = number then some (Breakpoint.ofRequest r) else h.breakpoints.get? number :=
  h.breakpoints.get?_insert (Breakpoint.ofRequest r) number

theorem get?_update (h : Host) (n number : Int32) {f : Breakpoint → Breakpoint}
    (hf : ∀ b, (f b).number = b.number) :
    (h.update n f).breakpoints.get? number =
      if n = number then (h.breakpoints.get? number).map f else h.breakpoints.get? number := by
  unfold update
  cases hget : h.breakpoints.get? n with
  | some b => exact h.breakpoints.get?_modify n number hf
  | none =>
    change h.breakpoints.get? number = _
    by_cases hn : n = number
    · rw [if_pos hn, ← hn, hget, Option.map_none]
    · rw [if_neg hn]

/-- A change of the counters alone. -/
theorem placing_update (h : Host) (n number : Int32) {f : Breakpoint → Breakpoint}
    (hf : ∀ b : Breakpoint, (f b).placing = b.placing) :
    ((h.update n f).breakpoints.get? number).map Breakpoint.placing =
      (h.breakpoints.get? number).map Breakpoint.placing := by
  have hnumber : ∀ b : Breakpoint, (f b).number = b.number := fun b => by
    simpa using congrArg Breakpoint.number (hf b)
  rw [h.get?_update n number hnumber]
  split
  · rw [Option.map_map]
    congr 1
    funext b
    exact hf b
  · rfl

end Host

end GpuDebug
