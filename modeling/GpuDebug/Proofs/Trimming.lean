import GpuDebug.Text.Blank
import Mathlib.Data.List.TakeWhile

/-!
# Blanks and marks in texts

* `Text.Around`: a text with blanks around it; `Text.trim_eq_iff` says that trimming finds it.
* `Text.FirstCut`: the first occurrence of a word; `Text.cut?_eq_some_iff_firstCut` says that
  cutting finds it, and `Text.firstCut_append_iff` when this is where the word was put.
* `Text.cut?_eq_some_iff`, `Text.holds_eq_true_iff`: the case of a mark of one character.
-/

namespace GpuDebug.Text

variable {core raw before after cs : List Char}

/-- Nothing but blanks. -/
def Blank (cs : List Char) : Prop :=
  ∀ c ∈ cs, isBlank c = true

instance (cs : List Char) : Decidable (Blank cs) :=
  decidable_of_iff (cs.all isBlank = true) List.all_eq_true

theorem Blank.notMem {c : Char} (h : Blank cs) (hc : isBlank c = false) : c ∉ cs :=
  fun hmem => Bool.false_ne_true (hc.symm.trans (h c hmem))

theorem Blank.reverse (h : Blank cs) : Blank cs.reverse :=
  fun c hc => h c (List.mem_reverse.mp hc)

/-! ## The start of a text -/

theorem trimStart_append (h : Blank before) (cs : List Char) :
    trimStart (before ++ cs) = trimStart cs :=
  List.dropWhile_append_of_pos h

theorem trimStart_eq_self (h : ∀ c ∈ cs.head?, isBlank c = false) : trimStart cs = cs := by
  cases cs with
  | nil => rfl
  | cons c cs => exact List.dropWhile_cons_of_neg (by simp [h c rfl])

theorem trimStart_append_cons (h : Blank before) {c : Char} (hc : isBlank c = false)
    (cs : List Char) : trimStart (before ++ c :: cs) = c :: cs := by
  rw [trimStart_append h, trimStart_eq_self]
  rintro _ ⟨⟩
  exact hc

theorem exists_blank_append_trimStart (cs : List Char) :
    ∃ before, Blank before ∧ cs = before ++ trimStart cs :=
  ⟨cs.takeWhile isBlank, fun _ => List.mem_takeWhile_imp, List.takeWhile_append_dropWhile.symm⟩

theorem head?_trimStart (cs : List Char) : ∀ c ∈ (trimStart cs).head?, isBlank c = false := by
  intro c hc
  have hfirst := List.head?_dropWhile_not isBlank cs
  rw [show (cs.dropWhile isBlank).head? = some c from hc] at hfirst
  exact hfirst

theorem trimStart_eq_nil_iff : trimStart cs = [] ↔ Blank cs :=
  List.dropWhile_eq_nil_iff

/-- Behind blanks the text goes on with a word, which does not start with a blank. -/
theorem after?_trimStart_eq_some_iff {c : Char} {word rest : List Char} (hc : isBlank c = false) :
    after? (c :: word) (trimStart cs) = some rest ↔
      ∃ before, Blank before ∧ cs = before ++ c :: (word ++ rest) := by
  rw [after?_eq_some_iff, List.cons_append]
  constructor
  · intro h
    obtain ⟨before, hbefore, hcs⟩ := exists_blank_append_trimStart cs
    exact ⟨before, hbefore, h ▸ hcs⟩
  · rintro ⟨before, hbefore, rfl⟩
    exact trimStart_append_cons hbefore hc _

/-! ## The end of a text -/

/-- The end of a text is the start of the text read backwards. -/
theorem trimEnd_eq_reverse (cs : List Char) : trimEnd cs = (trimStart cs.reverse).reverse := by
  induction cs with
  | nil => rfl
  | cons c cs ih =>
    unfold trimStart at ih ⊢
    rw [List.reverse_cons, List.dropWhile_append, trimEnd, ih]
    cases hrest : cs.reverse.dropWhile isBlank with
    | nil => by_cases hc : isBlank c = true <;> simp [hc]
    | cons d ds =>
      rw [List.isEmpty_cons, if_neg Bool.false_ne_true, List.reverse_append, List.reverse_singleton,
        List.singleton_append]
      split
      · next h => exact absurd (List.reverse_eq_nil_iff.mp h) (List.cons_ne_nil d ds)
      · next h => rw [h]

theorem trimEnd_append (h : Blank after) (cs : List Char) : trimEnd (cs ++ after) = trimEnd cs := by
  rw [trimEnd_eq_reverse, List.reverse_append, trimStart_append h.reverse, trimEnd_eq_reverse]

theorem trimEnd_eq_self (h : ∀ c ∈ cs.getLast?, isBlank c = false) : trimEnd cs = cs := by
  rw [trimEnd_eq_reverse, trimStart_eq_self (by rwa [List.head?_reverse]), List.reverse_reverse]

theorem exists_trimEnd_append_blank (cs : List Char) :
    ∃ after, Blank after ∧ cs = trimEnd cs ++ after := by
  obtain ⟨front, hblank, hcs⟩ := exists_blank_append_trimStart cs.reverse
  refine ⟨front.reverse, hblank.reverse, ?_⟩
  rw [trimEnd_eq_reverse, ← List.reverse_append, ← hcs, List.reverse_reverse]

theorem getLast?_trimEnd (cs : List Char) : ∀ c ∈ (trimEnd cs).getLast?, isBlank c = false := by
  rw [trimEnd_eq_reverse, List.getLast?_reverse]
  exact head?_trimStart cs.reverse

/-! ## Both ends -/

/-- `raw` is `core` with blanks around it, and `core` does not start or end with a blank. -/
structure Around (core raw : List Char) : Prop where
  surrounded : ∃ before after, Blank before ∧ Blank after ∧ raw = before ++ core ++ after
  first : ∀ c ∈ core.head?, isBlank c = false
  last : ∀ c ∈ core.getLast?, isBlank c = false

theorem around_trim (raw : List Char) : Around (trim raw) raw := by
  obtain ⟨before, hbefore, hraw⟩ := exists_blank_append_trimStart raw
  obtain ⟨after, hafter, hrest⟩ := exists_trimEnd_append_blank (trimStart raw)
  refine ⟨⟨before, after, hbefore, hafter, ?_⟩, fun c hc => ?_, getLast?_trimEnd _⟩
  · rw [trim, List.append_assoc, ← hrest, ← hraw]
  · refine head?_trimStart raw c ?_
    rw [hrest, List.head?_append, show (trimEnd (trimStart raw)).head? = some c from hc]
    rfl

theorem Around.trim_eq (h : Around core raw) : trim raw = core := by
  obtain ⟨before, after, hbefore, hafter, rfl⟩ := h.surrounded
  rw [trim, List.append_assoc, trimStart_append hbefore]
  cases core with
  | nil => rw [List.nil_append, trimStart_eq_nil_iff.mpr hafter, trimEnd]
  | cons c rest =>
    have hstart : trimStart (c :: rest ++ after) = c :: rest ++ after := trimStart_eq_self h.first
    rw [hstart, trimEnd_append hafter, trimEnd_eq_self h.last]

/-- **Trimming finds the text between the blanks.** -/
theorem trim_eq_iff : trim raw = core ↔ Around core raw :=
  ⟨fun h => h ▸ around_trim raw, Around.trim_eq⟩

theorem trim_trimStart (raw : List Char) : trim (trimStart raw) = trim raw := by
  rw [trim, trim, trimStart_eq_self (head?_trimStart raw)]

theorem trim_eq_nil_iff : trim raw = [] ↔ Blank raw := by
  constructor
  · intro h
    obtain ⟨before, after, hbefore, hafter, hraw⟩ := (around_trim raw).surrounded
    rw [h, List.append_nil] at hraw
    rw [hraw]
    exact fun c hc => (List.mem_append.mp hc).elim (hbefore c) (hafter c)
  · intro h
    rw [trim, trimStart_eq_nil_iff.mpr h, trimEnd]

/-- Only blanks are lost. -/
theorem Around.mem_iff {c : Char} (h : Around core raw) (hc : isBlank c = false) :
    c ∈ core ↔ c ∈ raw := by
  obtain ⟨before, after, hbefore, hafter, rfl⟩ := h.surrounded
  simp only [List.mem_append, hbefore.notMem hc, hafter.notMem hc, false_or, or_false]

/-! ## Words -/

variable {word part front back : List Char} {last c : Char}

/-- The word stands between `front` and `back`, and nowhere earlier. -/
structure FirstCut (word cs front back : List Char) : Prop where
  split : cs = front ++ word ++ back
  first : ∀ front' back', cs = front' ++ word ++ back' → front.length ≤ front'.length

/-- Induction on what stands before some occurrence. -/
theorem exists_cut?_le (word front back : List Char) :
    ∃ front' back', cut? word (front ++ word ++ back) = some (front', back') ∧
      front'.length ≤ front.length := by
  induction front with
  | nil =>
    have hafter : after? word (word ++ back) = some back := after?_eq_some_iff.mpr rfl
    refine ⟨[], back, ?_, Nat.le_refl _⟩
    rw [List.nil_append]
    cases hcs : word ++ back with
    | nil => rw [cut?, ← hcs, hafter, Option.map_some]
    | cons c cs => rw [cut?, ← hcs, hafter]
  | cons c front ih =>
    obtain ⟨front', back', hcut, hle⟩ := ih
    rw [List.cons_append, List.cons_append, cut?]
    cases after? word (c :: (front ++ word ++ back)) with
    | some rest => exact ⟨[], rest, rfl, Nat.zero_le _⟩
    | none => exact ⟨c :: front', back', by rw [hcut, Option.map_some], Nat.succ_le_succ hle⟩

/-- A text is cut at the first occurrence of the word. -/
theorem cut?_eq_some_iff_firstCut :
    cut? word cs = some (front, back) ↔ FirstCut word cs front back := by
  constructor
  · intro h
    refine ⟨eq_append_of_cut? h, fun front' back' hcs => ?_⟩
    obtain ⟨front₁, back₁, hcut, hle⟩ := exists_cut?_le word front' back'
    rw [← hcs, h] at hcut
    cases hcut
    exact hle
  · rintro ⟨hsplit, hfirst⟩
    obtain ⟨front', back', hcut, hle⟩ := exists_cut?_le word front back
    rw [← hsplit] at hcut
    have hsplit' := eq_append_of_cut? hcut
    have hlength : front.length = front'.length := Nat.le_antisymm (hfirst _ _ hsplit') hle
    rw [hsplit, List.append_assoc, List.append_assoc] at hsplit'
    obtain ⟨rfl, hrest⟩ := List.append_inj hsplit' hlength
    rw [hcut, List.append_cancel_left hrest]

theorem FirstCut.unique {front' back' : List Char} (h : FirstCut word cs front back)
    (h' : FirstCut word cs front' back') : front = front' ∧ back = back' := by
  have heq := (cut?_eq_some_iff_firstCut.mpr h).symm.trans (cut?_eq_some_iff_firstCut.mpr h')
  exact Prod.mk.inj (Option.some.inj heq)

theorem cut?_eq_none_iff_not_isInfix : cut? word cs = none ↔ ¬ word <:+: cs := by
  constructor
  · rintro hnone ⟨front, back, rfl⟩
    obtain ⟨front', back', hcut, -⟩ := exists_cut?_le word front back
    cases hnone.symm.trans hcut
  · intro h
    refine Option.eq_none_iff_forall_ne_some.mpr fun (front, back) hcut => h ?_
    exact ⟨front, back, (eq_append_of_cut? hcut).symm⟩

/-- An earlier occurrence may reach into the word that was put behind `front`, but not to its last
character. -/
theorem firstCut_append_iff (back : List Char) :
    FirstCut (part ++ [last]) (front ++ (part ++ [last]) ++ back) front back ↔
      ¬ part ++ [last] <:+: front ++ part := by
  constructor
  · rintro ⟨-, hfirst⟩ ⟨front', back', hoccurs⟩
    have hle : front.length ≤ front'.length := by
      refine hfirst front' (back' ++ last :: back) ?_
      rw [← List.append_assoc (front' ++ _), hoccurs]
      simp only [List.append_assoc, List.cons_append, List.nil_append]
    have hlength := congrArg List.length hoccurs
    simp only [List.length_append, List.length_singleton] at hlength
    omega
  · intro h
    refine ⟨rfl, fun front' back' heq => Nat.le_of_not_lt fun hlt => h ?_⟩
    have hprefix : front' ++ (part ++ [last]) <+: front ++ part := by
      have hpart : front ++ part <+: front ++ (part ++ [last]) ++ back := ⟨last :: back, by simp⟩
      refine List.prefix_of_prefix_length_le ⟨back', heq.symm⟩ hpart ?_
      simp only [List.length_append, List.length_singleton]
      omega
    obtain ⟨back', hback'⟩ := hprefix
    exact ⟨front', back', hback'⟩

/-- A word does not end in a character that is not its last. -/
theorem infix_concat_iff_of_ne (h : last ≠ c) :
    part ++ [last] <:+: cs ++ [c] ↔ part ++ [last] <:+: cs := by
  rw [List.infix_concat_iff, or_iff_right]
  rintro ⟨before, hsuffix⟩
  rw [← List.append_assoc] at hsuffix
  exact h (List.singleton_inj.mp (List.append_inj_right' hsuffix rfl))

/-! ## Marks -/

variable {mark : Char} {rest : List Char}

theorem singleton_infix_iff : [mark] <:+: cs ↔ mark ∈ cs := by
  constructor
  · intro h
    exact h.subset List.mem_cons_self
  · intro h
    obtain ⟨front, back, rfl⟩ := List.append_of_mem h
    exact ⟨front, back, by simp⟩

theorem cut?_eq_none_iff : cut? [mark] cs = none ↔ mark ∉ cs := by
  rw [cut?_eq_none_iff_not_isInfix, singleton_infix_iff]

/-- A text is cut at the first occurrence of the mark. -/
theorem cut?_eq_some_iff :
    cut? [mark] cs = some (front, rest) ↔ cs = front ++ mark :: rest ∧ mark ∉ front := by
  have hfirst : FirstCut [mark] (front ++ [mark] ++ rest) front rest ↔ mark ∉ front := by
    have hempty : FirstCut ([] ++ [mark]) (front ++ ([] ++ [mark]) ++ rest) front rest ↔
        ¬ [] ++ [mark] <:+: front ++ [] := firstCut_append_iff rest
    rwa [List.nil_append, List.append_nil, singleton_infix_iff] at hempty
  rw [cut?_eq_some_iff_firstCut]
  constructor
  · intro h
    obtain rfl := h.split
    exact ⟨by simp, hfirst.mp h⟩
  · rintro ⟨rfl, hfront⟩
    simpa using hfirst.mpr hfront

/-- A mark that does not stand in a part of the text stands behind it. -/
theorem behind_of_notMem {front' rest' : List Char} (h : mark ∉ front)
    (heq : front ++ rest = front' ++ mark :: rest') :
    ∃ between, front' = front ++ between ∧ rest = between ++ mark :: rest' := by
  rcases List.append_eq_append_iff.mp heq with ⟨between, hfront, hrest⟩ | ⟨between, hfront, hrest⟩
  · exact ⟨between, hfront, hrest⟩
  · cases between with
    | nil => exact ⟨[], by simp [hfront], hrest.symm⟩
    | cons c between =>
      obtain rfl : mark = c := (List.cons.inj hrest).1
      exact absurd (hfront ▸ List.mem_append_right front' List.mem_cons_self) h

/-- The parts of a text before and behind the first occurrence of a mark. -/
theorem append_cons_inj {front' rest' : List Char} (h : mark ∉ front) (h' : mark ∉ front') :
    front ++ mark :: rest = front' ++ mark :: rest' ↔ front = front' ∧ rest = rest' := by
  constructor
  · intro heq
    have hcut : cut? [mark] (front ++ mark :: rest) = some (front, rest) :=
      cut?_eq_some_iff.mpr ⟨rfl, h⟩
    rw [heq, cut?_eq_some_iff.mpr ⟨rfl, h'⟩] at hcut
    cases hcut
    exact ⟨rfl, rfl⟩
  · rintro ⟨rfl, rfl⟩
    rfl

theorem holds_eq_true_iff : holds [mark] cs = true ↔ mark ∈ cs := by
  rw [holds, Option.isSome_iff_ne_none, ne_eq, cut?_eq_none_iff, not_not]

end GpuDebug.Text
