import GpuDebug.Proofs.CommandFormat
import GpuDebug.Proofs.Trimming
import GpuDebug.Text.Statement

/-!
# The text of a statement

The agent is sent the first statement of a source line. Three cuts make it: at the line end, behind
the semicolon and at the last character that fits the field. Each of them gives the longest part of
what it is applied to that has a certain form, so all together do.

* `Statement.Bounded`: the form of a statement.
* `Statement.isPrefix_cut`: what is left of a text is its longest part of this form.
* `Statement.extract_extract`: cutting a statement again changes nothing.
* `Statement.extract_bounded_and_received`: the main result.
-/

namespace GpuDebug.Statement

variable {cs front line s t : List Char}

/-! ## One cut at a time -/

/-- A semicolon stands at the end, if anywhere. -/
def EndsAtSemicolon (cs : List Char) : Prop :=
  ∀ front back, cs = front ++ ';' :: back → back = []

/-- One line, up to its first semicolon, that fits the field. -/
structure Bounded (cs : List Char) : Prop where
  fits : (Utf8.encode cs).length ≤ 255
  noLineFeed : '\n' ∉ cs
  noReturn : '\r' ∉ cs
  ends : EndsAtSemicolon cs

theorem endsAtSemicolon_nil : EndsAtSemicolon [] :=
  fun _ _ h => absurd h.symm (List.append_ne_nil_of_right_ne_nil _ (List.cons_ne_nil _ _))

theorem endsAtSemicolon_cons_iff {c : Char} :
    EndsAtSemicolon (c :: cs) ↔ (c = ';' → cs = []) ∧ EndsAtSemicolon cs := by
  constructor
  · intro h
    refine ⟨?_, fun front back heq => h (c :: front) back (congrArg (c :: ·) heq)⟩
    rintro rfl
    exact h [] cs rfl
  · rintro ⟨hfirst, hrest⟩ front back heq
    cases front with
    | nil =>
      obtain ⟨rfl, rfl⟩ := List.cons.inj heq
      exact hfirst rfl
    | cons d front => exact hrest front back (List.cons.inj heq).2

theorem EndsAtSemicolon.of_isPrefix (h : EndsAtSemicolon cs) (hfront : front <+: cs) :
    EndsAtSemicolon front := by
  obtain ⟨rest, rfl⟩ := hfront
  rintro before back rfl
  exact (List.append_eq_nil_iff.mp (h before (back ++ rest) (by simp))).1

theorem throughSemicolon_isPrefix (cs : List Char) : throughSemicolon cs <+: cs := by
  fun_induction throughSemicolon cs with
  | case1 => exact List.prefix_rfl
  | case2 rest => exact ⟨rest, rfl⟩
  | case3 c cs hc ih => exact List.cons_prefix_cons.mpr ⟨rfl, ih⟩

theorem endsAtSemicolon_throughSemicolon (cs : List Char) :
    EndsAtSemicolon (throughSemicolon cs) := by
  fun_induction throughSemicolon cs with
  | case1 => exact endsAtSemicolon_nil
  | case2 rest => exact endsAtSemicolon_cons_iff.mpr ⟨fun _ => rfl, endsAtSemicolon_nil⟩
  | case3 c cs hc ih => exact endsAtSemicolon_cons_iff.mpr ⟨fun h => absurd h hc, ih⟩

/-- Every part of a text in which a semicolon stands only at the end. -/
theorem isPrefix_throughSemicolon (hfront : front <+: cs) (h : EndsAtSemicolon front) :
    front <+: throughSemicolon cs := by
  induction cs generalizing front with
  | nil => exact hfront
  | cons c cs ih =>
    cases front with
    | nil => exact List.nil_prefix
    | cons d front =>
      obtain ⟨rfl, hrest⟩ := List.cons_prefix_cons.mp hfront
      obtain ⟨hfirst, hends⟩ := endsAtSemicolon_cons_iff.mp h
      by_cases hd : d = ';'
      · rw [hd, hfirst hd]
        exact List.prefix_rfl
      · rw [throughSemicolon.eq_3 _ _ hd]
        exact List.cons_prefix_cons.mpr ⟨rfl, ih hrest hends⟩

theorem forall_isLineEnd_iff : (∀ c ∈ cs, (!isLineEnd c) = true) ↔ '\n' ∉ cs ∧ '\r' ∉ cs := by
  constructor
  · intro h
    exact ⟨fun hmem => absurd (h _ hmem) (by decide), fun hmem => absurd (h _ hmem) (by decide)⟩
  · rintro ⟨hfeed, hreturn⟩ c hc
    rw [Bool.not_eq_true', isLineEnd, Bool.or_eq_false_iff, beq_eq_false_iff_ne,
      beq_eq_false_iff_ne]
    exact ⟨fun h => hfeed (h ▸ hc), fun h => hreturn (h ▸ hc)⟩

theorem isPrefix_takeWhile {p : Char → Bool} (hfront : front <+: cs) (h : ∀ c ∈ front, p c = true) :
    front <+: cs.takeWhile p := by
  obtain ⟨rest, rfl⟩ := hfront
  rw [List.takeWhile_append_of_pos h]
  exact List.prefix_append _ _

/-! ## All cuts -/

/-- What is left of a text after all cuts. -/
def cut (t : List Char) : List Char :=
  Utf8.fitting (throughSemicolon ((Text.trimStart t).takeWhile (!isLineEnd ·))) limit

theorem extract_eq (t : List Char) : extract t = if cut t = [] then [' '] else cut t := by
  unfold extract
  dsimp only
  split
  · next h => exact (if_pos h).symm
  · next h => exact (if_neg h).symm

theorem cut_isPrefix (t : List Char) : cut t <+: Text.trimStart t :=
  (Utf8.fitting_isPrefix _ _).trans
    ((throughSemicolon_isPrefix _).trans (List.takeWhile_prefix _))

theorem bounded_cut (t : List Char) : Bounded (cut t) := by
  have hpart : cut t <+: (Text.trimStart t).takeWhile (!isLineEnd ·) :=
    (Utf8.fitting_isPrefix _ _).trans (throughSemicolon_isPrefix _)
  obtain ⟨hfeed, hreturn⟩ := forall_isLineEnd_iff.mp fun c hc =>
    List.mem_takeWhile_imp (p := (!isLineEnd ·)) (hpart.subset hc)
  exact ⟨Utf8.length_encode_fitting _ _, hfeed, hreturn,
    (endsAtSemicolon_throughSemicolon _).of_isPrefix (Utf8.fitting_isPrefix _ _)⟩

/-- **What is left is the longest part that is a statement.** -/
theorem isPrefix_cut (hs : s <+: Text.trimStart t) (h : Bounded s) : s <+: cut t := by
  have hline : s <+: (Text.trimStart t).takeWhile (!isLineEnd ·) :=
    isPrefix_takeWhile hs (forall_isLineEnd_iff.mpr ⟨h.noLineFeed, h.noReturn⟩)
  exact Utf8.isPrefix_fitting (isPrefix_throughSemicolon hline h.ends) h.fits

/-- A character that is not blank does not end a line. -/
theorem bounded_singleton {c : Char} (hc : Text.isBlank c = false) : Bounded [c] where
  fits := by
    rw [Utf8.length_encode_cons]
    exact c.utf8Size_le_four.trans (by decide)
  noLineFeed h := by
    rw [← List.mem_singleton.mp h] at hc
    cases hc
  noReturn h := by
    rw [← List.mem_singleton.mp h] at hc
    cases hc
  ends := endsAtSemicolon_cons_iff.mpr ⟨fun _ => rfl, endsAtSemicolon_nil⟩

/-- Something is left of every text that is not blank. -/
theorem cut_eq_nil_iff : cut t = [] ↔ Text.Blank t := by
  rw [← Text.trimStart_eq_nil_iff]
  constructor
  · intro h
    cases hstart : Text.trimStart t with
    | nil => rfl
    | cons c rest =>
      have hc : Text.isBlank c = false := Text.head?_trimStart t c (by rw [hstart]; rfl)
      have hfirst : [c] <+: cut t := isPrefix_cut ⟨rest, hstart.symm⟩ (bounded_singleton hc)
      rw [h] at hfirst
      exact absurd (List.prefix_nil.mp hfirst) (List.cons_ne_nil c [])
  · intro h
    exact List.prefix_nil.mp (h ▸ cut_isPrefix t)

theorem extract_of_blank (h : Text.Blank t) : extract t = [' '] := by
  rw [extract_eq, if_pos (cut_eq_nil_iff.mpr h)]

theorem extract_of_not_blank (h : ¬ Text.Blank t) : extract t = cut t := by
  rw [extract_eq, if_neg (cut_eq_nil_iff.not.mpr h)]

theorem bounded_extract (t : List Char) : Bounded (extract t) := by
  by_cases h : Text.Blank t
  · rw [extract_of_blank h]
    have hends : EndsAtSemicolon [' '] := endsAtSemicolon_cons_iff.mpr ⟨nofun, endsAtSemicolon_nil⟩
    exact ⟨by decide, by decide, by decide, hends⟩
  · rw [extract_of_not_blank h]
    exact bounded_cut t

/-- A statement has no blanks at its start, so nothing of it is cut a second time. -/
theorem cut_cut (t : List Char) : cut (cut t) = cut t := by
  have hstart : Text.trimStart (cut t) = cut t := by
    refine Text.trimStart_eq_self fun c hc => Text.head?_trimStart t c ?_
    obtain ⟨rest, hrest⟩ := cut_isPrefix t
    rw [← hrest, List.head?_append, show (cut t).head? = some c from hc]
    rfl
  have hself : cut t <+: cut (cut t) :=
    isPrefix_cut ⟨[], by rw [List.append_nil, hstart]⟩ (bounded_cut t)
  have hcut := cut_isPrefix (cut t)
  rw [hstart] at hcut
  exact hcut.eq_of_length_le hself.length_le

theorem extract_extract (t : List Char) : extract (extract t) = extract t := by
  by_cases h : Text.Blank t
  · rw [extract_of_blank h]
    rfl
  · have hcut : ¬ Text.Blank (cut t) := by
      rw [← cut_eq_nil_iff, cut_cut, cut_eq_nil_iff]
      exact h
    rw [extract_of_not_blank h, extract_of_not_blank hcut, cut_cut]

theorem nul_notMem_extract (h : '\x00' ∉ t) : '\x00' ∉ extract t := by
  by_cases hblank : Text.Blank t
  · rw [extract_of_blank hblank]
    decide
  · rw [extract_of_not_blank hblank]
    exact fun hmem => h ((List.dropWhile_suffix _).subset ((cut_isPrefix t).subset hmem))

theorem extract_ne_nil (t : List Char) : extract t ≠ [] := by
  rw [extract_eq]
  split
  · exact List.cons_ne_nil _ _
  · assumption

theorem fits_extract (h : '\x00' ∉ t) :
    Wire.Fits (String.ofList (extract t)) Command.statementWidth := by
  rw [Wire.Fits, String.toList_ofList]
  exact ⟨(bounded_extract t).fits, nul_notMem_extract h⟩

/-- **The text of a statement.** What is cut from a text is not empty, has at most 255 bytes and no
line end, and a semicolon at most at its end. It is a space if the text is blank, and otherwise the
longest part of this form at the start of the text, leading blanks left out. Cutting it again
changes nothing, and if there is no NUL in the text, a command that carries it comes back from its
packet with exactly this statement. -/
theorem extract_bounded_and_received (t : List Char) :
    (extract t ≠ [] ∧ Bounded (extract t)) ∧
      (Text.Blank t ∧ extract t = [' '] ∨
        ¬ Text.Blank t ∧ extract t <+: Text.trimStart t ∧
          ∀ s, s <+: Text.trimStart t → Bounded s → s <+: extract t) ∧
      extract (extract t) = extract t ∧
      ('\x00' ∉ t → ∀ breakpoint pc line condition,
        let sent := Command.createSource breakpoint pc line (String.ofList (extract t)) condition
        Command.decode.decode sent.encode = .ok sent) := by
  refine ⟨⟨extract_ne_nil t, bounded_extract t⟩, ?_, extract_extract t, ?_⟩
  · by_cases h : Text.Blank t
    · exact .inl ⟨h, extract_of_blank h⟩
    · rw [extract_of_not_blank h]
      exact .inr ⟨h, cut_isPrefix t, fun s hs hbounded => isPrefix_cut hs hbounded⟩
  · intro h breakpoint pc line condition sent
    have hkernel : Wire.Fits "" Command.kernelWidth := ⟨by decide, by decide⟩
    have hsent : sent.carried = sent := Command.carried_eq_self (fits_extract h) hkernel
    rw [Command.decode_encode, hsent]

/-- Of 130 letters with two bytes each, 127 are left: the last one that is cut off lies across the
end of the field. The agent reads the same 127 letters. -/
theorem extract_of_long_line_received :
    let letters (count : Nat) := List.replicate count 'é'
    let sent := Command.createSource 1 4096 7 (String.ofList (letters 127)) .none
    extract (' ' :: letters 130 ++ [';', '\n', 'x']) = letters 127 ∧
      Command.decode.decode sent.encode = .ok sent := by
  intro letters sent
  have hcut : extract (' ' :: letters 130 ++ [';', '\n', 'x']) = letters 127 := by decide
  have hnul : '\x00' ∉ ' ' :: letters 130 ++ [';', '\n', 'x'] := by decide
  obtain ⟨-, -, -, hreceived⟩ :=
    extract_bounded_and_received (' ' :: letters 130 ++ [';', '\n', 'x'])
  refine ⟨hcut, ?_⟩
  have hsent := hreceived hnul 1 4096 7 .none
  rwa [hcut] at hsent

end GpuDebug.Statement
