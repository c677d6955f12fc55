import GpuDebug.Proofs.Literals

/-!
# The ways to write a literal

A number can be written as a literal in decimal, octal or hexadecimal digits; behind the mark of the
last two there may be any number of zeros, and hexadecimal letters may be in lower or upper case. A
style is one of these ways.

* `CInteger.Style`, `CInteger.Style.write`: a style, and a number written in it.
* `CInteger.denotes_iff_written`: the styles give all literals of a number.
* `CInteger.value?_every_text`: the main result. A text is read as a number below 2^64 exactly if it
  is a literal of that number with blanks around it; every other text is refused.
-/

namespace GpuDebug

/-! ## Digits -/

namespace Numeral

variable {radix n : Nat} {cs : List Char}

/-- Without its leading zero a sequence of digits denotes the same number. -/
theorem Denotes.of_cons_zero (hradix : radix ≤ 16) (h : Denotes radix ('0' :: cs) n)
    (hcs : cs ≠ []) : Denotes radix cs n := by
  have hpos : 0 < radix := by
    obtain ⟨d, hd⟩ := h.exists_digit '0' List.mem_cons_self
    exact Nat.zero_lt_of_lt hd.1
  have hzero : digit? radix '0' = some 0 := (digit?_eq_some_iff hradix).mpr ⟨hpos, .inl rfl⟩
  rw [← value?_eq_some_iff hradix, value?_of_ne_nil (List.cons_ne_nil _ _), extend?, hzero] at h
  rw [← value?_eq_some_iff hradix, value?_of_ne_nil hcs]
  simpa using h

/-- A number of several digits does not start with zero: no shorter sequence denotes it. -/
theorem toDigits_eq_zero_of_head? (h : (Nat.toDigits 10 n).head? = some '0') :
    Nat.toDigits 10 n = ['0'] := by
  obtain ⟨rest, hdigits⟩ : ∃ rest, Nat.toDigits 10 n = '0' :: rest := List.head?_eq_some_iff.mp h
  by_contra hlong
  have hrest : rest ≠ [] := fun hnil => hlong (hnil ▸ hdigits)
  have hdenotes := denotes_toDigits (by decide : 1 < 10) n
  rw [hdigits] at hdenotes
  obtain ⟨zeros, hshort⟩ := (denotes_iff_of_le_ten (by decide) (Nat.le_refl 10)).mp
    (hdenotes.of_cons_zero (by decide) hrest)
  have hlength := congrArg List.length hshort
  rw [hdigits, List.length_append, List.length_cons] at hlength
  omega

theorem Denotes.isBlank_eq_false (h : Denotes radix cs n) (hradix : radix ≤ 16) :
    ∀ c ∈ cs, Text.isBlank c = false := by
  intro c hc
  obtain ⟨d, hd⟩ := h.exists_digit c hc
  exact hd.isBlank_eq_false hradix

end Numeral

/-! ## Styles -/

namespace CInteger

open Text (Around)

variable {cs : List Char} {m n : Nat} {v : UInt64}

/-- How a literal is written. -/
inductive Style
  | decimal
  | octal (zeros : Nat)
  /-- `capitalMark` is for `0X`, `capitals` for the digits that are in upper case. -/
  | hexadecimal (capitalMark : Bool) (zeros : Nat) (capitals : Nat → Bool)

def Style.write : Style → Nat → List Char
  | decimal, n => Nat.toDigits 10 n
  | octal zeros, n => '0' :: (List.replicate zeros '0' ++ Nat.toDigits 8 n)
  | hexadecimal capitalMark zeros capitals, n =>
    '0' :: (if capitalMark then 'X' else 'x') ::
      (List.replicate zeros '0' ++ Numeral.capitalize capitals (Nat.toDigits 16 n))

theorem decimal_iff_written :
    Numeral.Denotes 10 cs n ∧ (cs.head? = some '0' → cs = ['0']) ↔ cs = Nat.toDigits 10 n := by
  constructor
  · rintro ⟨hdigits, hzero⟩
    obtain ⟨zeros, rfl⟩ := (Numeral.denotes_iff_of_le_ten (by decide) (Nat.le_refl 10)).mp hdigits
    cases zeros with
    | zero => rfl
    | succ zeros =>
      have hnil := (List.cons.inj (hzero rfl)).2
      exact absurd (List.append_eq_nil_iff.mp hnil).2 Nat.toDigits_ne_nil
  · rintro rfl
    exact ⟨Numeral.denotes_toDigits (by decide) n, Numeral.toDigits_eq_zero_of_head?⟩

/-- **The styles give all literals.** -/
theorem denotes_iff_written : Denotes cs n ↔ ∃ style : Style, cs = style.write n := by
  constructor
  · rintro (⟨hdigits, hzero⟩ | hdigits | ⟨hx, hdigits⟩)
    · exact ⟨.decimal, decimal_iff_written.mp ⟨hdigits, hzero⟩⟩
    · obtain ⟨zeros, rfl⟩ := (Numeral.denotes_iff_of_le_ten (by decide) (by decide)).mp hdigits
      exact ⟨.octal zeros, rfl⟩
    · obtain ⟨zeros, capitals, rfl⟩ :=
        (Numeral.denotes_iff_written (by decide) (Nat.le_refl 16)).mp hdigits
      rcases hx with rfl | rfl
      · exact ⟨.hexadecimal false zeros capitals, rfl⟩
      · exact ⟨.hexadecimal true zeros capitals, rfl⟩
  · rintro ⟨style, rfl⟩
    cases style with
    | decimal =>
      obtain ⟨hdigits, hzero⟩ := decimal_iff_written.mpr (rfl : Nat.toDigits 10 n = _)
      exact .decimal hdigits hzero
    | octal zeros =>
      exact .octal ((Numeral.denotes_iff_of_le_ten (by decide) (by decide)).mpr ⟨zeros, rfl⟩)
    | hexadecimal capitalMark zeros capitals =>
      refine .hexadecimal (by cases capitalMark <;> simp) ?_
      exact (Numeral.denotes_iff_written (by decide) (Nat.le_refl 16)).mpr ⟨zeros, capitals, rfl⟩

theorem Denotes.unique (h : Denotes cs m) (h' : Denotes cs n) : m = n :=
  Option.some.inj ((denotes_iff.mp h).symm.trans (denotes_iff.mp h'))

/-- There are no blanks in a literal. -/
theorem Denotes.isBlank_eq_false (h : Denotes cs n) : ∀ c ∈ cs, Text.isBlank c = false := by
  cases h with
  | decimal hcs => exact hcs.isBlank_eq_false (by decide)
  | octal hcs => exact List.forall_mem_cons.mpr ⟨rfl, hcs.isBlank_eq_false (by decide)⟩
  | hexadecimal hx hcs =>
    have hmark : ∀ x, x = 'x' ∨ x = 'X' → Text.isBlank x = false := by
      rintro _ (rfl | rfl) <;> rfl
    have hrest := hcs.isBlank_eq_false (Nat.le_refl 16)
    exact List.forall_mem_cons.mpr ⟨rfl, List.forall_mem_cons.mpr ⟨hmark _ hx, hrest⟩⟩

theorem Denotes.around (h : Denotes cs n) : Around cs cs where
  surrounded := ⟨[], [], nofun, nofun, (List.append_nil cs).symm⟩
  first c hc := h.isBlank_eq_false c (List.mem_of_mem_head? hc)
  last c hc := h.isBlank_eq_false c (List.mem_of_mem_getLast? hc)

/-! ## Texts that are read -/

theorem value?_eq_some_iff_around :
    value? cs = some v ↔ ∃ core, Around core cs ∧ Denotes core v.toNat := by
  rw [value?_eq_some_iff]
  constructor
  · intro h
    exact ⟨Text.trim cs, Text.around_trim cs, h⟩
  · rintro ⟨core, haround, hdenotes⟩
    rwa [haround.trim_eq]

/-- No number is reduced to fit. -/
theorem value?_eq_none_iff_around :
    value? cs = none ↔ ∀ core n, Around core cs → Denotes core n → UInt64.size ≤ n := by
  rw [Option.eq_none_iff_forall_ne_some]
  constructor
  · intro hnone core n haround hdenotes
    by_contra hlt
    have hn : (UInt64.ofNat n).toNat = n := UInt64.toNat_ofNat_of_lt' (Nat.lt_of_not_le hlt)
    exact hnone _ (value?_eq_some_iff_around.mpr ⟨core, haround, hn.symm ▸ hdenotes⟩)
  · intro hlarge v hv
    obtain ⟨core, haround, hdenotes⟩ := value?_eq_some_iff_around.mp hv
    exact absurd v.toNat_lt (Nat.not_lt_of_le (hlarge core _ haround hdenotes))

theorem digits_radix_le (cs : List Char) : (digits cs).1 ≤ 16 := by
  unfold digits
  split <;> simp

/-- Behind the mark of a literal there are digits of its radix, and nothing else. -/
theorem Denotes.digits (h : Denotes cs n) :
    (digits cs).2 ≠ [] ∧ ∀ c ∈ (digits cs).2, Numeral.digit? (CInteger.digits cs).1 c ≠ none := by
  have hdigits := denotes_iff.mp h
  refine ⟨fun hnil => ?_, fun c hc hnone => ?_⟩
  · rw [hnil] at hdigits
    cases hdigits
  · rw [Numeral.value?_eq_some_iff (digits_radix_le cs)] at hdigits
    exact hdigits.notMem (digits_radix_le cs) hnone hc

/-- **Reading and writing literals.** A text is read as a number exactly if it is a literal of it
with blanks around it, and is refused exactly if it is not a literal or one of 2^64 or more. The
literals of a number are what the styles write, and each of them is read as that number. Without a
digit behind the mark, or with a character there that is no digit of the radix, such as a sign or a
blank, a text is refused. -/
theorem value?_every_text (cs : List Char) :
    (∀ v, value? cs = some v ↔ ∃ core, Around core cs ∧ Denotes core v.toNat) ∧
      (value? cs = none ↔ ∀ core n, Around core cs → Denotes core n → UInt64.size ≤ n) ∧
      (∀ n, Denotes cs n ↔ ∃ style : Style, cs = style.write n) ∧
      (∀ (style : Style) (v : UInt64), value? (style.write v.toNat) = some v) ∧
      ∀ core, Around core cs →
        (digits core).2 = [] ∨
          (∃ c ∈ (digits core).2, Numeral.digit? (digits core).1 c = none) →
        value? cs = none := by
  refine ⟨fun v => value?_eq_some_iff_around, value?_eq_none_iff_around,
    fun n => denotes_iff_written, fun style v => ?_, fun core haround hbad => ?_⟩
  · have hdenotes : Denotes (style.write v.toNat) v.toNat := denotes_iff_written.mpr ⟨style, rfl⟩
    exact value?_eq_some_iff_around.mpr ⟨_, hdenotes.around, hdenotes⟩
  · refine Option.eq_none_iff_forall_ne_some.mpr fun v hv => ?_
    rw [value?_eq_some_iff, haround.trim_eq] at hv
    rcases hbad with hnil | ⟨c, hc, hnone⟩
    · exact hv.digits.1 hnil
    · exact hv.digits.2 c hc hnone

theorem signed_or_without_digits_refused :
    (Around ['-', '5'] [' ', '-', '5'] ∧ value? [' ', '-', '5'] = none) ∧
      Around ['0', 'X'] ['0', 'X', '\n'] ∧ value? ['0', 'X', '\n'] = none := by
  have hsign : Around ['-', '5'] [' ', '-', '5'] := Text.trim_eq_iff.mp (by decide)
  have hmark : Around ['0', 'X'] ['0', 'X', '\n'] := Text.trim_eq_iff.mp (by decide)
  refine ⟨⟨hsign, ?_⟩, hmark, ?_⟩
  · exact (value?_every_text _).2.2.2.2 _ hsign (.inr ⟨'-', by decide, by decide⟩)
  · exact (value?_every_text _).2.2.2.2 _ hmark (.inl rfl)

/-- The greatest number in two styles, and the next one. -/
example : value? "18446744073709551615".toList = some 18446744073709551615 ∧
    value? " 0X00fFFFffFFFFffFFFF".toList = some 18446744073709551615 ∧
    value? "02000000000000000000000".toList = none := by
  decide +kernel

end CInteger

end GpuDebug
