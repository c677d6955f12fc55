import GpuDebug.Proofs.Trimming
import GpuDebug.Text.CInteger
import Mathlib.Data.List.Induction

/-!
# What literals denote

The numbers of the grammars, described without reading them from left to right.

* `Numeral.Denotes`: the number of a sequence of digits, by its last digit; it is the number that
  `Numeral.value?` computes.
* `Numeral.denotes_iff_written`: the ways to write a number in the digits of a radix.
* `CInteger.Denotes`: the decimal, octal and hexadecimal literals; `CInteger.value?_eq_some_iff`
  says that those below 2^64 are read, with or without blanks around them, and nothing else is.
-/

namespace GpuDebug

namespace Numeral

variable {radix d n : Nat} {c : Char} {cs : List Char}

/-! ## Digits -/

/-- `c` is the digit `d` of a radix, a letter in lower or upper case from ten on. -/
def IsDigit (radix d : Nat) (c : Char) : Prop :=
  d < radix ∧ (c = Nat.digitChar d ∨ c = (Nat.digitChar d).toUpper)

/-- The digits of a radix are those of radix sixteen with a lesser value. -/
theorem digit?_eq_some_iff_lt :
    digit? radix c = some d ↔ digit? 16 c = some d ∧ d < radix := by
  unfold digit?
  dsimp only
  generalize (if '0' ≤ c && c ≤ '9' then _ else _ : Nat) = value
  simp only [Bool.and_eq_true, decide_eq_true_eq, Option.ite_none_right_eq_some, Option.some.injEq]
  omega

theorem digit?_digitChar : ∀ d < 16, digit? 16 (Nat.digitChar d) = some d ∧
    digit? 16 (Nat.digitChar d).toUpper = some d := by
  decide

/-- The characters of three ranges are the digits of radix sixteen. -/
theorem digitChar_of_ranges :
    (∀ d < 10, Nat.digitChar d = Char.ofNat (d + 48)) ∧
      ∀ d < 6, Nat.digitChar (d + 10) = Char.ofNat (d + 97) ∧
        (Nat.digitChar (d + 10)).toUpper = Char.ofNat (d + 65) := by
  decide

theorem eq_ofNat_of_range {first last : Char} (hfirst : first ≤ c) (hlast : c ≤ last) :
    ∃ d, c = Char.ofNat (d + first.toNat) ∧ c.toNat - first.toNat = d ∧
      d ≤ last.toNat - first.toNat := by
  have hfirst : first.toNat ≤ c.toNat := hfirst
  have hlast : c.toNat ≤ last.toNat := hlast
  refine ⟨c.toNat - first.toNat, ?_, rfl, Nat.sub_le_sub_right hlast _⟩
  rw [Nat.sub_add_cancel hfirst, Char.ofNat_toNat]

/-- What is read as a digit is one. -/
theorem isDigit_of_digit? (h : digit? 16 c = some d) : IsDigit 16 d c := by
  unfold digit? at h
  dsimp only at h
  simp only [Bool.and_eq_true, decide_eq_true_eq, Option.ite_none_right_eq_some, Option.some.injEq]
    at h
  obtain ⟨⟨hlt, -⟩, hvalue⟩ := h
  rw [hvalue] at hlt
  refine ⟨hlt, ?_⟩
  split at hvalue
  · next hrange =>
    obtain ⟨e, hc, he, hmost⟩ := eq_ofNat_of_range hrange.1 hrange.2
    obtain rfl : e = d := he.symm.trans hvalue
    exact .inl (hc.trans (digitChar_of_ranges.1 e (Nat.lt_succ_of_le hmost)).symm)
  split at hvalue
  · next hrange =>
    obtain ⟨e, hc, he, hmost⟩ := eq_ofNat_of_range hrange.1 hrange.2
    obtain rfl : e + 10 = d := (congrArg (· + 10) he).symm.trans hvalue
    exact .inl (hc.trans (digitChar_of_ranges.2 e (Nat.lt_succ_of_le hmost)).1.symm)
  split at hvalue
  · next hrange =>
    obtain ⟨e, hc, he, hmost⟩ := eq_ofNat_of_range hrange.1 hrange.2
    obtain rfl : e + 10 = d := (congrArg (· + 10) he).symm.trans hvalue
    exact .inr (hc.trans (digitChar_of_ranges.2 e (Nat.lt_succ_of_le hmost)).2.symm)
  · exact absurd (hvalue ▸ hlt) (Nat.lt_irrefl 16)

theorem digit?_eq_some_iff (h : radix ≤ 16) : digit? radix c = some d ↔ IsDigit radix d c := by
  rw [digit?_eq_some_iff_lt]
  constructor
  · rintro ⟨hdigit, hlt⟩
    exact ⟨hlt, (isDigit_of_digit? hdigit).2⟩
  · rintro ⟨hlt, rfl | rfl⟩
    · exact ⟨(digit?_digitChar d (Nat.lt_of_lt_of_le hlt h)).1, hlt⟩
    · exact ⟨(digit?_digitChar d (Nat.lt_of_lt_of_le hlt h)).2, hlt⟩

theorem IsDigit.isBlank_eq_false (h : IsDigit radix d c) (hradix : radix ≤ 16) :
    Text.isBlank c = false := by
  have hdigit : ∀ d < 16, Text.isBlank (Nat.digitChar d) = false ∧
      Text.isBlank (Nat.digitChar d).toUpper = false := by decide
  obtain ⟨hlt, rfl | rfl⟩ := h
  · exact (hdigit d (Nat.lt_of_lt_of_le hlt hradix)).1
  · exact (hdigit d (Nat.lt_of_lt_of_le hlt hradix)).2

/-! ## Sequences of digits -/

/-- The numbers that sequences of digits denote. -/
inductive Denotes (radix : Nat) : List Char → Nat → Prop
  | digit {c : Char} {d : Nat} : IsDigit radix d c → Denotes radix [c] d
  | append {cs : List Char} {n : Nat} {c : Char} {d : Nat} :
    Denotes radix cs n → IsDigit radix d c → Denotes radix (cs ++ [c]) (n * radix + d)

theorem extend?_append (start : Nat) (cs others : List Char) :
    extend? radix start (cs ++ others) =
      (extend? radix start cs).bind (extend? radix · others) := by
  induction cs generalizing start with
  | nil => rfl
  | cons c cs ih =>
    rw [List.cons_append, extend?, extend?]
    cases digit? radix c with
    | none => rfl
    | some d => exact ih _

theorem value?_of_ne_nil (h : cs ≠ []) : value? radix cs = extend? radix 0 cs := by
  cases cs with
  | nil => exact absurd rfl h
  | cons c cs => rfl

theorem extend?_singleton (start : Nat) :
    extend? radix start [c] = (digit? radix c).map (start * radix + ·) := by
  rw [extend?]
  cases digit? radix c <;> rfl

/-- **The number that is read is the one that the digits denote.** -/
theorem value?_eq_some_iff (h : radix ≤ 16) : value? radix cs = some n ↔ Denotes radix cs n := by
  constructor
  · intro hvalue
    induction cs using List.reverseRecOn generalizing n with
    | nil => cases hvalue
    | append_singleton cs c ih =>
      rw [value?_of_ne_nil (by simp), extend?_append] at hvalue
      obtain ⟨m, hm, hlast⟩ := Option.bind_eq_some_iff.mp hvalue
      rw [extend?_singleton, Option.map_eq_some_iff] at hlast
      obtain ⟨d, hd, rfl⟩ := hlast
      rw [digit?_eq_some_iff h] at hd
      cases cs with
      | nil =>
        cases hm
        rw [Nat.zero_mul, Nat.zero_add]
        exact .digit hd
      | cons first cs => exact .append (ih hm) hd
  · intro hdenotes
    have hextend : extend? radix 0 cs = some n := by
      induction hdenotes with
      | digit hd =>
        rw [extend?_singleton, (digit?_eq_some_iff h).mpr hd, Option.map_some, Nat.zero_mul,
          Nat.zero_add]
      | append hcs hd ih =>
        rw [extend?_append, ih, Option.bind_some, extend?_singleton, (digit?_eq_some_iff h).mpr hd,
          Option.map_some]
    cases hdenotes <;> rwa [value?_of_ne_nil (by simp)]

theorem Denotes.exists_digit (h : Denotes radix cs n) : ∀ c ∈ cs, ∃ d, IsDigit radix d c := by
  induction h with
  | digit hd =>
    intro c hc
    exact List.mem_singleton.mp hc ▸ ⟨_, hd⟩
  | append _ hd ih =>
    intro c hc
    rcases List.mem_append.mp hc with hc | hc
    · exact ih c hc
    · exact List.mem_singleton.mp hc ▸ ⟨_, hd⟩

/-- A character that is no digit stands in no sequence of digits. -/
theorem Denotes.notMem (h : Denotes radix cs n) (hradix : radix ≤ 16) (hc : digit? radix c = none) :
    c ∉ cs := by
  intro hmem
  obtain ⟨d, hd⟩ := h.exists_digit c hmem
  rw [(digit?_eq_some_iff hradix).mpr hd] at hc
  cases hc

/-! ## Written numbers -/

/-- The same digits, some of them in upper case. -/
def capitalize (capitals : Nat → Bool) (cs : List Char) : List Char :=
  cs.mapIdx fun i c => if capitals i then c.toUpper else c

theorem capitalize_append_singleton (capitals : Nat → Bool) (cs : List Char) (c : Char) :
    capitalize capitals (cs ++ [c]) =
      capitalize capitals cs ++ [if capitals cs.length then c.toUpper else c] :=
  List.mapIdx_concat

theorem capitalize_congr {capitals others : Nat → Bool}
    (h : ∀ i < cs.length, capitals i = others i) :
    capitalize capitals cs = capitalize others cs :=
  List.mapIdx_eq_mapIdx_iff.mpr fun i hi => by rw [h i hi]

/-- A digit stays the same digit in upper case. -/
theorem IsDigit.capital (h : IsDigit radix d c) (hradix : radix ≤ 16) (capital : Bool) :
    IsDigit radix d (if capital then c.toUpper else c) := by
  have hupper : ∀ d < 16, (Nat.digitChar d).toUpper.toUpper = (Nat.digitChar d).toUpper := by decide
  refine ⟨h.1, ?_⟩
  split
  · rcases h.2 with rfl | rfl
    · exact .inr rfl
    · exact .inr (hupper d (Nat.lt_of_lt_of_le h.1 hradix))
  · exact h.2

theorem Denotes.capitalize (h : Denotes radix cs n) (hradix : radix ≤ 16) (capitals : Nat → Bool) :
    Denotes radix (capitalize capitals cs) n := by
  induction h with
  | digit hd => exact .digit (hd.capital hradix _)
  | append _ hd ih =>
    rw [capitalize_append_singleton]
    exact ih.append (hd.capital hradix _)

theorem Denotes.cons_zero (h : Denotes radix cs n) : Denotes radix ('0' :: cs) n := by
  induction h with
  | digit hd =>
    have hzero : Denotes radix ['0'] 0 := .digit ⟨Nat.zero_lt_of_lt hd.1, .inl rfl⟩
    simpa using hzero.append hd
  | append _ hd ih => exact ih.append hd

theorem denotes_toDigits (hradix : 1 < radix) (n : Nat) :
    Denotes radix (Nat.toDigits radix n) n := by
  induction n using Nat.strongRecOn with
  | ind n ih =>
    rw [Nat.toDigits_eq_if hradix]
    split
    · next hlt => exact .digit ⟨hlt, .inl rfl⟩
    · next hge =>
      have hlt : n / radix < n := Nat.div_lt_self (by omega) hradix
      have hlast : IsDigit radix (n % radix) (Nat.digitChar (n % radix)) :=
        ⟨Nat.mod_lt n (Nat.zero_lt_of_lt hradix), .inl rfl⟩
      have happend := (ih (n / radix) hlt).append hlast
      rwa [Nat.div_add_mod'] at happend

/-- **The digits of a number are written with any number of zeros before them**, each of them in
lower or upper case, and in no other way. -/
theorem denotes_iff_written (hradix : 1 < radix) (hmost : radix ≤ 16) :
    Denotes radix cs n ↔ ∃ zeros capitals,
      cs = List.replicate zeros '0' ++ capitalize capitals (Nat.toDigits radix n) := by
  constructor
  · intro h
    induction h with
    | @digit c d hd =>
      rw [Nat.toDigits_of_lt_base hd.1]
      rcases hd.2 with rfl | rfl
      · exact ⟨0, fun _ => false, rfl⟩
      · exact ⟨0, fun _ => true, rfl⟩
    | @append cs n c d _ hd ih =>
      obtain ⟨zeros, capitals, rfl⟩ := ih
      obtain ⟨capital, rfl⟩ : ∃ capital : Bool,
          c = if capital then (Nat.digitChar d).toUpper else Nat.digitChar d :=
        hd.2.elim (⟨false, ·⟩) (⟨true, ·⟩)
      rcases Nat.eq_zero_or_pos n with rfl | hpos
      · -- The digit of zero becomes one more leading zero.
        refine ⟨zeros + 1, fun _ => capital, ?_⟩
        have hzero : capitalize capitals ['0'] = ['0'] := by simp [capitalize]
        rw [Nat.zero_mul, Nat.zero_add, Nat.toDigits_zero, Nat.toDigits_of_lt_base hd.1,
          List.replicate_succ', hzero]
        rfl
      · have hdigits := Nat.toDigits_append_toDigits hradix hpos hd.1
        rw [Nat.toDigits_of_lt_base hd.1, Nat.mul_comm] at hdigits
        refine ⟨zeros, Function.update capitals (Nat.toDigits radix n).length capital, ?_⟩
        rw [← hdigits, capitalize_append_singleton, Function.update_self, List.append_assoc]
        congr 2
        exact capitalize_congr fun i hi => (Function.update_of_ne hi.ne _ _).symm
  · rintro ⟨zeros, capitals, rfl⟩
    induction zeros with
    | zero => exact (denotes_toDigits hradix n).capitalize hmost capitals
    | succ zeros ih => exact ih.cons_zero

theorem toUpper_of_isDigit (h : c.isDigit = true) : c.toUpper = c := by
  refine dif_neg fun hlower => ?_
  simp only [Char.isDigit, Bool.and_eq_true, decide_eq_true_eq] at h
  exact absurd (UInt32.le_trans hlower.1 h.2) (by decide)

/-- Up to radix ten, upper and lower case do not differ. -/
theorem capitalize_toDigits (hpos : 0 < radix) (hmost : radix ≤ 10) (capitals : Nat → Bool)
    (n : Nat) : capitalize capitals (Nat.toDigits radix n) = Nat.toDigits radix n := by
  refine List.ext_getElem List.length_mapIdx fun i _ hi => ?_
  have hdigit := Nat.isDigit_of_mem_toDigits hpos hmost (List.getElem_mem hi)
  simp only [capitalize, List.getElem_mapIdx, toUpper_of_isDigit hdigit, ite_self]

theorem denotes_iff_of_le_ten (hradix : 1 < radix) (hmost : radix ≤ 10) :
    Denotes radix cs n ↔ ∃ zeros, cs = List.replicate zeros '0' ++ Nat.toDigits radix n := by
  rw [denotes_iff_written hradix (Nat.le_trans hmost (by decide))]
  simp only [capitalize_toDigits (Nat.zero_lt_of_lt hradix) hmost, exists_const]

end Numeral

/-! ## Literals -/

namespace CInteger

variable {cs : List Char} {n : Nat} {v : UInt64}

/-- The literals and their numbers. A decimal literal has no leading zero, unless it is zero. -/
inductive Denotes : List Char → Nat → Prop
  | decimal {cs : List Char} {n : Nat} :
    Numeral.Denotes 10 cs n → (cs.head? = some '0' → cs = ['0']) → Denotes cs n
  | octal {cs : List Char} {n : Nat} : Numeral.Denotes 8 cs n → Denotes ('0' :: cs) n
  | hexadecimal {x : Char} {cs : List Char} {n : Nat} :
    x = 'x' ∨ x = 'X' → Numeral.Denotes 16 cs n → Denotes ('0' :: x :: cs) n

/-- The mark and the first digits of a literal tell its radix. -/
theorem denotes_iff : Denotes cs n ↔ Numeral.value? (digits cs).1 (digits cs).2 = some n := by
  constructor
  · rintro (⟨hdigits, hzero⟩ | hdigits | ⟨hx, hdigits⟩)
    · have hradix : digits cs = (10, cs) := by
        unfold digits
        split
        · cases hzero rfl
        · cases hzero rfl
        · cases hzero rfl
        · rfl
      rw [hradix]
      exact (Numeral.value?_eq_some_iff (by decide : 10 ≤ 16)).mpr hdigits
    · next cs =>
      have hradix : digits ('0' :: cs) = (8, cs) := by
        have hx : 'x' ∉ cs := hdigits.notMem (by decide) (by decide)
        have hX : 'X' ∉ cs := hdigits.notMem (by decide) (by decide)
        cases cs with
        | nil => cases (Numeral.value?_eq_some_iff (by decide)).mpr hdigits
        | cons c cs =>
          rw [List.mem_cons, not_or] at hx hX
          unfold digits
          split
          · next heq => cases heq; exact absurd rfl hx.1
          · next heq => cases heq; exact absurd rfl hX.1
          · next heq => cases heq; rfl
          · next hother => exact absurd rfl (hother c cs)
      rw [hradix]
      exact (Numeral.value?_eq_some_iff (by decide : 8 ≤ 16)).mpr hdigits
    · have hvalue := (Numeral.value?_eq_some_iff (Nat.le_refl 16)).mpr hdigits
      rcases hx with rfl | rfl <;> exact hvalue
  · intro hvalue
    unfold digits at hvalue
    split at hvalue
    · exact .hexadecimal (.inl rfl) ((Numeral.value?_eq_some_iff (by decide)).mp hvalue)
    · exact .hexadecimal (.inr rfl) ((Numeral.value?_eq_some_iff (by decide)).mp hvalue)
    · exact .octal ((Numeral.value?_eq_some_iff (by decide)).mp hvalue)
    · next hlong =>
      refine .decimal ((Numeral.value?_eq_some_iff (by decide)).mp hvalue) fun hzero => ?_
      cases cs with
      | nil => cases hzero
      | cons c rest =>
        cases hzero
        cases rest with
        | nil => rfl
        | cons d rest => exact absurd rfl (hlong d rest)

/-- **A text is read as a number exactly if it is a literal below 2^64 with blanks around it.** -/
theorem value?_eq_some_iff : value? cs = some v ↔ Denotes (Text.trim cs) v.toNat := by
  rw [denotes_iff]
  unfold value?
  dsimp only
  split
  · next m hm =>
    rw [hm, Option.some.injEq, Option.ite_none_right_eq_some, Option.some.injEq]
    constructor
    · rintro ⟨hlt, rfl⟩
      exact (UInt64.toNat_ofNat_of_lt' hlt).symm
    · rintro rfl
      exact ⟨v.toNat_lt, UInt64.ofNat_toNat⟩
  · next hnone =>
    rw [hnone]
    exact iff_of_false nofun nofun

theorem value?_eq_none_iff : value? cs = none ↔ ∀ v : UInt64, ¬ Denotes (Text.trim cs) v.toNat := by
  simp only [Option.eq_none_iff_forall_ne_some, ne_eq, value?_eq_some_iff]

/-- There is no colon in a literal. -/
theorem Denotes.colon_notMem (h : Denotes cs n) : ':' ∉ cs := by
  cases h with
  | decimal hdigits => exact hdigits.notMem (by decide) (by decide)
  | octal hdigits =>
    exact List.not_mem_cons_of_ne_of_not_mem (by decide) (hdigits.notMem (by decide) (by decide))
  | hexadecimal hx hdigits =>
    refine List.not_mem_cons_of_ne_of_not_mem (by decide) ?_
    refine List.not_mem_cons_of_ne_of_not_mem ?_ (hdigits.notMem (by decide) (by decide))
    rcases hx with rfl | rfl <;> decide

end CInteger

end GpuDebug
