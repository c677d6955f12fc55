import GpuDebug.Text.Utf8

/-!
# Texts and their bytes

* `Utf8.decode_encode`: a text is read back from its bytes.
* `Utf8.takeWhile_encode`: the bytes up to the first zero are those of the text up to its first
  NUL.
* `Utf8.eq_fitting_iff`: the part of a text that fits a bound is the longest one.
-/

namespace GpuDebug.Utf8

/-! ## One character -/

theorem toNat_ofNat {n : Nat} (h : n < 256) : (UInt8.ofNat n).toNat = n :=
  UInt8.toNat_ofNat_of_lt' h

theorem isContinuation_ofNat {n : Nat} (h : n < 64) :
    isContinuation (UInt8.ofNat (n + 128)) = true := by
  have hn : (UInt8.ofNat (n + 128)).toNat = n + 128 := toNat_ofNat (by omega)
  simp only [isContinuation, UInt8.le_iff_toNat_le, hn, UInt8.toNat_ofNat, Bool.and_eq_true,
    decide_eq_true_eq]
  omega

theorem payload_ofNat {n : Nat} (h : n < 64) : payload (UInt8.ofNat (n + 128)) = n := by
  rw [payload, toNat_ofNat (by omega)]
  omega

/-- What may follow the first byte of three. -/
theorem second_ofNat_three {high middle : Nat} (hhigh : high < 16) (hmiddle : middle < 64)
    (hlow : high = 0 → 32 ≤ middle) (hsurrogate : high = 13 → middle < 32) :
    second (UInt8.ofNat (high + 224)) (UInt8.ofNat (middle + 128)) = true := by
  have hb : (UInt8.ofNat (high + 224)).toNat = high + 224 := toNat_ofNat (by omega)
  have hc : (UInt8.ofNat (middle + 128)).toNat = middle + 128 := toNat_ofNat (by omega)
  simp only [second, isContinuation, beq_iff_eq, ← UInt8.toNat_inj, UInt8.le_iff_toNat_le, hb, hc,
    UInt8.toNat_ofNat]
  grind

/-- What may follow the first byte of four. -/
theorem second_ofNat_four {high middle : Nat} (hhigh : high < 5) (hmiddle : middle < 64)
    (hlow : high = 0 → 16 ≤ middle) (hmost : high = 4 → middle < 16) :
    second (UInt8.ofNat (high + 240)) (UInt8.ofNat (middle + 128)) = true := by
  have hb : (UInt8.ofNat (high + 240)).toNat = high + 240 := toNat_ofNat (by omega)
  have hc : (UInt8.ofNat (middle + 128)).toNat = middle + 128 := toNat_ofNat (by omega)
  simp only [second, isContinuation, beq_iff_eq, ← UInt8.toNat_inj, UInt8.le_iff_toNat_le, hb, hc,
    UInt8.toNat_ofNat]
  grind

section Lead

variable {high middle low last : Nat} (rest : List UInt8)

theorem lead_one {n : Nat} (h : n < 128) : lead (UInt8.ofNat n) rest = (Char.ofNat n, 0) := by
  have hn : (UInt8.ofNat n).toNat = n := toNat_ofNat (by omega)
  have hless : UInt8.ofNat n < 0x80 := UInt8.lt_iff_toNat_lt.mpr (hn.symm ▸ h)
  unfold lead
  rw [if_pos hless, hn]

theorem lead_two (hhigh : 2 ≤ high) (hmost : high < 32) (hlow : low < 64) :
    lead (UInt8.ofNat (high + 192)) (UInt8.ofNat (low + 128) :: rest) =
      (Char.ofNat (high * 64 + low), 1) := by
  have hb : (UInt8.ofNat (high + 192)).toNat = high + 192 := toNat_ofNat (by omega)
  have hpayload : (high + 192) % 32 = high := by omega
  unfold lead
  simp only [UInt8.lt_iff_toNat_lt, UInt8.le_iff_toNat_le, hb, UInt8.toNat_ofNat, Bool.and_eq_true,
    decide_eq_true_eq, isContinuation_ofNat hlow, payload_ofNat hlow, if_true, hpayload]
  rw [if_neg (by omega), if_pos (by omega)]

theorem lead_three (hhigh : high < 16) (hmiddle : middle < 64) (hlow : low < 64)
    (hleast : high = 0 → 32 ≤ middle) (hsurrogate : high = 13 → middle < 32) :
    lead (UInt8.ofNat (high + 224))
        (UInt8.ofNat (middle + 128) :: UInt8.ofNat (low + 128) :: rest) =
      (Char.ofNat ((high * 64 + middle) * 64 + low), 2) := by
  have hb : (UInt8.ofNat (high + 224)).toNat = high + 224 := toNat_ofNat (by omega)
  have hpayload : (high + 224) % 16 = high := by omega
  unfold lead
  simp only [second_ofNat_three hhigh hmiddle hleast hsurrogate, UInt8.lt_iff_toNat_lt,
    UInt8.le_iff_toNat_le, hb, UInt8.toNat_ofNat, Bool.and_eq_true, decide_eq_true_eq,
    isContinuation_ofNat hlow, payload_ofNat hmiddle, payload_ofNat hlow, Bool.not_true,
    Bool.false_eq_true, if_false, hpayload]
  rw [if_neg (by omega), if_neg (by omega), if_pos (by omega)]

theorem lead_four (hhigh : high < 5) (hmiddle : middle < 64) (hlow : low < 64) (hlast : last < 64)
    (hleast : high = 0 → 16 ≤ middle) (hmost : high = 4 → middle < 16) :
    lead (UInt8.ofNat (high + 240))
        (UInt8.ofNat (middle + 128) :: UInt8.ofNat (low + 128) :: UInt8.ofNat (last + 128) ::
          rest) =
      (Char.ofNat (((high * 64 + middle) * 64 + low) * 64 + last), 3) := by
  have hb : (UInt8.ofNat (high + 240)).toNat = high + 240 := toNat_ofNat (by omega)
  have hpayload : (high + 240) % 8 = high := by omega
  unfold lead
  simp only [second_ofNat_four hhigh hmiddle hleast hmost, UInt8.lt_iff_toNat_lt,
    UInt8.le_iff_toNat_le, hb, UInt8.toNat_ofNat, Bool.and_eq_true, decide_eq_true_eq,
    isContinuation_ofNat hlow, isContinuation_ofNat hlast, payload_ofNat hmiddle,
    payload_ofNat hlow, payload_ofNat hlast, Bool.not_true, Bool.false_eq_true, if_false, hpayload]
  rw [if_neg (by omega), if_neg (by omega), if_neg (by omega), if_pos (by omega)]

end Lead

/-- The bytes of a character read as that character. -/
theorem decodeAfter_encodeChar (c : Char) (rest : List UInt8) :
    decodeAfter 0 (String.utf8EncodeChar c ++ rest) = c :: decodeAfter 0 rest := by
  have hvalid : c.toNat < 0xD800 ∨ 0xDFFF < c.toNat ∧ c.toNat < 0x110000 := c.valid
  have hself : ∀ n, n = c.toNat → Char.ofNat n = c := fun n hn => hn ▸ Char.ofNat_toNat c
  have hv : c.val.toNat = c.toNat := rfl
  rw [String.utf8EncodeChar.eq_1, hv]
  generalize hn : c.toNat = n at hvalid hself
  split
  · next h =>
    rw [List.singleton_append, decodeAfter, lead_one rest (by omega), hself n rfl]
  split
  · next h =>
    have hhigh : n / 64 % 32 = n / 64 := by omega
    rw [hhigh, List.cons_append, List.singleton_append, decodeAfter,
      lead_two rest (by omega) (by omega) (by omega), hself _ (by omega)]
    rfl
  split
  · next h =>
    have hhigh : n / 4096 % 16 = n / 4096 := by omega
    rw [hhigh, List.cons_append, List.cons_append, List.singleton_append, decodeAfter,
      lead_three rest (by omega) (by omega) (by omega) (by omega) (by omega), hself _ (by omega)]
    rfl
  · have hhigh : n / 262144 % 8 = n / 262144 := by omega
    rw [hhigh, List.cons_append, List.cons_append, List.cons_append, List.singleton_append,
      decodeAfter, lead_four rest (by omega) (by omega) (by omega) (by omega) (by omega) (by omega),
      hself _ (by omega)]
    rfl

/-- **A text is read back from its bytes.** -/
theorem decode_encode (cs : List Char) : decode (encode cs) = cs := by
  unfold decode
  induction cs with
  | nil => rfl
  | cons c cs ih => rw [encode_cons, decodeAfter_encodeChar, ih]

/-! ## The first zero -/

theorem zero_ne_ofNat {n : Nat} (hpos : 0 < n) (h : n < 256) : (0 : UInt8) ≠ UInt8.ofNat n := by
  intro heq
  rw [← UInt8.toNat_inj, toNat_ofNat h] at heq
  exact Nat.ne_of_lt hpos heq

/-- Only NUL has a byte that is zero. -/
theorem zero_mem_encodeChar_iff (c : Char) : 0 ∈ String.utf8EncodeChar c ↔ c = '\x00' := by
  constructor
  · intro h
    have hzero : c.val.toNat = 0 := by
      rw [String.utf8EncodeChar.eq_1] at h
      generalize c.val.toNat = n at h
      split at h
      · have heq := List.mem_singleton.mp h
        exact Nat.eq_zero_of_not_pos fun hpos => zero_ne_ofNat hpos (by omega) heq
      -- Every byte of a longer form has its highest bit set.
      split at h
      · simp only [List.mem_cons, List.not_mem_nil, or_false] at h
        rcases h with h | h <;> exact absurd h (zero_ne_ofNat (by omega) (by omega))
      split at h
      · simp only [List.mem_cons, List.not_mem_nil, or_false] at h
        rcases h with h | h | h <;> exact absurd h (zero_ne_ofNat (by omega) (by omega))
      · simp only [List.mem_cons, List.not_mem_nil, or_false] at h
        rcases h with h | h | h | h <;> exact absurd h (zero_ne_ofNat (by omega) (by omega))
    exact Char.ext (UInt32.toNat_inj.mp hzero)
  · rintro rfl
    decide

/-- The bytes up to the first zero are those of the text up to its first NUL. -/
theorem takeWhile_encode (cs : List Char) :
    (encode cs).takeWhile (· != 0) = encode (cs.takeWhile (· != '\x00')) := by
  induction cs with
  | nil => rfl
  | cons c cs ih =>
    rw [encode_cons]
    by_cases hc : c = '\x00'
    · subst hc
      rfl
    · have hbytes : ∀ b ∈ String.utf8EncodeChar c, (b != 0) = true := by
        rintro b hb
        refine bne_iff_ne.mpr fun h => hc ((zero_mem_encodeChar_iff c).mp (h ▸ hb))
      rw [List.takeWhile_append_of_pos hbytes, ih,
        List.takeWhile_cons_of_pos (by exact bne_iff_ne.mpr hc), encode_cons]

/-! ## The part that fits -/

theorem length_encode_cons (c : Char) (cs : List Char) :
    (encode (c :: cs)).length = c.utf8Size + (encode cs).length := by
  rw [encode_cons, List.length_append, String.length_utf8EncodeChar]

/-- Every part of a text, from its start, that fits a bound is a part of the fitting one. -/
theorem isPrefix_fitting {front cs : List Char} {limit : Nat} (hfront : front <+: cs)
    (hfits : (encode front).length ≤ limit) : front <+: fitting cs limit := by
  induction cs generalizing front limit with
  | nil => exact hfront
  | cons c cs ih =>
    cases front with
    | nil => exact List.nil_prefix
    | cons d front =>
      obtain ⟨rfl, hrest⟩ := List.cons_prefix_cons.mp hfront
      rw [length_encode_cons] at hfits
      rw [fitting, if_pos (by omega)]
      exact List.cons_prefix_cons.mpr ⟨rfl, ih hrest (by omega)⟩

/-- **The fitting part is the longest one**: it is a part of the text from its start, it fits, and
every part that fits is a part of it. -/
theorem eq_fitting_iff {front cs : List Char} {limit : Nat} :
    front = fitting cs limit ↔ front <+: cs ∧ (encode front).length ≤ limit ∧
      ∀ other, other <+: cs → (encode other).length ≤ limit → other <+: front := by
  constructor
  · rintro rfl
    exact ⟨fitting_isPrefix cs limit, length_encode_fitting cs limit,
      fun other hother hfits => isPrefix_fitting hother hfits⟩
  · rintro ⟨hfront, hfits, hlongest⟩
    have hle := (isPrefix_fitting hfront hfits).length_le
    exact (isPrefix_fitting hfront hfits).eq_of_length_le
      (hlongest _ (fitting_isPrefix cs limit) (length_encode_fitting cs limit)).length_le

end GpuDebug.Utf8
