import GpuDebug.Kernels
import Mathlib.Algebra.Order.Floor.Div
import Mathlib.Order.Bounds.Defs

/-!
# The number of work-groups

The groups of a dispatch cover its grid, axis by axis. Sizes may be any signed words; those below
one count as one.

* `Dispatch.Fewest`: the least number of groups that cover an axis.
* `Dispatch.wordCount`: the count as words of 32 bits give it.
* `Dispatch.groupCount_fewest`: the main result.
-/

namespace GpuDebug.Dispatch

/-! ## Extents -/

/-- What a size counts as. -/
def extent (size : Int32) : Nat :=
  (max size.toInt 1).toNat

theorem coe_extent (size : Int32) : (extent size : ℤ) = max size.toInt 1 :=
  Int.toNat_of_nonneg (le_max_of_le_right Int.one_nonneg)

theorem extent_pos (size : Int32) : 0 < extent size := by
  have h : (1 : ℤ) ≤ extent size := coe_extent size ▸ le_max_right _ _
  exact_mod_cast h

theorem extent_lt (size : Int32) : extent size < 2 ^ 31 := by
  have h : (extent size : ℤ) < 2 ^ 31 := coe_extent size ▸ max_lt size.toInt_lt (by decide)
  exact_mod_cast h

/-- Rounding up is the division of the library. -/
theorem axisCount_eq (grid group : Int32) :
    axisCount grid group = Int32.ofNat (extent grid ⌈/⌉ extent group) := by
  rw [Nat.ceilDiv_eq_add_pred_div, Nat.add_sub_assoc (extent_pos group)]
  rfl

theorem ceilDiv_le_extent (grid group : Int32) :
    extent grid ⌈/⌉ extent group ≤ extent grid := by
  rw [ceilDiv_le_iff_le_mul (extent_pos group)]
  exact Nat.le_mul_of_pos_left _ (extent_pos group)

/-- The count is not wrapped. -/
theorem toInt_axisCount (grid group : Int32) :
    (axisCount grid group).toInt = (extent grid ⌈/⌉ extent group : ℕ) := by
  rw [axisCount_eq]
  exact Int32.toInt_ofNat_of_lt ((ceilDiv_le_extent grid group).trans_lt (extent_lt grid))

/-! ## Words -/

/-- The quotient of two words, and one more if something is left. -/
def wordQuotient (a b : UInt32) : UInt32 :=
  if a % b = 0 then a / b else a / b + 1

/-- The count in words of 32 bits: sizes below one are raised to one, the sizes are divided as words
without a sign, and the quotient is taken as a word with a sign. -/
def wordCount (grid group : Int32) : Int32 :=
  (wordQuotient (max grid 1).toUInt32 (max group 1).toUInt32).toInt32

/-- Rounding up by the rest of a division. -/
theorem ceilDiv_eq_ite {a b : Nat} (hb : 0 < b) :
    a ⌈/⌉ b = if a % b = 0 then a / b else a / b + 1 := by
  have hdivision : b * (a / b) + a % b = a := Nat.div_add_mod a b
  split
  · next hrest =>
    have hfloor : a ⌊/⌋ b ≤ a ⌈/⌉ b := floorDiv_le_ceilDiv
    refine le_antisymm ?_ hfloor
    rw [ceilDiv_le_iff_le_mul hb]
    omega
  · next hrest =>
    refine le_antisymm ?_ (Nat.lt_of_not_le fun hle => ?_)
    · rw [ceilDiv_le_iff_le_mul hb]
      exact (Nat.lt_mul_div_succ a hb).le
    · rw [ceilDiv_le_iff_le_mul hb] at hle
      omega

/-- The highest bit of the dividend is free, so one can be added to the quotient. -/
theorem toNat_wordQuotient {a b : UInt32} (hb : 0 < b.toNat) (ha : a.toNat < 2 ^ 31) :
    (wordQuotient a b).toNat = a.toNat ⌈/⌉ b.toNat := by
  have hrest : a % b = 0 ↔ a.toNat % b.toNat = 0 := by
    rw [← UInt32.toNat_inj, UInt32.toNat_mod]
    rfl
  have hlt : a.toNat / b.toNat + 1 < 2 ^ 32 := by
    have := Nat.div_le_self a.toNat b.toNat
    omega
  rw [ceilDiv_eq_ite hb, wordQuotient, apply_ite UInt32.toNat, UInt32.toNat_add, UInt32.toNat_div]
  simp only [hrest]
  exact congrArg _ (Nat.mod_eq_of_lt hlt)

theorem toNat_toUInt32_max_one (size : Int32) : (max size 1).toUInt32.toNat = extent size := by
  have hone : (1 : Int32).toInt = 1 := rfl
  change (if size ≤ 1 then (1 : Int32) else size).toUInt32.toNat = (max size.toInt 1).toNat
  split
  · next h =>
    rw [Int32.le_iff_toInt_le, hone] at h
    rw [max_eq_right h]
    rfl
  · next h =>
    rw [Int32.le_iff_toInt_le, hone, not_le] at h
    have hnonneg : 0 ≤ size := Int32.le_iff_toInt_le.mpr (Int.one_nonneg.trans h.le)
    rw [Int32.toNat_toUInt32_of_le hnonneg, max_eq_left h.le]
    rfl

/-- Words of 32 bits are enough for all sizes. -/
theorem wordCount_eq (grid group : Int32) : wordCount grid group = axisCount grid group := by
  have hquotient := toNat_wordQuotient (a := (max grid 1).toUInt32) (b := (max group 1).toUInt32)
    (toNat_toUInt32_max_one group ▸ extent_pos group)
    (toNat_toUInt32_max_one grid ▸ extent_lt grid)
  rw [toNat_toUInt32_max_one, toNat_toUInt32_max_one] at hquotient
  rw [axisCount_eq, ← hquotient, wordCount, ← UInt32.toInt32_ofNat', UInt32.ofNat_toNat]

/-! ## Covering -/

/-- The least number of groups, at least one, that cover the axis; not more than its extent. -/
structure Fewest (grid group count : Int32) : Prop where
  least : IsLeast {n : ℤ | 1 ≤ n ∧ max grid.toInt 1 ≤ n * max group.toInt 1} count.toInt
  le_extent : count.toInt ≤ max grid.toInt 1

theorem fewest_axisCount (grid group : Int32) : Fewest grid group (axisCount grid group) := by
  have hpos := extent_pos group
  have hcovers : extent grid ≤ extent group * (extent grid ⌈/⌉ extent group) :=
    (ceilDiv_le_iff_le_mul hpos).mp le_rfl
  have hone : 1 ≤ extent grid ⌈/⌉ extent group := by
    refine Nat.pos_of_ne_zero fun hzero => ?_
    rw [hzero, Nat.mul_zero] at hcovers
    exact Nat.not_lt_of_le hcovers (extent_pos grid)
  have hcount := toInt_axisCount grid group
  rw [Nat.mul_comm] at hcovers
  refine ⟨⟨?_, fun n hn => ?_⟩, ?_⟩ <;> rw [hcount]
  · change _ ∧ _
    rw [← coe_extent, ← coe_extent]
    exact ⟨by exact_mod_cast hone, by exact_mod_cast hcovers⟩
  · obtain ⟨hn, hle⟩ := hn
    lift n to ℕ using Int.one_nonneg.trans hn
    rw [← coe_extent, ← coe_extent] at hle
    have hle' : extent grid ≤ extent group * n := by
      rw [Nat.mul_comm]
      exact_mod_cast hle
    exact_mod_cast (ceilDiv_le_iff_le_mul hpos).mpr hle'
  · rw [← coe_extent]
    exact_mod_cast ceilDiv_le_extent grid group

/-- **The number of work-groups.** On each axis it is the least number of groups, at least one, that
cover the extent of the grid, where sizes below one count as one; so it is not more than this
extent. This is also what words of 32 bits give, for all sizes: nothing is wrapped on the way. -/
theorem groupCount_fewest (d : Dispatch) :
    (Fewest d.gridSize.x d.groupSize.x d.groupCount.x ∧
      Fewest d.gridSize.y d.groupSize.y d.groupCount.y ∧
      Fewest d.gridSize.z d.groupSize.z d.groupCount.z) ∧
    d.groupCount =
      ⟨wordCount d.gridSize.x d.groupSize.x, wordCount d.gridSize.y d.groupSize.y,
        wordCount d.gridSize.z d.groupSize.z⟩ := by
  refine ⟨⟨fewest_axisCount _ _, fewest_axisCount _ _, fewest_axisCount _ _⟩, ?_⟩
  rw [wordCount_eq, wordCount_eq, wordCount_eq]
  rfl

/-- The ends of the words, and a grid that is rounded up. -/
example : groupCount ⟨⟨256, 2147483647, -2147483648⟩, ⟨2147483647, 2147483647, -2147483648⟩, 1⟩ =
    ⟨8388608, 1, 1⟩ := by
  decide

end GpuDebug.Dispatch
