import Mathlib.Data.UInt

/-!
# Machine words

`saturating_add` and `saturating_sub` of the fixed-width unsigned types, with
their values in the natural numbers, and the 128-bit type that clocks use.
-/

namespace AutoLoop

/-- `u128`. -/
abbrev U128 : Type := Fin (2 ^ 128)

instance neZero_u128 : NeZero (2 ^ 128) := ⟨by decide⟩

/-- `u64::MAX`. -/
def u64Max : Nat := 2 ^ 64 - 1

/-- `u64::saturating_add`. -/
def saturatingAdd (left right : UInt64) : UInt64 :=
  UInt64.ofNat (min (left.toNat + right.toNat) u64Max)

/-- `u64::saturating_sub`. -/
def saturatingSub (left right : UInt64) : UInt64 :=
  UInt64.ofNat (left.toNat - right.toNat)

/-- `u32::saturating_sub`. -/
def saturatingSub32 (left right : UInt32) : UInt32 :=
  UInt32.ofNat (left.toNat - right.toNat)

@[simp] theorem toNat_saturatingAdd (left right : UInt64) :
    (saturatingAdd left right).toNat = min (left.toNat + right.toNat) u64Max := by
  rw [saturatingAdd, UInt64.toNat_ofNat', Nat.mod_eq_of_lt]
  simp only [u64Max]
  omega

@[simp] theorem toNat_saturatingSub (left right : UInt64) :
    (saturatingSub left right).toNat = left.toNat - right.toNat := by
  have bound := left.toNat_lt
  rw [saturatingSub, UInt64.toNat_ofNat', Nat.mod_eq_of_lt]
  omega

@[simp] theorem toNat_saturatingSub32 (left right : UInt32) :
    (saturatingSub32 left right).toNat = left.toNat - right.toNat := by
  have bound := left.toNat_lt
  rw [saturatingSub32, UInt32.toNat_ofNat', Nat.mod_eq_of_lt]
  omega

theorem toNat_saturatingAdd_of_le {left right : UInt64} (fits : left.toNat + right.toNat ≤ u64Max) :
    (saturatingAdd left right).toNat = left.toNat + right.toNat := by
  rw [toNat_saturatingAdd, Nat.min_eq_left fits]

/-- Without a borrow, saturating subtraction is wrapping subtraction. -/
theorem saturatingSub_eq_sub {left right : UInt64} (covers : right ≤ left) :
    saturatingSub left right = left - right := by
  apply UInt64.toNat_inj.mp
  rw [toNat_saturatingSub, UInt64.toNat_sub_of_le _ _ covers]

theorem toNat_sum {words : List UInt64} (fits : (words.map UInt64.toNat).sum < 2 ^ 64) :
    words.sum.toNat = (words.map UInt64.toNat).sum := by
  induction words with
  | nil => rfl
  | cons word rest ih =>
    rw [List.map_cons, List.sum_cons] at fits ⊢
    rw [List.sum_cons, UInt64.toNat_add, ih (by omega), Nat.mod_eq_of_lt fits]

theorem one_le_iff_ne_zero64 {word : UInt64} : 1 ≤ word ↔ word ≠ 0 := by
  rw [UInt64.le_iff_toNat_le, Ne, ← UInt64.toNat_inj, UInt64.toNat_one, UInt64.toNat_zero]
  exact Nat.one_le_iff_ne_zero

theorem one_le_iff_ne_zero32 {word : UInt32} : 1 ≤ word ↔ word ≠ 0 := by
  rw [UInt32.le_iff_toNat_le, Ne, ← UInt32.toNat_inj, UInt32.toNat_one, UInt32.toNat_zero]
  exact Nat.one_le_iff_ne_zero

end AutoLoop

/-!
## Signed words

Saturating arithmetic of `i64`, and the words below the sign bit: as signed numbers
they keep their value.
-/

namespace AutoLoop

open Int64

/-- `i64::saturating_add`. -/
def saturatingAddSigned (left right : Int64) : Int64 :=
  ofInt (max (-2 ^ 63) (min (2 ^ 63 - 1) (left.toInt + right.toInt)))

/-- `i64::saturating_sub`. -/
def saturatingSubSigned (left right : Int64) : Int64 :=
  ofInt (max (-2 ^ 63) (min (2 ^ 63 - 1) (left.toInt - right.toInt)))

theorem toInt_saturatingAddSigned {left right : Int64}
    (above : -2 ^ 63 ≤ left.toInt + right.toInt) (below : left.toInt + right.toInt < 2 ^ 63) :
    (saturatingAddSigned left right).toInt = left.toInt + right.toInt := by
  rw [saturatingAddSigned, Int.min_eq_right (by omega), Int.max_eq_right above]
  exact toInt_ofInt_of_le above below

theorem toInt_saturatingSubSigned {left right : Int64}
    (above : -2 ^ 63 ≤ left.toInt - right.toInt) (below : left.toInt - right.toInt < 2 ^ 63) :
    (saturatingSubSigned left right).toInt = left.toInt - right.toInt := by
  rw [saturatingSubSigned, Int.min_eq_right (by omega), Int.max_eq_right above]
  exact toInt_ofInt_of_le above below

section BelowSign

variable {word : UInt64} (belowSign : word.toNat < 2 ^ 63)
include belowSign

theorem toInt_toInt64 : word.toInt64.toInt = word.toNat := by
  have same : word.toInt64 = ofNat word.toNat := by
    rw [← UInt64.toInt64_ofNat', UInt64.ofNat_toNat]
  rw [same, toInt_ofNat_of_lt belowSign]

theorem toInt_neg_toInt64 : (-word.toInt64).toInt = -(word.toNat : Int) := by
  rw [toInt_neg, toInt_toInt64 belowSign, Int.bmod_eq_of_le (by omega) (by omega)]

theorem max_toInt64 : max word.toInt64 0 = word.toInt64 := by
  have nonneg : (0 : Int64) ≤ word.toInt64 := by
    rw [le_iff_toInt_le, toInt_toInt64 belowSign]
    exact Int.natCast_nonneg _
  change (if word.toInt64 ≤ 0 then 0 else word.toInt64) = word.toInt64
  split
  · next below => exact Int64.le_antisymm nonneg below
  · rfl

theorem toInt_abs_neg_toInt64 : (-word.toInt64).abs.toInt = word.toNat := by
  have negated := toInt_neg_toInt64 belowSign
  have notLeast : (-word.toInt64).toBitVec ≠ BitVec.intMin 64 := by
    intro isLeast
    have least : (-word.toInt64).toInt = -2 ^ 63 := by
      change (-word.toInt64).toBitVec.toInt = -2 ^ 63
      rw [isLeast]
      rfl
    omega
  change (-word.toInt64).toBitVec.abs.toInt = word.toNat
  rw [BitVec.toInt_abs_eq_natAbs_of_ne_intMin notLeast]
  change ((-word.toInt64).toInt.natAbs : Int) = word.toNat
  rw [negated]
  omega

end BelowSign

end AutoLoop
