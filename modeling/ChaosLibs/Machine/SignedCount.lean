import Mathlib.Data.BitVec

/-!
# Signed counts of what is left

A signed 32-bit counter that sizes are subtracted from.  The sizes are unsigned and rounded
up, so that the last of them may be more than what is left: the counter is negative then,
and nothing is left.
-/

namespace ChaosLibs.Machine.SignedCount

variable {left : Int32} {bound : Nat} {size : UInt32}

/-- A counter below a positive bound has less than the bound left. -/
theorem lt_ofNat_iff (positive : 0 < bound) (small : bound < 2 ^ 31) :
    left < Int32.ofNat bound ↔ left.toNatClampNeg < bound := by
  rw [Int32.lt_iff_toInt_lt, Int32.toInt_ofNat_of_lt small, Int32.toNatClampNeg]
  omega

theorem nonneg_of_le (positive : 0 < bound) (most : bound ≤ left.toNatClampNeg) :
    0 ≤ left := by
  rw [Int32.toNatClampNeg] at most
  rw [Int32.le_iff_toInt_le, Int32.toInt_zero]
  omega

/-- An unsigned comparison with a counter that is not negative. -/
theorem le_toUInt32_iff (nonneg : 0 ≤ left) :
    size ≤ left.toUInt32 ↔ size.toNat ≤ left.toNatClampNeg := by
  rw [UInt32.le_iff_toNat_le, Int32.toNat_toUInt32_of_le nonneg]

/-- A number that a signed counter holds is what is left. -/
theorem toNatClampNeg_toInt32_ofNat {number : Nat} (small : number < 2 ^ 31) :
    (UInt32.ofNat number).toInt32.toNatClampNeg = number := by
  have value : (UInt32.ofNat number).toInt32 = Int32.ofNat number := rfl
  rw [value, Int32.toNatClampNeg_ofNat_of_lt small]

/-- What is left after an unsigned subtraction. -/
theorem toNatClampNeg_sub (nonneg : 0 ≤ left) (small : size.toNat ≤ 2 ^ 31) :
    (left.toUInt32 - size).toInt32.toNatClampNeg = left.toNatClampNeg - size.toNat := by
  have most := left.toNatClampNeg_lt
  have before := Int32.toNat_toUInt32_of_le nonneg
  have after : (left.toUInt32 - size).toInt32.toInt = (left.toUInt32 - size).toBitVec.toInt :=
    rfl
  rw [Int32.toNatClampNeg, after, BitVec.toInt_eq_toNat_cond, UInt32.toNat_toBitVec,
    UInt32.toNat_sub, before]
  split <;> omega

/-! ## Rounding -/

/-- A mask of the lowest bits rounds down to a power of two. -/
theorem toNat_and_not_mask {width bits : Nat} (value : BitVec width) (inside : bits ≤ width) :
    (value &&& ~~~BitVec.ofNat width (2 ^ bits - 1)).toNat =
      value.toNat / 2 ^ bits * 2 ^ bits := by
  apply Nat.eq_of_testBit_eq
  intro place
  rw [Nat.testBit_mul_two_pow, Nat.testBit_div_two_pow, BitVec.testBit_toNat,
    BitVec.testBit_toNat, BitVec.getLsbD_and, BitVec.getLsbD_not, BitVec.getLsbD_ofNat,
    Nat.testBit_two_pow_sub_one]
  by_cases low : place < bits
  · have inWidth : place < width := low.trans_le inside
    simp [low, inWidth, Nat.not_le.mpr low]
  · have high : bits ≤ place := Nat.le_of_not_lt low
    rw [Nat.sub_add_cancel high]
    by_cases inWidth : place < width
    · simp [low, inWidth, high]
    · simp [BitVec.getLsbD_of_ge _ _ (Nat.le_of_not_lt inWidth)]

end ChaosLibs.Machine.SignedCount
