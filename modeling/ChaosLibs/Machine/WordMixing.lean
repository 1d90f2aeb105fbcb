import Mathlib.Data.BitVec
import Mathlib.Data.Fintype.Card
import Mathlib.Logic.Function.Iterate

/-!
# Words that are mixed

The steps that generators of pseudo-random words are made of: a word added to a shift of
itself without carries, and a product with an odd word.  Each can be undone, so different
words stay different.
-/

namespace ChaosLibs.Machine.WordMixing

variable {w : Nat}

/-- A word that its own shift to the right leaves as it is has no bits. -/
theorem eq_zero_of_ushiftRight {word : BitVec w} {amount : Nat} (positive : 0 < amount)
    (same : word >>> amount = word) : word = 0 := by
  have value := congrArg BitVec.toNat same
  rw [BitVec.toNat_ushiftRight, Nat.shiftRight_eq_div_pow] at value
  have double : 2 ≤ 2 ^ amount := by
    calc 2 = 2 ^ 1 := rfl
      _ ≤ 2 ^ amount := Nat.pow_le_pow_right (by decide) positive
  apply BitVec.eq_of_toNat_eq
  rw [BitVec.ofNat_eq_ofNat, BitVec.toNat_zero]
  by_contra some
  exact Nat.ne_of_lt (Nat.div_lt_self (Nat.pos_of_ne_zero some) double) value

/-- A word that its own shift to the left leaves as it is has no bits. -/
theorem eq_zero_of_shiftLeft {word : BitVec w} {amount : Nat} (positive : 0 < amount)
    (same : word <<< amount = word) : word = 0 := by
  have often : ∀ count, word <<< (amount * count) = word := by
    intro count
    induction count with
    | zero => rw [Nat.mul_zero, BitVec.shiftLeft_zero]
    | succ count induction => rw [Nat.mul_succ, BitVec.shiftLeft_add, induction, same]
  rw [← often w]
  exact BitVec.shiftLeft_eq_zero (Nat.le_mul_of_pos_left w positive)

theorem xor_ushiftRight_injective {amount : Nat} (positive : 0 < amount) :
    Function.Injective fun word : BitVec w => word ^^^ (word >>> amount) := by
  intro first second same
  dsimp only at same
  rw [← BitVec.xor_eq_zero_iff]
  apply eq_zero_of_ushiftRight positive
  rw [BitVec.ushiftRight_xor_distrib, ← BitVec.xor_eq_zero_iff]
  rw [← BitVec.xor_eq_zero_iff] at same
  rw [← same]
  ac_rfl

theorem xor_shiftLeft_injective {amount : Nat} (positive : 0 < amount) :
    Function.Injective fun word : BitVec w => word ^^^ (word <<< amount) := by
  intro first second same
  dsimp only at same
  rw [← BitVec.xor_eq_zero_iff]
  apply eq_zero_of_shiftLeft positive
  rw [BitVec.shiftLeft_xor_distrib, ← BitVec.xor_eq_zero_iff]
  rw [← BitVec.xor_eq_zero_iff] at same
  rw [← same]
  ac_rfl

/-- A product with a word that has an inverse. -/
theorem mul_injective {factor inverse : BitVec w} (unit : factor * inverse = 1#w) :
    Function.Injective fun word : BitVec w => word * factor := by
  intro first second same
  have undone := congrArg (· * inverse) same
  dsimp only at undone
  rwa [BitVec.mul_assoc, BitVec.mul_assoc, unit, BitVec.mul_one, BitVec.mul_one] at undone

/-- Making words odd takes them together in pairs that differ in the lowest bit. -/
theorem or_one_eq_iff (first second : BitVec w) :
    second ||| 1#w = first ||| 1#w ↔ second = first ∨ second = first ^^^ 1#w := by
  have one : ∀ place, 0 < place → (1#w).getLsbD place = false := by
    intro place positive
    rw [BitVec.getLsbD_one, decide_eq_false (Nat.ne_of_gt positive), Bool.and_false]
  constructor
  · intro same
    have high : ∀ place, 0 < place → second.getLsbD place = first.getLsbD place := by
      intro place positive
      have bit := congrArg (fun word : BitVec w => word.getLsbD place) same
      simpa only [BitVec.getLsbD_or, one place positive, Bool.or_false] using bit
    by_cases lowest : second.getLsbD 0 = first.getLsbD 0
    · refine Or.inl (BitVec.eq_of_getLsbD_eq fun place _ => ?_)
      rcases Nat.eq_zero_or_pos place with rfl | positive
      · exact lowest
      · exact high place positive
    · refine Or.inr (BitVec.eq_of_getLsbD_eq fun place inside => ?_)
      rw [BitVec.getLsbD_xor]
      rcases Nat.eq_zero_or_pos place with rfl | positive
      · rw [BitVec.getLsbD_one, decide_eq_true inside, decide_eq_true rfl, Bool.and_true,
          Bool.xor_true]
        exact Bool.eq_not.mpr lowest
      · rw [one place positive, Bool.xor_false]
        exact high place positive
  · rintro (rfl | rfl)
    · rfl
    · apply BitVec.eq_of_getLsbD_eq
      intro place inside
      rw [BitVec.getLsbD_or, BitVec.getLsbD_or, BitVec.getLsbD_xor]
      cases (1#w).getLsbD place
      · rw [Bool.xor_false]
      · rw [Bool.or_true, Bool.or_true]

end ChaosLibs.Machine.WordMixing
