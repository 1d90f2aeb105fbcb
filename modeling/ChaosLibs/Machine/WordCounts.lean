import Mathlib.Data.UInt

/-!
# Counts in words

A counter of the C sources is a 32-bit word, the count modulo `2 ^ 32`.  The count itself
is what proofs speak of: the word tells its parity, and which of two counts is meant as
long as they are less than `2 ^ 32` apart.
-/

namespace ChaosLibs.Machine.WordCounts

theorem ofNat_and_one_eq_zero (number : Nat) :
    UInt32.ofNat number &&& 1 = 0 ↔ number % 2 = 0 := by
  rw [← UInt32.toNat_inj, UInt32.toNat_and, UInt32.toNat_ofNat']
  change number % 2 ^ 32 &&& 1 = 0 ↔ _
  rw [Nat.and_one_is_mod]
  omega

theorem ofNat_add_one (number : Nat) :
    UInt32.ofNat number + 1 = UInt32.ofNat (number + 1) :=
  (UInt32.ofNat_add number 1).symm

/-- Words that agree are of the same count, or a wrap lies between. -/
theorem eq_of_ofNat_eq
    {early late : Nat} (later : early ≤ late) (near : late - early < 2 ^ 32)
    (same : UInt32.ofNat early = UInt32.ofNat late) : early = late := by
  rw [← UInt32.toNat_inj, UInt32.toNat_ofNat', UInt32.toNat_ofNat'] at same
  omega

end ChaosLibs.Machine.WordCounts
