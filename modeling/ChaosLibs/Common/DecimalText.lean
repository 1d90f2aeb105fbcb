import ChaosLibs.Common.CString
import Mathlib.Algebra.Order.Ring.Nat
import Mathlib.Tactic.Ring

/-!
# Decimal digits

The number that a run of decimal digits denotes, as the digits are appended.
-/

namespace ChaosLibs.Common.CString

theorem digitValue_lt {ch : UInt8} (digit : isDigit ch = true) : digitValue ch < 10 := by
  have high : ch ≤ byte '9' := of_decide_eq_true (Bool.and_eq_true_iff.mp digit).2
  have bound : ch.toNat ≤ (byte '9').toNat := UInt8.le_iff_toNat_le.mp high
  have values : (byte '9').toNat = 57 ∧ (byte '0').toNat = 48 := by decide
  rw [digitValue]
  omega

theorem foldl_decimal (digits : Bytes) (value : Nat) :
    digits.foldl (fun value ch => value * 10 + digitValue ch) value =
      value * 10 ^ digits.length + decimal digits := by
  induction digits generalizing value with
  | nil => exact (Nat.mul_one value).symm
  | cons first rest induction =>
      rw [decimal, List.foldl_cons, List.foldl_cons, induction, induction (0 * 10 + _),
        List.length_cons, Nat.pow_succ]
      ring

theorem decimal_append (digits others : Bytes) :
    decimal (digits ++ others) = decimal digits * 10 ^ others.length + decimal others := by
  rw [decimal, List.foldl_append, foldl_decimal others, ← decimal]

theorem decimal_cons (first : UInt8) (rest : Bytes) :
    decimal (first :: rest) = digitValue first * 10 ^ rest.length + decimal rest := by
  rw [decimal, List.foldl_cons, foldl_decimal, Nat.zero_mul, Nat.zero_add]

theorem decimal_lt {digits : Bytes} (allDigits : ∀ ch ∈ digits, isDigit ch = true) :
    decimal digits < 10 ^ digits.length := by
  induction digits with
  | nil => exact Nat.one_pos
  | cons first rest induction =>
      rcases List.forall_mem_cons.mp allDigits with ⟨digit, later⟩
      have small := digitValue_lt digit
      have bound := induction later
      rw [decimal_cons, List.length_cons, Nat.pow_succ]
      calc digitValue first * 10 ^ rest.length + decimal rest
          < digitValue first * 10 ^ rest.length + 10 ^ rest.length :=
            Nat.add_lt_add_left bound _
        _ = (digitValue first + 1) * 10 ^ rest.length := (Nat.succ_mul _ _).symm
        _ ≤ 10 * 10 ^ rest.length := Nat.mul_le_mul_right _ small
        _ = 10 ^ rest.length * 10 := Nat.mul_comm _ _

end ChaosLibs.Common.CString
