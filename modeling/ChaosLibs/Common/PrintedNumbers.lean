import ChaosLibs.Common.CountTexts
import ChaosLibs.Common.DecimalText

/-!
# Printed numbers

What `%llu` and `%lld` print, and that `strtoul` reads it back, whatever follows behind the
digits; and `strtol`.
-/

namespace ChaosLibs.Common.PrintedNumbers

open ChaosLibs.Common.CString
open ChaosLibs.Common.CountTexts

/-- `strtol(text, NULL, 10)` with a 64-bit `long`; `none` when there are no
digits. -/
def strtol (text : Bytes) : Option Int :=
  let signed := takeSign (text.dropWhile isSpace)
  if signed.2.takeWhile isDigit = [] then none
  else some (max (-2 ^ 63) (min (2 ^ 63 - 1) (signedValue signed)))

/-- A number as `%llu` prints it. -/
def natText (number : Nat) : Bytes :=
  bytes (toString number)

/-- A number as `%lld` prints it. -/
def intText (number : Int) : Bytes :=
  if number < 0 then byte '-' :: natText number.natAbs
  else natText number.natAbs

/-! ## Digits -/

theorem natText_eq (number : Nat) :
    natText number =
      (Nat.toDigits 10 number).map fun char => UInt8.ofNat char.toNat := by
  rw [natText, bytes, Nat.toString_eq_ofList_toDigits, String.toList_ofList]

theorem natText_ne_nil (number : Nat) : natText number ≠ [] := by
  rw [natText_eq]
  exact fun empty => Nat.toDigits_ne_nil (List.map_eq_nil_iff.mp empty)

/-- A decimal digit as a byte. -/
theorem toNat_digitByte {char : Char} (digit : char.isDigit = true) :
    (UInt8.ofNat char.toNat).toNat = char.toNat := by
  have bounds := Char.isDigit_iff_toNat.mp digit
  have nine : '9'.toNat = 57 := by decide
  rw [UInt8.toNat_ofNat']
  omega

theorem isDigit_of_mem_natText {number : Nat} {ch : UInt8}
    (member : ch ∈ natText number) : isDigit ch = true := by
  rw [natText_eq] at member
  rcases List.mem_map.mp member with ⟨char, inside, rfl⟩
  have digit := Nat.isDigit_of_mem_toDigits (by decide) (by decide) inside
  have bounds := Char.isDigit_iff_toNat.mp digit
  have value := toNat_digitByte digit
  have ends : (byte '0').toNat = '0'.toNat ∧ (byte '9').toNat = '9'.toNat := by
    decide
  rw [isDigit, Bool.and_eq_true]
  constructor
  · apply decide_eq_true
    rw [UInt8.le_iff_toNat_le]
    omega
  · apply decide_eq_true
    rw [UInt8.le_iff_toNat_le]
    omega

theorem decimal_natText (number : Nat) : decimal (natText number) = number := by
  have fold : ∀ (chars : List Char) (value : Nat),
      (∀ char ∈ chars, char.isDigit = true) →
      (chars.map fun char => UInt8.ofNat char.toNat).foldl
          (fun value ch => value * 10 + digitValue ch) value =
        Nat.ofDigitChars 10 chars value := by
    intro chars
    induction chars with
    | nil => exact fun value _ => Nat.ofDigitChars_nil.symm
    | cons char rest induction =>
        intro value digits
        have digit := toNat_digitByte (digits char List.mem_cons_self)
        have zero : (byte '0').toNat = '0'.toNat := by decide
        rw [List.map_cons, List.foldl_cons,
          induction _ fun other member =>
            digits other (List.mem_cons_of_mem _ member),
          Nat.ofDigitChars_cons, digitValue, digit, zero, Nat.mul_comm value]
  rw [natText_eq, decimal, fold _ _ fun char member =>
    Nat.isDigit_of_mem_toDigits (by decide) (by decide) member]
  exact Nat.ofDigitChars_ten_toDigits

/-! ## Reading back -/

/-- `strtoul` reads a printed number, modulo 2^64 when it is negative. -/
theorem strtoul_intText (number : Int) :
    (strtoul (intText number)).map Prod.fst = some (wrapped number) := by
  have noSpaces : ∀ ch ∈ ([] : Bytes), isSpace ch = true :=
    fun _ none => absurd none List.not_mem_nil
  have noTail : ∀ ch ∈ ([] : Bytes), (fun _ : UInt8 => false) ch = true :=
    fun _ none => absurd none List.not_mem_nil
  have digits : ∀ ch ∈ natText number.natAbs, isDigit ch = true :=
    fun ch => isDigit_of_mem_natText
  have denotes : IntegerText (fun _ => false) (intText number) number := by
    by_cases negative : number < 0
    · have text := IntegerText.minus noSpaces
        (natText_ne_nil number.natAbs) digits noTail
      rw [List.append_nil, List.nil_append, decimal_natText] at text
      have value : -(number.natAbs : Int) = number := by omega
      rw [intText, if_pos negative]
      rwa [value] at text
    · have text := IntegerText.unsigned noSpaces
        (natText_ne_nil number.natAbs) digits noTail
      rw [List.append_nil, List.nil_append, decimal_natText] at text
      have value : (number.natAbs : Int) = number := by omega
      rw [intText, if_neg negative]
      rwa [value] at text
  rcases strtoul_of_integerText (fun _ => Bool.noConfusion) denotes with
    ⟨stop, read, _⟩
  rw [read]
  rfl

/-- A run is not made longer by what it stops at. -/
theorem takeWhile_append_stop
    {isRun : UInt8 → Bool} (run : Bytes) {after : Bytes}
    (stop : ∀ ch, after.head? = some ch → isRun ch = false) :
    (run ++ after).takeWhile isRun = run.takeWhile isRun := by
  induction run with
  | nil =>
      cases after with
      | nil => rfl
      | cons first rest =>
          exact List.takeWhile_cons_of_neg (by
            rw [stop first rfl]
            exact Bool.false_ne_true)
  | cons first rest induction =>
      rw [List.cons_append]
      by_cases inside : isRun first = true
      · rw [List.takeWhile_cons_of_pos inside,
          List.takeWhile_cons_of_pos inside, induction]
      · rw [List.takeWhile_cons_of_neg inside,
          List.takeWhile_cons_of_neg inside]

/-- What follows behind the digits does not change what `strtoul` reads. -/
theorem strtoul_append
    {first : UInt8} (rest : Bytes) {after : Bytes}
    (start : isSpace first = false)
    (stop : ∀ ch, after.head? = some ch → isDigit ch = false) :
    (strtoul (byte ' ' :: (first :: rest ++ after))).map Prod.fst =
      (strtoul (first :: rest)).map Prod.fst := by
  have kept : ¬isSpace first = true := by
    rw [start]
    exact Bool.false_ne_true
  have sign : (takeSign (first :: rest ++ after)).1 =
        (takeSign (first :: rest)).1 ∧
      (takeSign (first :: rest ++ after)).2.takeWhile isDigit =
        (takeSign (first :: rest)).2.takeWhile isDigit := by
    rw [List.cons_append]
    unfold takeSign
    dsimp only
    split
    · exact ⟨rfl, takeWhile_append_stop rest stop⟩
    · split
      · exact ⟨rfl, takeWhile_append_stop rest stop⟩
      · exact ⟨rfl, takeWhile_append_stop (first :: rest) stop⟩
  have value : signedValue (takeSign (first :: rest ++ after)) =
      signedValue (takeSign (first :: rest)) := by
    rw [signedValue, signedValue, sign.1, sign.2]
  rw [strtoul_eq, strtoul_eq, List.dropWhile_cons_of_pos (by decide),
    List.cons_append, List.dropWhile_cons_of_neg kept,
    List.dropWhile_cons_of_neg kept, ← List.cons_append, sign.2, value]
  split <;> rfl

end ChaosLibs.Common.PrintedNumbers
