import ChaosLibs.Common.CountTexts

/-!
# Hexadecimal numbers

What `printf` prints for `%08X` and `%04X`, and what `strtoul` with base 16 and `sscanf`
with `%x` read.  A printed number is read back.
-/

namespace ChaosLibs.Common.HexText

open ChaosLibs.Common.CString
open ChaosLibs.Common.CountTexts

/-- `isxdigit` in the C locale. -/
def isHexDigit (ch : UInt8) : Bool :=
  isDigit ch || byte 'A' ≤ ch && ch ≤ byte 'F' || byte 'a' ≤ ch && ch ≤ byte 'f'

/-- What a hexadecimal digit stands for. -/
def hexDigitValue (ch : UInt8) : Nat :=
  if isDigit ch then digitValue ch
  else if byte 'a' ≤ ch then ch.toNat - (byte 'a').toNat + 10
  else ch.toNat - (byte 'A').toNat + 10

/-- The number a run of hexadecimal digits denotes. -/
def hexValue (digits : Bytes) : Nat :=
  digits.foldl (fun value ch => value * 16 + hexDigitValue ch) 0

/-- `0x` in front of a hexadecimal digit. -/
def hexPrefixed : Bytes → Bool
  | zero :: mark :: digit :: _ =>
      zero == byte '0' && (mark == byte 'x' || mark == byte 'X') &&
        isHexDigit digit
  | _ => false

/-- The hexadecimal digits behind spaces, a sign and `0x`. -/
def hexDigits (text : Bytes) : Bytes :=
  let body := (takeSign (text.dropWhile isSpace)).2
  (if hexPrefixed body then body.drop 2 else body).takeWhile isHexDigit

/-- `strtoul(text, &end, 16)` with a 64-bit `unsigned long`, and `sscanf` with
`%lx`; `none` when no digits were found. -/
def strtoulHex (text : Bytes) : Option Nat :=
  if (hexDigits text).isEmpty then none
  else if 2 ^ 64 ≤ hexValue (hexDigits text) then some (2 ^ 64 - 1)
  else if (takeSign (text.dropWhile isSpace)).1 then
    some ((2 ^ 64 - hexValue (hexDigits text)) % 2 ^ 64)
  else some (hexValue (hexDigits text))

/-- An upper case digit. -/
def hexDigit (value : Nat) : UInt8 :=
  if value < 10 then UInt8.ofNat (48 + value) else UInt8.ofNat (55 + value)

/-- `%0*X` of a number with at most so many digits. -/
def hexText : Nat → Nat → Bytes
  | 0, _ => []
  | width + 1, value => hexText width (value / 16) ++ [hexDigit (value % 16)]

/-! ## Digits -/

theorem hexDigit_spec (value : Fin 16) :
    isHexDigit (hexDigit value) = true ∧
      hexDigitValue (hexDigit value) = value := by
  revert value
  decide

theorem isHexDigit_of_mem {width value : Nat} {ch : UInt8}
    (member : ch ∈ hexText width value) : isHexDigit ch = true := by
  induction width generalizing value with
  | zero => cases member
  | succ width induction =>
      rcases List.mem_append.mp member with earlier | last
      · exact induction earlier
      · rw [List.mem_singleton.mp last]
        exact (hexDigit_spec ⟨value % 16, Nat.mod_lt _ (by decide)⟩).1

@[simp]
theorem length_hexText (width value : Nat) :
    (hexText width value).length = width := by
  induction width generalizing value with
  | zero => rfl
  | succ width induction =>
      rw [hexText, List.length_append, induction, List.length_singleton]

theorem hexValue_hexText (width value : Nat) :
    hexValue (hexText width value) = value % 16 ^ width := by
  induction width generalizing value with
  | zero =>
      rw [Nat.pow_zero, Nat.mod_one]
      rfl
  | succ width induction =>
      have last : hexDigitValue (hexDigit (value % 16)) = value % 16 :=
        (hexDigit_spec ⟨value % 16, Nat.mod_lt _ (by decide)⟩).2
      have higher : hexValue (hexText width (value / 16)) =
          value / 16 % 16 ^ width := induction _
      rw [hexText, hexValue, List.foldl_append, ← hexValue, higher,
        List.foldl_cons, List.foldl_nil, last, Nat.pow_succ', Nat.mod_mul]
      omega

/-- A hexadecimal digit is no space, no sign and no `x`. -/
theorem apart_of_isHexDigit {ch : UInt8} (digit : isHexDigit ch = true) :
    isSpace ch = false ∧ ch ≠ byte '-' ∧ ch ≠ byte '+' ∧
      ch ≠ byte 'x' ∧ ch ≠ byte 'X' ∧ ch ≠ byte ':' := by
  refine ⟨?_, ?_, ?_, ?_, ?_, ?_⟩
  · rw [isHexDigit, Bool.or_eq_true, Bool.or_eq_true] at digit
    rcases digit with (decimal | upper) | lower
    · exact not_isSpace_of_isDigit decimal
    · have bound := of_decide_eq_true (Bool.and_eq_true_iff.mp upper).1
      exact not_isSpace_of_above (UInt8.lt_of_lt_of_le (by decide) bound)
    · have bound := of_decide_eq_true (Bool.and_eq_true_iff.mp lower).1
      exact not_isSpace_of_above (UInt8.lt_of_lt_of_le (by decide) bound)
  all_goals
    rintro rfl
    exact absurd digit (by decide)

/-- A run of digits is not cut, whatever its length. -/
theorem hexDigits_of_run
    {text : Bytes} (digits : ∀ ch ∈ text, isHexDigit ch = true) :
    hexDigits text = text ∧
      (takeSign (text.dropWhile isSpace)).1 = false := by
  have run : text.takeWhile isHexDigit = text :=
    List.takeWhile_eq_self_iff.mpr digits
  cases text with
  | nil => exact ⟨rfl, rfl⟩
  | cons first rest =>
      rcases apart_of_isHexDigit (digits first List.mem_cons_self) with
        ⟨blank, minus, plus, -⟩
      have spaces : (first :: rest).dropWhile isSpace = first :: rest :=
        List.dropWhile_cons_of_neg (by rw [blank]; exact Bool.false_ne_true)
      have sign : takeSign (first :: rest) = (false, first :: rest) := by
        rw [takeSign, if_neg (by rw [beq_iff_eq]; exact minus),
          if_neg (by rw [beq_iff_eq]; exact plus)]
      have unmarked : hexPrefixed (first :: rest) = false := by
        cases rest with
        | nil => rfl
        | cons mark others =>
            cases others with
            | nil => rfl
            | cons digit others =>
                have member : mark ∈ first :: mark :: digit :: others :=
                  List.mem_cons_of_mem _ List.mem_cons_self
                rcases apart_of_isHexDigit (digits mark member) with
                  ⟨-, -, -, lower, upper, -⟩
                rw [hexPrefixed, beq_false_of_ne lower, beq_false_of_ne upper,
                  Bool.or_false, Bool.and_false, Bool.false_and]
      dsimp only [hexDigits]
      rw [spaces, sign, unmarked, if_neg Bool.false_ne_true, run]
      exact ⟨rfl, rfl⟩

theorem strtoulHex_of_run
    {text : Bytes} (nonempty : text ≠ [])
    (digits : ∀ ch ∈ text, isHexDigit ch = true)
    (small : hexValue text < 2 ^ 64) :
    strtoulHex text = some (hexValue text) := by
  rcases hexDigits_of_run digits with ⟨run, sign⟩
  rw [strtoulHex, run, sign, if_neg (by rwa [List.isEmpty_iff]),
    if_neg (Nat.not_le_of_lt small), if_neg Bool.false_ne_true]

/-- A printed number is read back. -/
theorem strtoulHex_hexText {width value : Nat}
    (positive : 0 < width) (narrow : width ≤ 16)
    (fits : value < 16 ^ width) :
    strtoulHex (hexText width value) = some value := by
  have reads : hexValue (hexText width value) = value := by
    rw [hexValue_hexText, Nat.mod_eq_of_lt fits]
  have nonempty : hexText width value ≠ [] := by
    intro empty
    have length := length_hexText width value
    rw [empty, List.length_nil] at length
    omega
  have most : 16 ^ width ≤ 16 ^ 16 := Nat.pow_le_pow_right (by decide) narrow
  rw [strtoulHex_of_run nonempty (fun ch => isHexDigit_of_mem)
    (by rw [reads]; exact Nat.lt_of_lt_of_le fits most), reads]

end ChaosLibs.Common.HexText
