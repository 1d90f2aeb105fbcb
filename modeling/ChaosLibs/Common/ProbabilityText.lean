import ChaosLibs.Common.DecimalText
import ChaosLibs.Common.RulePolicy
import Mathlib.Data.Rat.Floor
import Mathlib.Tactic.FieldSimp

/-!
# The probability field

The texts of a probability and the numbers they denote, against
`chaos_policy_parse_probability`: the same texts are accepted, the number is the one
denoted up to its fifteenth decimal, and the accumulator stays within 64 bits however
long the text is.
-/

namespace ChaosLibs.Common.ProbabilityText

open ChaosLibs.Common.CString
open ChaosLibs.Common.RulePolicy

/-! ## The grammar -/

/-- `0`, `1`, `0.` and digits, or `1.` and zeros, then blanks; with the number denoted. -/
inductive DenotesProbability : Bytes → ℚ → Prop where
  | zero {blanks : Bytes} (blank : ∀ ch ∈ blanks, isTrailingBlank ch = true) :
      DenotesProbability (bytes "0" ++ blanks) 0
  | one {blanks : Bytes} (blank : ∀ ch ∈ blanks, isTrailingBlank ch = true) :
      DenotesProbability (bytes "1" ++ blanks) 1
  | fraction {digits blanks : Bytes} (some : digits ≠ [])
      (allDigits : ∀ ch ∈ digits, isDigit ch = true)
      (blank : ∀ ch ∈ blanks, isTrailingBlank ch = true) :
      DenotesProbability (bytes "0." ++ (digits ++ blanks))
        (decimal digits / 10 ^ digits.length)
  | oneFraction {zeros blanks : Bytes} (some : zeros ≠ [])
      (allZeros : ∀ ch ∈ zeros, ch = byte '0')
      (blank : ∀ ch ∈ blanks, isTrailingBlank ch = true) :
      DenotesProbability (bytes "1." ++ (zeros ++ blanks)) 1

/-- The rational number that the parser computes before its one division. -/
def value (probability : Probability) : ℚ :=
  probability.decimals / probability.scale

/-- The decimals that are kept; `scale < 1e15` ends the accumulation. -/
abbrev keptDecimals : Nat := 15

/-- A number cut after the decimals that are kept. -/
def truncated (number : ℚ) : ℚ :=
  ⌊number * 10 ^ keptDecimals⌋ / 10 ^ keptDecimals

/-! ## The digits after the point -/

/-- One digit in the loop: `decimals` and `scale`. -/
def keepDigit (held : Nat × Nat) (ch : UInt8) : Nat × Nat :=
  if held.2 < 10 ^ 15 then (held.1 * 10 + digitValue ch, held.2 * 10) else held

/-- Digits that the loop accepts, up to the end of the run of digits. -/
theorem fractionDigits_of_digits {one : Bool} {digits tail : Bytes}
    (allDigits : ∀ ch ∈ digits, isDigit ch = true)
    (zeros : one = true → ∀ ch ∈ digits, ch = byte '0')
    (stop : ∀ ch, tail.head? = some ch → isDigit ch = false) (decimals scale : Nat) :
    fractionDigits one (digits ++ tail) decimals scale =
      some ((digits.foldl keepDigit (decimals, scale)).1,
        (digits.foldl keepDigit (decimals, scale)).2, tail) := by
  induction digits generalizing decimals scale with
  | nil =>
      cases tail with
      | nil => rfl
      | cons ch rest =>
          rw [List.nil_append, fractionDigits, stop ch rfl, if_neg Bool.false_ne_true]
          rfl
  | cons first rest induction =>
      rcases List.forall_mem_cons.mp allDigits with ⟨digit, later⟩
      have accepted : ¬ (one && first != byte '0') = true := by
        intro refused
        rcases Bool.and_eq_true_iff.mp refused with ⟨isOne, other⟩
        exact bne_iff_ne.mp other (zeros isOne first List.mem_cons_self)
      have laterZeros : one = true → ∀ ch ∈ rest, ch = byte '0' :=
        fun isOne ch member => zeros isOne ch (List.mem_cons_of_mem _ member)
      rw [List.cons_append, fractionDigits, if_pos digit, if_neg accepted,
        List.foldl_cons, keepDigit]
      split
      · exact induction later laterZeros _ _
      · exact induction later laterZeros _ _

/-- What the loop accepts: a run of digits, of zeros after a `1`. -/
theorem zeros_of_fractionDigits {one : Bool} {text : Bytes} {decimals scale : Nat}
    {result : Nat × Nat × Bytes}
    (read : fractionDigits one text decimals scale = some result) :
    one = true → ∀ ch ∈ text.takeWhile isDigit, ch = byte '0' := by
  induction text generalizing decimals scale with
  | nil => exact fun _ => nofun
  | cons first rest induction =>
      intro isOne
      rw [fractionDigits] at read
      split at read
      · rename_i digit
        rw [List.takeWhile_cons_of_pos digit]
        split at read
        · cases read
        · rename_i accepted
          refine List.forall_mem_cons.mpr ⟨?_, ?_⟩
          · rw [isOne, Bool.true_and, bne_iff_ne, not_not] at accepted
            exact accepted
          · split at read
            · exact induction read isOne
            · exact induction read isOne
      · rename_i other
        rw [List.takeWhile_cons_of_neg other]
        exact nofun

/-- The loop keeps the first fifteen digits. -/
theorem foldl_keepDigit (digits : Bytes) (decimals : Nat) {kept : Nat}
    (bounded : kept ≤ keptDecimals) :
    digits.foldl keepDigit (decimals, 10 ^ kept) =
      (decimals * 10 ^ (digits.take (keptDecimals - kept)).length +
          decimal (digits.take (keptDecimals - kept)),
        10 ^ (kept + (digits.take (keptDecimals - kept)).length)) := by
  induction digits generalizing decimals kept with
  | nil =>
      rw [List.take_nil]
      exact Prod.ext (Nat.mul_one _).symm rfl
  | cons first rest induction =>
      rw [List.foldl_cons, keepDigit]
      by_cases full : kept = keptDecimals
      · rw [if_neg (by rw [full]; exact Nat.lt_irrefl _)]
        have same := induction decimals bounded
        rw [full, Nat.sub_self, List.take_zero] at same ⊢
        exact same
      · have more : kept < keptDecimals := lt_of_le_of_ne bounded full
        rw [if_pos (Nat.pow_lt_pow_right (by decide) more)]
        have later := @induction (decimals * 10 + digitValue first) (kept + 1) more
        have shorter : keptDecimals - kept = keptDecimals - (kept + 1) + 1 := by omega
        rw [shorter, List.take_succ_cons, decimal_cons, List.length_cons]
        refine later.trans (Prod.ext ?_ ?_)
        · dsimp only
          ring
        · dsimp only
          rw [Nat.add_right_comm, Nat.add_assoc]

theorem foldl_keepDigit_start (digits : Bytes) :
    digits.foldl keepDigit (0, 1) =
      (decimal (digits.take keptDecimals), 10 ^ (digits.take keptDecimals).length) := by
  have kept := foldl_keepDigit digits 0 (Nat.zero_le keptDecimals)
  rw [Nat.zero_mul, Nat.zero_add, Nat.zero_add] at kept
  exact kept

/-! ## Truncation -/

theorem truncated_of_nat {number : ℚ} {shifted : Nat}
    (whole : number * 10 ^ keptDecimals = shifted) : truncated number = number := by
  rw [truncated, whole, Int.floor_natCast, Int.cast_natCast, ← whole]
  exact mul_div_cancel_right₀ number (by positivity)

/-- A decimal fraction is cut to its first fifteen digits. -/
theorem truncated_fraction {digits : Bytes} (allDigits : ∀ ch ∈ digits, isDigit ch = true) :
    truncated (decimal digits / 10 ^ digits.length) =
      decimal (digits.take keptDecimals) / 10 ^ (digits.take keptDecimals).length := by
  by_cases short : digits.length ≤ keptDecimals
  · rw [List.take_of_length_le short]
    refine @truncated_of_nat _ (decimal digits * 10 ^ (keptDecimals - digits.length)) ?_
    have powers : (10 : ℚ) ^ keptDecimals =
        10 ^ (keptDecimals - digits.length) * 10 ^ digits.length := by
      rw [← pow_add, Nat.sub_add_cancel short]
    rw [powers, Nat.cast_mul, Nat.cast_pow, Nat.cast_ofNat]
    field_simp
  · have longer : keptDecimals ≤ digits.length := (Nat.lt_of_not_le short).le
    have length : (digits.take keptDecimals).length = keptDecimals :=
      List.length_take_of_le longer
    have splitDigits := List.take_append_drop keptDecimals digits
    have restBound : decimal (digits.drop keptDecimals) <
        10 ^ (digits.drop keptDecimals).length :=
      decimal_lt fun ch member => allDigits ch (List.mem_of_mem_drop member)
    have number : (decimal digits / 10 ^ digits.length * 10 ^ keptDecimals : ℚ) =
        decimal (digits.take keptDecimals) +
          decimal (digits.drop keptDecimals) / 10 ^ (digits.drop keptDecimals).length := by
      conv_lhs => rw [← splitDigits, decimal_append, List.length_append, length]
      rw [Nat.cast_add, Nat.cast_mul, Nat.cast_pow, Nat.cast_ofNat, pow_add]
      field_simp
    have below : (decimal (digits.drop keptDecimals) /
        10 ^ (digits.drop keptDecimals).length : ℚ) < 1 := by
      rw [div_lt_one (by positivity)]
      exact_mod_cast restBound
    have floor : ⌊(decimal digits / 10 ^ digits.length * 10 ^ keptDecimals : ℚ)⌋ =
        decimal (digits.take keptDecimals) := by
      rw [number, Int.floor_eq_iff]
      constructor
      · exact le_add_of_nonneg_right (by positivity)
      · exact add_lt_add_right below _
    rw [truncated, floor, length, Int.cast_natCast]

/-! ## Arithmetic in 64 bits -/

/-- `decimals * 10U + digit` in a `uint64_t`; `none` when the product or the sum overflows. -/
def mulAdd64 (decimals digit : Nat) : Option Nat :=
  if 2 ^ 64 ≤ decimals * 10 then none
  else if 2 ^ 64 ≤ decimals * 10 + digit then none
  else some (decimals * 10 + digit)

/-- The loop of `chaos_policy_parse_probability` in 64 bits; `none` once it overflows. -/
def fractionDigits64 (one : Bool) :
    Bytes → Nat → Nat → Option (Option (Nat × Nat × Bytes))
  | [], decimals, scale => some (some (decimals, scale, []))
  | ch :: rest, decimals, scale =>
      if isDigit ch then
        if one && ch != byte '0' then some none
        else if scale < 10 ^ 15 then
          (mulAdd64 decimals (digitValue ch)).bind fun sum =>
            fractionDigits64 one rest sum (scale * 10)
        else
          fractionDigits64 one rest decimals scale
      else
        some (some (decimals, scale, ch :: rest))

theorem mulAdd64_of_lt {decimals digit : Nat} (small : decimals * 10 + digit < 2 ^ 64) :
    mulAdd64 decimals digit = some (decimals * 10 + digit) := by
  rw [mulAdd64, if_neg (Nat.not_le_of_lt ((Nat.le_add_right _ _).trans_lt small)),
    if_neg (Nat.not_le_of_lt small)]

/-- The accumulator is less than the scale, and the scale at most `1e15`. -/
theorem fractionDigits64_eq (one : Bool) (text : Bytes) {decimals scale kept : Nat}
    (powers : scale = 10 ^ kept) (bounded : kept ≤ 15) (small : decimals < scale) :
    fractionDigits64 one text decimals scale =
      some (fractionDigits one text decimals scale) := by
  induction text generalizing decimals scale kept with
  | nil => rfl
  | cons first rest induction =>
      rw [fractionDigits64, fractionDigits]
      by_cases digit : isDigit first = true
      · have less := digitValue_lt digit
        rw [if_pos digit, if_pos digit]
        split
        · rfl
        · by_cases more : scale < 10 ^ 15
          · have next : kept < 15 := by
              rw [powers] at more
              exact (Nat.pow_lt_pow_iff_right (by decide)).mp more
            have sum : decimals * 10 + digitValue first < scale * 10 := by omega
            have fits : scale * 10 ≤ 2 ^ 64 := by omega
            rw [if_pos more, if_pos more, mulAdd64_of_lt (sum.trans_le fits),
              Option.bind_some]
            exact induction (by rw [powers, Nat.pow_succ]) next sum
          · rw [if_neg more, if_neg more]
            exact induction powers bounded small
      · rw [if_neg digit, if_neg digit]

/-! ## The forms of a text -/

/-- What the parser makes of the digits after a point. -/
theorem parse_point {first : UInt8} (known : first = byte '0' ∨ first = byte '1')
    (digits : Bytes) :
    chaosPolicyParseProbability (first :: byte '.' :: digits) =
      match digits.head?.filter isDigit with
      | none => none
      | some _ =>
          match fractionDigits (first == byte '1') digits 0 1 with
          | none => none
          | some (decimals, scale, tail) =>
              if tail.all isTrailingBlank then
                some (if first == byte '1' then ⟨1, 1⟩ else ⟨decimals, scale⟩)
              else
                none := by
  have starts : (first == byte '0' || first == byte '1') = true := by
    rcases known with rfl | rfl <;> decide
  rw [chaosPolicyParseProbability, if_pos starts]
  cases digits with
  | nil => rfl
  | cons digit rest =>
      dsimp only
      rw [if_pos (beq_self_eq_true _), List.head?_cons, Option.filter_some]
      cases isDigit digit with
      | true => rfl
      | false => rfl

/-- Without a point, only blanks may follow. -/
theorem parse_noPoint {first : UInt8} {rest : Bytes}
    (known : first = byte '0' ∨ first = byte '1') (noPoint : rest.head? ≠ some (byte '.')) :
    chaosPolicyParseProbability (first :: rest) =
      if rest.all isTrailingBlank then
        some (if first == byte '1' then ⟨1, 1⟩ else ⟨0, 1⟩)
      else
        none := by
  have starts : (first == byte '0' || first == byte '1') = true := by
    rcases known with rfl | rfl <;> decide
  rw [chaosPolicyParseProbability, if_pos starts]
  cases rest with
  | nil => rfl
  | cons ch others =>
      have other : ¬ (ch == byte '.') = true := fun point =>
        noPoint (congrArg some (beq_iff_eq.mp point))
      dsimp only
      rw [if_neg other]

theorem noPoint_of_blank {blanks : Bytes}
    (blank : ∀ ch ∈ blanks, isTrailingBlank ch = true) :
    blanks.head? ≠ some (byte '.') := by
  intro point
  exact absurd (blank _ (List.mem_of_head? point)) (by decide)

theorem noDigit_of_blank {blanks : Bytes}
    (blank : ∀ ch ∈ blanks, isTrailingBlank ch = true) :
    ∀ ch, blanks.head? = some ch → isDigit ch = false := by
  intro ch first
  have isBlank := blank ch (List.mem_of_head? first)
  rw [isTrailingBlank, Bool.or_eq_true, Bool.or_eq_true, Bool.or_eq_true, beq_iff_eq,
    beq_iff_eq, beq_iff_eq, beq_iff_eq] at isBlank
  rcases isBlank with ((rfl | rfl) | rfl) | rfl <;> decide

/-- Digits and blanks after a point. -/
theorem parse_digits {first : UInt8} (known : first = byte '0' ∨ first = byte '1')
    {digits blanks : Bytes} (some : digits ≠ [])
    (allDigits : ∀ ch ∈ digits, isDigit ch = true)
    (zeros : (first == byte '1') = true → ∀ ch ∈ digits, ch = byte '0')
    (blank : ∀ ch ∈ blanks, isTrailingBlank ch = true) :
    chaosPolicyParseProbability (first :: byte '.' :: (digits ++ blanks)) =
      Option.some (if first == byte '1' then ⟨1, 1⟩
        else ⟨decimal (digits.take keptDecimals),
          10 ^ (digits.take keptDecimals).length⟩) := by
  rw [parse_point known,
    fractionDigits_of_digits allDigits zeros (noDigit_of_blank blank),
    foldl_keepDigit_start]
  cases digits with
  | nil => exact absurd rfl some
  | cons digit rest =>
      rw [List.cons_append, List.head?_cons, Option.filter_some,
        if_pos (allDigits digit List.mem_cons_self)]
      dsimp only
      rw [if_pos (List.all_eq_true.mpr blank)]

/-! ## The parser and the grammar -/

theorem parse_of_denotes {text : Bytes} {number : ℚ}
    (denotes : DenotesProbability text number) :
    ∃ probability, chaosPolicyParseProbability text = some probability ∧
      value probability = truncated number ∧
        0 ≤ value probability ∧ value probability ≤ 1 := by
  have truncatedOne : truncated 1 = 1 :=
    @truncated_of_nat 1 (10 ^ keptDecimals) (by norm_num)
  cases denotes with
  | @zero blanks blank =>
      have read : chaosPolicyParseProbability (bytes "0" ++ blanks) = some ⟨0, 1⟩ :=
        (parse_noPoint (Or.inl rfl) (noPoint_of_blank blank)).trans
          (if_pos (List.all_eq_true.mpr blank))
      have truncatedZero : truncated 0 = 0 := @truncated_of_nat 0 0 (by norm_num)
      refine ⟨_, read, ?_, ?_, ?_⟩
      · rw [truncatedZero, value]
        norm_num
      · norm_num [value]
      · norm_num [value]
  | @one blanks blank =>
      have read : chaosPolicyParseProbability (bytes "1" ++ blanks) = some ⟨1, 1⟩ :=
        (parse_noPoint (Or.inr rfl) (noPoint_of_blank blank)).trans
          (if_pos (List.all_eq_true.mpr blank))
      refine ⟨_, read, ?_, ?_, ?_⟩
      · rw [truncatedOne, value]
        norm_num
      · norm_num [value]
      · norm_num [value]
  | @fraction digits blanks some allDigits blank =>
      have read := @parse_digits (byte '0') (Or.inl rfl) digits blanks some allDigits
        (fun isOne => absurd isOne (by decide)) blank
      have keptBound : decimal (digits.take keptDecimals) <
          10 ^ (digits.take keptDecimals).length :=
        decimal_lt fun ch member => allDigits ch (List.mem_of_mem_take member)
      refine ⟨_, read, ?_, ?_, ?_⟩
      · rw [truncated_fraction allDigits, if_neg (by decide), value]
        push_cast
        rfl
      · rw [value]
        positivity
      · rw [if_neg (by decide), value]
        refine div_le_one_of_le₀ ?_ (by positivity)
        exact_mod_cast keptBound.le
  | @oneFraction zeros blanks some allZeros blank =>
      have read := @parse_digits (byte '1') (Or.inr rfl) zeros blanks some
        (fun ch member => allZeros ch member ▸ (by decide)) (fun _ => allZeros) blank
      refine ⟨_, read, ?_, ?_, ?_⟩
      · rw [truncatedOne, if_pos (beq_self_eq_true _), value]
        norm_num
      · norm_num [value]
      · norm_num [value]

/-- A run of digits that the parser has read ends before blanks. -/
theorem blank_of_fractionDigits {one : Bool} {digits : Bytes} {decimals scale : Nat}
    {tail : Bytes} (read : fractionDigits one digits 0 1 = some (decimals, scale, tail)) :
    tail = digits.dropWhile isDigit := by
  have whole := List.takeWhile_append_dropWhile (p := isDigit) (l := digits)
  have again := @fractionDigits_of_digits _ (digits.takeWhile isDigit)
    (digits.dropWhile isDigit)
    (fun ch member => List.mem_takeWhile_imp member) (zeros_of_fractionDigits read)
    (fun ch first => by
      have stopped := List.head?_dropWhile_not isDigit digits
      rw [first] at stopped
      exact stopped) 0 1
  rw [whole, read] at again
  cases again
  rfl

theorem denotes_of_parse {text : Bytes} {probability : Probability}
    (read : chaosPolicyParseProbability text = some probability) :
    ∃ number, DenotesProbability text number := by
  cases text with
  | nil => cases read
  | cons first rest =>
      by_cases known : first = byte '0' ∨ first = byte '1'
      · by_cases point : rest.head? = some (byte '.')
        · rcases List.head?_eq_some_iff.mp point with ⟨digits, rfl⟩
          rw [parse_point known] at read
          split at read
          · cases read
          · rename_i digit starts
            rcases Option.filter_eq_some_iff.mp starts with ⟨atHead, isADigit⟩
            rcases List.head?_eq_some_iff.mp atHead with ⟨others, rfl⟩
            split at read
            · cases read
            · rename_i decimals scale tail fraction
              split at read
              · rename_i blank
                have whole := List.takeWhile_append_dropWhile (p := isDigit)
                  (l := digit :: others)
                have someDigit : (digit :: others).takeWhile isDigit ≠ [] := by
                  rw [List.takeWhile_cons_of_pos isADigit]
                  exact List.cons_ne_nil _ _
                have tailBlank := List.all_eq_true.mp blank
                rw [blank_of_fractionDigits fraction] at tailBlank
                rw [← whole]
                rcases known with rfl | rfl
                · exact ⟨_, .fraction someDigit
                    (fun ch member => List.mem_takeWhile_imp member) tailBlank⟩
                · exact ⟨_, .oneFraction someDigit
                    (zeros_of_fractionDigits fraction rfl) tailBlank⟩
              · cases read
        · rw [parse_noPoint known point] at read
          split at read
          · rename_i blank
            rcases known with rfl | rfl
            · exact ⟨_, .zero (List.all_eq_true.mp blank)⟩
            · exact ⟨_, .one (List.all_eq_true.mp blank)⟩
          · cases read
      · have starts : ¬ (first == byte '0' || first == byte '1') = true := by
          rw [Bool.or_eq_true, beq_iff_eq, beq_iff_eq]
          exact known
        rw [chaosPolicyParseProbability, if_neg starts] at read
        cases read

/--
Exactly the texts of the grammar are accepted, each as its number cut after fifteen
decimals, in [0, 1]; and no product or sum of the loop overflows 64 bits.
-/
theorem parseProbability_spec (text : Bytes) :
    (∀ number, DenotesProbability text number →
        ∃ probability, chaosPolicyParseProbability text = some probability ∧
          value probability = truncated number) ∧
      (∀ probability, chaosPolicyParseProbability text = some probability →
        0 ≤ value probability ∧ value probability ≤ 1 ∧
          ∃ number, DenotesProbability text number) ∧
        ∀ one, fractionDigits64 one text 0 1 = some (fractionDigits one text 0 1) := by
  refine ⟨fun number denotes => ?_, fun probability read => ?_, fun one => ?_⟩
  · rcases parse_of_denotes denotes with ⟨probability, read, same, -⟩
    exact ⟨probability, read, same⟩
  · rcases denotes_of_parse read with ⟨number, denotes⟩
    rcases parse_of_denotes denotes with ⟨other, again, -, lower, upper⟩
    cases read.symm.trans again
    exact ⟨lower, upper, number, denotes⟩
  · exact @fractionDigits64_eq one text 0 1 0 rfl (Nat.zero_le _) Nat.one_pos

end ChaosLibs.Common.ProbabilityText
