import ChaosLibs.Common.QualifierWindow
import ChaosLibs.Io.LoadedRules
import ChaosLibs.Io.ParseBuffer

/-!
# Lines with qualifiers

Which qualified lines of a rule file are refused: those whose `@until` is not after their
`@from`, and those without a rule.  Both tests read a policy in which a bound of 0 and a
bound that is not given are the same.
-/

namespace ChaosLibs.Io.QualifiedLines

open ChaosLibs.Common.CString
open ChaosLibs.Common.QualifierWindow
open ChaosLibs.Common.QualifierWords
open ChaosLibs.Common.RulePolicy
open ChaosLibs.Common.StatusText
open ChaosLibs.Io.ConfigParser
open ChaosLibs.Io.LoadedRules
open ChaosLibs.Io.ParseBuffer
open ChaosLibs.Io.Rule

/-! ## Lines and their rule text -/

/-- `chaos_io_config_parse_buffer` refuses the line. -/
def Rejected (line : Bytes) : Prop :=
  lineMeaning line = .error .invalid

/-- Only blanks stand before the qualifiers. -/
def NoRule (line : Bytes) : Prop :=
  ∀ ch ∈ chaosIoStripComment (ruleText line), chaosIoIsBlankChar ch = true

/--
The line has qualifiers and no rule text.  A qualifier that begins the line is no word of
the run, and nothing but blanks may follow it either.
-/
def OnlyQualifiers (line : Bytes) : Prop :=
  qualifierRun line ≠ [] ∧ NoRule line ∨
    ∃ word blanks, chaosIoStripComment (ruleText line) = word ++ blanks ∧
      (readQualifier word).isSome = true ∧ ∀ ch ∈ blanks, chaosIoIsBlankChar ch = true

/-- What is asked of a line: an empty window and a missing rule are refused. -/
structure Checked (line : Bytes) : Prop where
  window : ∀ lower upper, givenValue line .fromMs = some lower →
    givenValue line .untilMs = some upper → upper ≤ lower → Rejected line
  rule : OnlyQualifiers line → Rejected line
  nonempty : ∀ lower upper, givenValue line .fromMs = some lower →
    givenValue line .untilMs = some upper → ¬ Rejected line →
      ∃ now, InWindow (some lower) (some upper) now

/-- A rule with a given `@from` has a leftmost `@until` of 0. -/
def UntilZero (line : Bytes) : Prop :=
  (∃ lower, givenValue line .fromMs = some lower) ∧
    givenValue line .untilMs = some 0 ∧
      ∃ rule, chaosIoConfigParseLine (ruleText line) = .rule rule

/-- The qualifiers of a line without a rule say only `@from=0` and `@until=0`. -/
def OnlyZeros (line : Bytes) : Prop :=
  qualifierRun line ≠ [] ∧ NoRule line ∧
    ∃ given, qualifiers line = some given ∧
      ∀ name value, given.lookup name = some value →
        value = 0 ∧ (name = .fromMs ∨ name = .untilMs)

/-! ## Blank texts -/

variable {line text : Bytes}

theorem chaosIoTrim_eq_nil :
    chaosIoTrim text = [] ↔ ∀ ch ∈ text, chaosIoIsBlankChar ch = true :=
  trimmed_eq_nil

theorem parseLine_eq_blank :
    chaosIoConfigParseLine text = .blank ↔
      ∀ ch ∈ chaosIoStripComment text, chaosIoIsBlankChar ch = true := by
  rw [← chaosIoTrim_eq_nil, chaosIoConfigParseLine]
  dsimp only
  split
  · rename_i blank
    exact iff_of_true rfl blank
  · rename_i some
    refine iff_of_false ?_ some
    intro read
    repeat' split at read
    all_goals cases read

/-- A line without a `:` is no rule. -/
theorem parseLine_of_noColon {shown : UInt8} (noColon : byte ':' ∉ chaosIoStripComment text)
    (member : shown ∈ chaosIoStripComment text)
    (notBlank : chaosIoIsBlankChar shown = false) :
    chaosIoConfigParseLine text = .invalid := by
  have some : chaosIoTrim (chaosIoStripComment text) ≠ [] := by
    intro blank
    exact absurd ((chaosIoTrim_eq_nil.mp blank) shown member)
      (notBlank ▸ Bool.false_ne_true)
  have whole : (chaosIoTrim (chaosIoStripComment text)).dropWhile
      (fun ch => ch != byte ':') = [] := by
    rw [List.dropWhile_eq_nil_iff]
    intro ch inside
    exact bne_iff_ne.mpr fun colon => noColon (colon ▸ mem_chaosIoTrim inside)
  have oneField : splitFields (chaosIoTrim (chaosIoStripComment text)) = none := by
    rw [splitFields, splitAtColon, whole]
    rfl
  rw [chaosIoConfigParseLine]
  dsimp only
  rw [if_neg some, oneField]

/-! ## Qualifier words hold no rule -/

theorem isDigit_of_numberDigits {digits : Bytes} {value count number : Nat}
    (read : numberDigits digits value count = some number) :
    ∀ ch ∈ digits, isDigit ch = true := by
  induction digits generalizing value count with
  | nil => exact nofun
  | cons first rest induction =>
      rw [numberDigits] at read
      split at read
      · cases read
      · rename_i digit
        rw [Bool.or_eq_true, not_or] at digit
        refine List.forall_mem_cons.mpr ⟨?_, induction read⟩
        simpa using digit.1

theorem noColon_of_qualifierNumber {name : String} {word : Bytes} {number : Nat}
    (nameClean : byte ':' ∉ bytes name) (read : qualifierNumber name word = some number) :
    byte ':' ∉ word ∧ bytes name <+: word := by
  rw [qualifierNumber] at read
  split at read
  · rename_i starts
    rcases List.isPrefixOf_iff_prefix.mp starts with ⟨digits, rfl⟩
    refine ⟨?_, List.prefix_append _ _⟩
    rw [List.drop_left, chaosPolicyParseNumber] at read
    split at read
    · cases read
    · intro colon
      rcases List.mem_append.mp colon with inName | inDigits
      · exact nameClean inName
      · exact absurd (isDigit_of_numberDigits read _ inDigits) (by decide)
  · cases read

theorem spec_of_readQualifier {word : Bytes} {qualifier : Qualifier}
    (read : readQualifier word = some qualifier) :
    valueOf word qualifier.1 = some qualifier.2 := by
  rcases List.exists_of_findSome?_eq_some read with ⟨name, -, found⟩
  rcases Option.map_eq_some_iff.mp found with ⟨value, hasValue, rfl⟩
  exact hasValue

theorem noColon_of_readQualifier {word : Bytes} (read : (readQualifier word).isSome = true) :
    byte ':' ∉ word ∧ byte '@' ∈ word := by
  rcases Option.isSome_iff_exists.mp read with ⟨⟨name, value⟩, found⟩
  have given := spec_of_readQualifier found
  have clean : ∃ text : String, byte ':' ∉ bytes text ∧ byte '@' ∈ bytes text ∧
      ∃ number, qualifierNumber text word = some number := by
    cases name with
    | first =>
        exact ⟨"@first=", by decide, by decide, value,
          (Option.filter_eq_some_iff.mp given).1⟩
    | fromMs => exact ⟨"@from=", by decide, by decide, value, given⟩
    | untilMs => exact ⟨"@until=", by decide, by decide, value, given⟩
    | sizeAbove => exact ⟨"@size>", by decide, by decide, value, given⟩
    | sizeBelow => exact ⟨"@size<", by decide, by decide, value, given⟩
  rcases clean with ⟨text, noColon, at_, number, reads⟩
  rcases noColon_of_qualifierNumber noColon reads with ⟨wordClean, starts⟩
  exact ⟨wordClean, starts.subset at_⟩

theorem parseLine_of_onlyQualifiers (only : OnlyQualifiers line) :
    (∀ rule, chaosIoConfigParseLine (ruleText line) ≠ .rule rule) ∧
      (chaosIoConfigParseLine (ruleText line) = .blank →
        qualifierRun line ≠ [] ∧ NoRule line) := by
  rcases only with ⟨some, noRule⟩ | ⟨word, blanks, split, isQualifier, blank⟩
  · have read : chaosIoConfigParseLine (ruleText line) = .blank :=
      parseLine_eq_blank.mpr noRule
    refine ⟨fun rule isRule => ?_, fun _ => ⟨some, noRule⟩⟩
    rw [read] at isRule
    cases isRule
  · rcases noColon_of_readQualifier isQualifier with ⟨noColon, starts⟩
    have clean : byte ':' ∉ chaosIoStripComment (ruleText line) := by
      rw [split, List.mem_append, not_or]
      exact ⟨noColon, fun colon => absurd (blank _ colon) (by decide)⟩
    have read : chaosIoConfigParseLine (ruleText line) = .invalid :=
      parseLine_of_noColon clean (split ▸ List.mem_append_left _ starts) (by decide)
    rw [read]
    exact ⟨fun rule => nofun, nofun⟩

/-! ## Lines that are not refused -/

theorem not_rejected_iff (line : Bytes) :
    ¬ Rejected line ↔
      ∃ given, qualifiers line = some given ∧ refused (policyOf given) = false ∧
        ((∃ rule, chaosIoConfigParseLine (ruleText line) = .rule rule) ∨
          chaosIoConfigParseLine (ruleText line) = .blank ∧
            chaosPolicyIsEmpty (policyOf given) = true) := by
  rw [Rejected, lineMeaning, chaosPolicyExtract_eq]
  cases qualifiers line with
  | none => exact iff_of_false (fun not => not rfl) (by rintro ⟨given, none, -⟩; cases none)
  | some given =>
      have only : (∃ other, some given = some other ∧ refused (policyOf other) = false ∧
          ((∃ rule, chaosIoConfigParseLine (ruleText line) = .rule rule) ∨
            chaosIoConfigParseLine (ruleText line) = .blank ∧
              chaosPolicyIsEmpty (policyOf other) = true)) ↔
          refused (policyOf given) = false ∧
            ((∃ rule, chaosIoConfigParseLine (ruleText line) = .rule rule) ∨
              chaosIoConfigParseLine (ruleText line) = .blank ∧
                chaosPolicyIsEmpty (policyOf given) = true) := by
        constructor
        · rintro ⟨other, same, rest⟩
          cases same
          exact rest
        · exact fun rest => ⟨given, rfl, rest⟩
      rw [only]
      dsimp only
      cases failed : refused (policyOf given) with
      | true => exact iff_of_false (fun not => not rfl) (fun accepted => by cases accepted.1)
      | false =>
          rw [if_neg Bool.false_ne_true]
          dsimp only
          cases chaosIoConfigParseLine (ruleText line) with
          | invalid =>
              refine iff_of_false (fun not => not rfl) ?_
              rintro ⟨-, ⟨rule, isRule⟩ | ⟨isBlank, -⟩⟩
              · cases isRule
              · cases isBlank
          | blank =>
              dsimp only
              cases chaosPolicyIsEmpty (policyOf given) with
              | true =>
                  exact iff_of_true (fun same => by cases same) ⟨rfl, Or.inr ⟨rfl, rfl⟩⟩
              | false =>
                  refine iff_of_false (fun not => not rfl) ?_
                  rintro ⟨-, ⟨rule, isRule⟩ | ⟨-, isEmpty⟩⟩
                  · cases isRule
                  · cases isEmpty
          | rule parsed =>
              exact iff_of_true (fun same => by cases same) ⟨rfl, Or.inl ⟨parsed, rfl⟩⟩

/-- A leftmost `@first` is a positive number. -/
theorem pos_of_lookup_first {run : List (Search.Word UInt8)} {given : List Qualifier}
    {value : Nat} (read : readRun run = some given)
    (found : given.lookup .first = some value) : 0 < value := by
  induction run generalizing given with
  | nil =>
      cases read
      cases found
  | cons word rest induction =>
      rcases Option.bind_eq_some_iff.mp read with ⟨⟨name, number⟩, ofWord, later⟩
      rcases Option.map_eq_some_iff.mp later with ⟨others, ofRest, rfl⟩
      by_cases isFirst : name = .first
      · cases isFirst
        have given := spec_of_readQualifier ofWord
        have same : number = value := Option.some.inj found
        rw [← same]
        exact of_decide_eq_true (Option.filter_eq_some_iff.mp given).2
      · rw [List.lookup_cons, beq_false_of_ne (Ne.symm isFirst)] at found
        exact induction ofRest found

/-- A policy without a qualifier is one whose line gives only zero bounds. -/
theorem isEmpty_policyOf {given : List Qualifier}
    (read : qualifiers line = some given) :
    chaosPolicyIsEmpty (policyOf given) = true ↔
      ∀ name value, given.lookup name = some value →
        value = 0 ∧ (name = .fromMs ∨ name = .untilMs) := by
  have getD_zero : ∀ {found : Option Nat}, found.getD 0 = 0 →
      ∀ value, found = some value → value = 0 := by
    rintro _ zero value rfl
    exact zero
  rw [chaosPolicyIsEmpty]
  constructor
  · intro isEmpty name value found
    simp only [policyOf, Bool.and_eq_true, beq_iff_eq, Bool.not_eq_true',
      Option.isSome_eq_false_iff, Option.isNone_iff_eq_none] at isEmpty
    rcases isEmpty with ⟨⟨⟨⟨first, fromMs⟩, untilMs⟩, above⟩, below⟩
    cases name with
    | first =>
        exact absurd (getD_zero first value found) (pos_of_lookup_first read found).ne'
    | fromMs => exact ⟨getD_zero fromMs value found, Or.inl rfl⟩
    | untilMs => exact ⟨getD_zero untilMs value found, Or.inr rfl⟩
    | sizeAbove => exact absurd (above.symm.trans found) (Option.some_ne_none value).symm
    | sizeBelow => exact absurd (below.symm.trans found) (Option.some_ne_none value).symm
  · intro zeros
    have none : ∀ name, name ≠ .fromMs → name ≠ .untilMs → given.lookup name = none := by
      intro name notFrom notUntil
      cases found : given.lookup name with
      | none => rfl
      | some value =>
          rcases (zeros name value found).2 with isFrom | isUntil
          · exact absurd isFrom notFrom
          · exact absurd isUntil notUntil
    have zero : ∀ name, (given.lookup name).getD 0 = 0 := by
      intro name
      cases found : given.lookup name with
      | none => rfl
      | some value => exact (zeros name value found).1
    simp only [policyOf, zero, none .sizeAbove (by decide) (by decide),
      none .sizeBelow (by decide) (by decide)]
    rfl

/-! ## Which lines are refused -/

theorem rejected_of_window {lower upper : Nat} (ok : ¬ UntilZero line ∧ ¬ OnlyZeros line)
    (hasLower : givenValue line .fromMs = some lower)
    (hasUpper : givenValue line .untilMs = some upper) (ordered : upper ≤ lower) :
    Rejected line := by
  by_contra accepted
  rcases (not_rejected_iff line).mp accepted with ⟨given, read, notRefused, meaning⟩
  have lookLower : given.lookup .fromMs = some lower := by
    rw [givenValue, read] at hasLower
    exact hasLower
  have lookUpper : given.lookup .untilMs = some upper := by
    rw [givenValue, read] at hasUpper
    exact hasUpper
  have zero : upper = 0 := by
    by_contra nonzero
    have isRefused := (refused_policyOf given).mpr
      ⟨lower, upper, lookLower, lookUpper, nonzero, ordered⟩
    exact absurd (isRefused.symm.trans notRefused) Bool.noConfusion
  rcases meaning with isRule | ⟨isBlank, isEmpty⟩
  · exact ok.1 ⟨⟨lower, hasLower⟩, zero ▸ hasUpper, isRule⟩
  · refine ok.2 ⟨?_, parseLine_eq_blank.mp isBlank, given, read,
      (isEmpty_policyOf read).mp isEmpty⟩
    intro empty
    rw [qualifiers, empty] at read
    cases read
    cases lookLower

theorem rejected_of_onlyQualifiers (ok : ¬ OnlyZeros line) (only : OnlyQualifiers line) :
    Rejected line := by
  by_contra accepted
  rcases (not_rejected_iff line).mp accepted with ⟨given, read, -, meaning⟩
  rcases parseLine_of_onlyQualifiers only with ⟨noRule, blank⟩
  rcases meaning with ⟨rule, isRule⟩ | ⟨isBlank, isEmpty⟩
  · exact noRule rule isRule
  · rcases blank isBlank with ⟨some, nothing⟩
    exact ok ⟨some, nothing, given, read, (isEmpty_policyOf read).mp isEmpty⟩

/-- A leftmost `@until` of 0 is let through, and so are zero bounds without a rule. -/
theorem not_rejected_of_untilZero (slips : UntilZero line) : ¬ Rejected line := by
  rcases slips with ⟨⟨lower, hasLower⟩, hasUpper, isRule⟩
  rcases Option.bind_eq_some_iff.mp hasUpper with ⟨given, read, lookUpper⟩
  refine (not_rejected_iff line).mpr ⟨given, read, ?_, Or.inl isRule⟩
  refine Bool.eq_false_iff.mpr fun isRefused => ?_
  rcases (refused_policyOf given).mp isRefused with ⟨-, upper, -, found, nonzero, -⟩
  exact nonzero (Option.some.inj (found.symm.trans lookUpper))

theorem not_rejected_of_onlyZeros (slips : OnlyZeros line) : ¬ Rejected line := by
  rcases slips with ⟨-, noRule, given, read, zeros⟩
  refine (not_rejected_iff line).mpr ⟨given, read, ?_, Or.inr
    ⟨parseLine_eq_blank.mpr noRule, (isEmpty_policyOf read).mpr zeros⟩⟩
  refine Bool.eq_false_iff.mpr fun isRefused => ?_
  rcases (refused_policyOf given).mp isRefused with ⟨-, upper, -, found, nonzero, -⟩
  exact nonzero (zeros _ upper found).1

/--
A line is checked as it should be unless its rule has a given `@from` with `@until=0`, or
it has no rule and only zero bounds.
-/
theorem checked_iff (line : Bytes) :
    Checked line ↔ ¬ UntilZero line ∧ ¬ OnlyZeros line := by
  constructor
  · intro checked
    constructor
    · intro slips
      rcases slips.1 with ⟨lower, hasLower⟩
      exact not_rejected_of_untilZero slips
        (checked.window lower 0 hasLower slips.2.1 (Nat.zero_le _))
    · intro slips
      exact not_rejected_of_onlyZeros slips
        (checked.rule (Or.inl ⟨slips.1, slips.2.1⟩))
  · intro ok
    refine ⟨fun lower upper => rejected_of_window ok, rejected_of_onlyQualifiers ok.2, ?_⟩
    intro lower upper hasLower hasUpper accepted
    have before : lower < upper := by
      by_contra notBefore
      exact accepted (rejected_of_window ok hasLower hasUpper (Nat.le_of_not_lt notBefore))
    refine ⟨lower, fun bound same => ?_, fun bound same => ?_⟩
    · cases same
      exact le_refl _
    · cases same
      exact_mod_cast before

/-- A line that is accepted, with an empty window. -/
theorem untilZero_not_checked : ¬ ∀ line : Bytes, Checked line := by
  intro checked
  have said := (checked (bytes "/d:read:EIO:1 @from=5 @until=0")).window 5 0
    (by decide +kernel) (by decide +kernel) (by decide)
  exact absurd said (by unfold Rejected; decide +kernel)

end ChaosLibs.Io.QualifiedLines
