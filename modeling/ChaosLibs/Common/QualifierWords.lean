import ChaosLibs.Common.RulePolicy
import ChaosLibs.Search.Words

/-!
# The qualifiers of a rule line as words

What `chaos_policy_extract` does, as a tokenizer: the words of the line before its
comment, the run of words at the end that start with `@` and do not begin the line,
what each of them gives, and the leftmost value of each name.
-/

namespace ChaosLibs.Common.QualifierWords

open ChaosLibs.Common.CString
open ChaosLibs.Common.RulePolicy
open ChaosLibs.Search

/-! ## What a word gives -/

/-- The five qualifiers. -/
inductive QualifierName where
  | first
  | fromMs
  | untilMs
  | sizeAbove
  | sizeBelow
deriving DecidableEq, Repr

/-- A qualifier and its number. -/
abbrev Qualifier := QualifierName × Nat

/-- The number that a word gives under a name; `@first=0` gives none. -/
def valueOf (word : Bytes) : QualifierName → Option Nat
  | .first => (qualifierNumber "@first=" word).filter (0 < ·)
  | .fromMs => qualifierNumber "@from=" word
  | .untilMs => qualifierNumber "@until=" word
  | .sizeAbove => qualifierNumber "@size>" word
  | .sizeBelow => qualifierNumber "@size<" word

/-- The qualifier that a word is. -/
def readQualifier (word : Bytes) : Option Qualifier :=
  [QualifierName.first, .fromMs, .untilMs, .sizeAbove, .sizeBelow].findSome?
    fun name => (valueOf word name).map fun value => (name, value)

/-- A policy with one more qualifier. -/
def put (policy : ChaosRulePolicy) : Qualifier → ChaosRulePolicy
  | (.first, value) => { policy with first := value }
  | (.fromMs, value) => { policy with fromMs := value }
  | (.untilMs, value) => { policy with untilMs := value }
  | (.sizeAbove, value) => { policy with sizeAbove := value, hasSizeAbove := true }
  | (.sizeBelow, value) => { policy with sizeBelow := value, hasSizeBelow := true }

/-- `chaos_policy_parse_word` puts the qualifier that its word is. -/
theorem chaosPolicyParseWord_eq (word : Bytes) (policy : ChaosRulePolicy) :
    chaosPolicyParseWord word policy = (readQualifier word).map (put policy) := by
  dsimp only [chaosPolicyParseWord, readQualifier, List.findSome?, valueOf]
  cases (qualifierNumber "@first=" word).filter (0 < ·) with
  | some value => rfl
  | none =>
      cases qualifierNumber "@from=" word with
      | some value => rfl
      | none =>
          cases qualifierNumber "@until=" word with
          | some value => rfl
          | none =>
              cases qualifierNumber "@size>" word with
              | some value => rfl
              | none =>
                  cases qualifierNumber "@size<" word with
                  | some value => rfl
                  | none => rfl

/-! ## The run of qualifiers -/

/-- Words are separated by spaces and tabs. -/
def isSeparator (ch : UInt8) : Bool :=
  ch == byte ' ' || ch == byte '\t'

/-- A carriage return at the end of a word is no part of it. -/
def isReturn (ch : UInt8) : Bool :=
  ch == byte '\r'

/-- The word starts with `@` and does not begin the line. -/
def startsQualifier (word : Word UInt8) : Bool :=
  word.text.head? == some (byte '@') && word.start != 0

/-- The trailing run of qualifier words of a text. -/
def trailingRun (text : Bytes) : List (Word UInt8) :=
  (words isSeparator isReturn 0 text).rtakeWhile startsQualifier

/-- The trailing run of qualifier words of a line, before any comment. -/
def qualifierRun (line : Bytes) : List (Word UInt8) :=
  trailingRun (cutAt (byte '#') line)

/-- The qualifiers of a run, in their order; `none` when a word of it is none. -/
def readRun : List (Word UInt8) → Option (List Qualifier)
  | [] => some []
  | word :: rest =>
      (readQualifier word.text).bind fun qualifier =>
        (readRun rest).map (qualifier :: ·)

/-- The qualifiers of a line, in their order; `none` when one is malformed. -/
def qualifiers (line : Bytes) : Option (List Qualifier) :=
  readRun (qualifierRun line)

/-- The policy of some qualifiers: of each name the leftmost value. -/
def policyOf (given : List Qualifier) : ChaosRulePolicy where
  first := (given.lookup .first).getD 0
  fromMs := (given.lookup .fromMs).getD 0
  untilMs := (given.lookup .untilMs).getD 0
  sizeAbove := (given.lookup .sizeAbove).getD 0
  sizeBelow := (given.lookup .sizeBelow).getD 0
  hasSizeAbove := (given.lookup .sizeAbove).isSome
  hasSizeBelow := (given.lookup .sizeBelow).isSome

/-- The rule text of a line: what stands before the first word of its run. -/
def ruleText (line : Bytes) : Bytes :=
  match qualifierRun line with
  | [] => line
  | first :: _ => line.take first.start

theorem policyOf_cons (qualifier : Qualifier) (given : List Qualifier) :
    policyOf (qualifier :: given) = put (policyOf given) qualifier := by
  rcases qualifier with ⟨name, value⟩
  cases name <;> rfl

/-! ## The scan from the right -/

variable {text : Bytes}

theorem wordEnd_le (text : Bytes) (stop : Nat) : wordEnd text stop ≤ stop := by
  induction stop with
  | zero => exact Nat.le_refl _
  | succ pos induction =>
      rw [wordEnd]
      split
      · split
        · exact Nat.le_succ_of_le induction
        · exact Nat.le_refl _
      · exact Nat.le_refl _

theorem wordStart_le (text : Bytes) (stop : Nat) : wordStart text stop ≤ stop := by
  induction stop with
  | zero => exact Nat.le_refl _
  | succ pos induction =>
      rw [wordStart]
      split
      · split
        · exact Nat.le_refl _
        · exact Nat.le_succ_of_le induction
      · exact Nat.le_refl _

/-- What `word_end` skips: separators and carriage returns, up to a word's last byte. -/
theorem wordEnd_spec {stop : Nat} (inText : stop ≤ text.length) :
    ∃ blanks, text.take stop = text.take (wordEnd text stop) ++ blanks ∧
      (∀ ch ∈ blanks, isSeparator ch = true ∨ isReturn ch = true) ∧
      (wordEnd text stop ≠ 0 →
        ∃ last, (text.take (wordEnd text stop)).getLast? = some last ∧
          isSeparator last = false ∧ isReturn last = false) := by
  induction stop with
  | zero => exact ⟨[], rfl, nofun, fun nonzero => absurd rfl nonzero⟩
  | succ pos induction =>
      have here : text[pos]? = some text[pos] := List.getElem?_eq_getElem inText
      have longer : text.take (pos + 1) = text.take pos ++ [text[pos]] :=
        (List.take_append_getElem inText).symm
      rw [wordEnd, here]
      dsimp only
      by_cases skipped : (text[pos] == byte ' ' || text[pos] == byte '\t' ||
          text[pos] == byte '\r') = true
      · rw [if_pos skipped]
        rcases induction (Nat.le_of_succ_le inText) with ⟨blanks, split, blank, last⟩
        refine ⟨blanks ++ [text[pos]], ?_, ?_, last⟩
        · rw [longer, ← List.append_assoc, ← split]
        · intro ch member
          rcases List.mem_append.mp member with earlier | final
          · exact blank ch earlier
          · rw [List.mem_singleton.mp final]
            exact Bool.or_eq_true _ _ ▸ skipped
      · rw [if_neg skipped]
        refine ⟨[], (List.append_nil _).symm, nofun, fun _ => ⟨text[pos], ?_, ?_⟩⟩
        · rw [longer, List.getLast?_concat]
        · exact Bool.or_eq_false_iff.mp (Bool.not_eq_true _ ▸ skipped)

/-- What `word` is: the bytes up to `word_end` after the last separator. -/
theorem wordStart_spec {stop : Nat} (inText : stop ≤ text.length) :
    ∃ word, text.take stop = text.take (wordStart text stop) ++ word ∧
      (∀ ch ∈ word, isSeparator ch = false) ∧
      (text.take (wordStart text stop) = [] ∨
        ∃ front gap, text.take (wordStart text stop) = front ++ [gap] ∧
          isSeparator gap = true) := by
  induction stop with
  | zero => exact ⟨[], rfl, nofun, Or.inl rfl⟩
  | succ pos induction =>
      have here : text[pos]? = some text[pos] := List.getElem?_eq_getElem inText
      have longer : text.take (pos + 1) = text.take pos ++ [text[pos]] :=
        (List.take_append_getElem inText).symm
      rw [wordStart, here]
      dsimp only
      by_cases separator : (text[pos] == byte ' ' || text[pos] == byte '\t') = true
      · rw [if_pos separator]
        exact ⟨[], (List.append_nil _).symm, nofun,
          Or.inr ⟨text.take pos, text[pos], longer, separator⟩⟩
      · rw [if_neg separator]
        rcases induction (Nat.le_of_succ_le inText) with ⟨word, split, noGap, bounded⟩
        refine ⟨word ++ [text[pos]], ?_, ?_, bounded⟩
        · rw [longer, ← List.append_assoc, ← split]
        · intro ch member
          rcases List.mem_append.mp member with earlier | final
          · exact noGap ch earlier
          · rw [List.mem_singleton.mp final]
            exact Bool.not_eq_true _ ▸ separator

/-- A word found by the scan, and the words before it. -/
theorem words_take {stop : Nat} (inText : stop ≤ text.length) :
    (wordEnd text stop = 0 ∧ words isSeparator isReturn 0 (text.take stop) = []) ∨
      ∃ start, wordStart text (wordEnd text stop) = start ∧ start < wordEnd text stop ∧
        words isSeparator isReturn 0 (text.take stop) =
          words isSeparator isReturn 0 (text.take start) ++
            [⟨start, (text.take (wordEnd text stop)).drop start⟩] := by
  have endLe := wordEnd_le text stop
  have startLe := wordStart_le text (wordEnd text stop)
  rcases wordEnd_spec inText with ⟨blanks, splitEnd, blank, last⟩
  rcases wordStart_spec (endLe.trans inText) with ⟨word, splitStart, noGap, bounded⟩
  have startLength : (text.take (wordStart text (wordEnd text stop))).length =
      wordStart text (wordEnd text stop) :=
    List.length_take_of_le (startLe.trans (endLe.trans inText))
  by_cases nothing : wordEnd text stop = 0
  · left
    refine ⟨nothing, ?_⟩
    rw [splitEnd, nothing, List.take_zero, List.nil_append]
    exact words_of_blank 0 blank
  · right
    rcases last nothing with ⟨ch, ends, notSeparator, notReturn⟩
    have lastOfWord : word.getLast? = some ch := by
      rw [splitStart, List.getLast?_append] at ends
      cases found : word.getLast? with
      | some other =>
          rw [found] at ends
          exact ends
      | none =>
          -- An empty word would put a separator where `word_end` has stopped.
          rw [found, Option.none_or] at ends
          rcases bounded with empty | ⟨front, gap, split, separator⟩
          · rw [empty] at ends
            cases ends
          · rw [split, List.getLast?_concat] at ends
            cases ends
            exact absurd (separator.symm.trans notSeparator) Bool.noConfusion
    have sliced : (text.take (wordEnd text stop)).drop
        (wordStart text (wordEnd text stop)) = word := by
      rw [splitStart]
      exact List.drop_left' startLength
    have shorter : wordStart text (wordEnd text stop) < wordEnd text stop := by
      refine lt_of_le_of_ne startLe fun same => ?_
      rw [same, List.drop_take_self] at sliced
      rw [← sliced] at lastOfWord
      cases lastOfWord
    refine ⟨_, rfl, shorter, ?_⟩
    rw [sliced, splitEnd, splitStart, List.append_assoc,
      words_append_word bounded noGap ⟨ch, lastOfWord, notReturn⟩ blank, startLength]

theorem readRun_append_singleton (run : List (Word UInt8)) (word : Word UInt8) :
    readRun (run ++ [word]) =
      (readRun run).bind fun given =>
        (readQualifier word.text).map fun qualifier => given ++ [qualifier] := by
  induction run with
  | nil => cases read : readQualifier word.text <;> simp [readRun, read]
  | cons first rest induction =>
      rw [List.cons_append, readRun, readRun, induction]
      cases readQualifier first.text with
      | none => rfl
      | some head =>
          cases readRun rest with
          | none => rfl
          | some given => cases readQualifier word.text <;> rfl

/-- The test by which the loop of `chaos_policy_extract` ends. -/
theorem not_startsQualifier (word : Word UInt8) :
    (word.text.head? != some (byte '@') || word.start == 0) = !startsQualifier word := by
  rw [startsQualifier, Bool.not_and, bne, bne, Bool.not_not]

/-- The loop of `chaos_policy_extract` reads the trailing run from its right end. -/
theorem extractWords_eq {fuel stop : Nat} (enough : stop ≤ fuel)
    (inText : stop ≤ text.length) (cut : Option Nat) (policy : ChaosRulePolicy) :
    extractWords text fuel stop cut policy =
      (readRun (trailingRun (text.take stop))).map fun given =>
        (((trailingRun (text.take stop)).head?.map Word.start).or cut,
          given.foldr (fun qualifier held => put held qualifier) policy) := by
  induction fuel generalizing stop cut policy with
  | zero =>
      rw [Nat.le_zero.mp enough]
      rfl
  | succ fuel induction =>
      have endLe := wordEnd_le text stop
      rw [extractWords]
      rcases words_take inText with ⟨nothing, noWords⟩ | ⟨start, placed, shorter, found⟩
      · rw [nothing, trailingRun, noWords]
        rfl
      · generalize sliced : (text.take (wordEnd text stop)).drop start = word at found ⊢
        have atStart : text[start]? = word.head? := by
          rw [← sliced, List.head?_drop, List.getElem?_take_of_lt shorter]
        have notEmpty : (start == wordEnd text stop) = false :=
          beq_eq_false_iff_ne.mpr shorter.ne
        rw [placed, notEmpty, Bool.false_or, atStart, sliced,
          not_startsQualifier ⟨start, word⟩, chaosPolicyParseWord_eq, trailingRun, found,
          List.rtakeWhile_concat]
        cases taken : startsQualifier ⟨start, word⟩ with
        | false => rfl
        | true =>
            have later := fun held => induction (Nat.le_of_lt_succ
              (shorter.trans_le (endLe.trans enough)))
              (shorter.le.trans (endLe.trans inText)) (some start) held
            rw [if_pos rfl, ← trailingRun, readRun_append_singleton]
            cases read : readQualifier word with
            | none =>
                cases readRun (trailingRun (text.take start)) <;> rfl
            | some qualifier =>
                change extractWords text fuel start (some start) (put policy qualifier) = _
                rw [later]
                cases readRun (trailingRun (text.take start)) with
                | none => rfl
                | some given =>
                    cases trailingRun (text.take start) <;> simp

/-- The policy that the puts from the right leave is the one of the leftmost values. -/
theorem foldr_put (given : List Qualifier) :
    given.foldr (fun qualifier held => put held qualifier) {} = policyOf given := by
  induction given with
  | nil => rfl
  | cons qualifier rest induction => rw [List.foldr_cons, induction, policyOf_cons]

/-! ## The whole call -/

/-- The bounds of `@from` and `@until` that the last test of a call refuses. -/
def refused (policy : ChaosRulePolicy) : Bool :=
  policy.fromMs != 0 && policy.untilMs != 0 && policy.untilMs ≤ policy.fromMs

/-- `chaos_policy_extract` is the tokenizer. -/
theorem chaosPolicyExtract_eq (line : Bytes) :
    chaosPolicyExtract line =
      match qualifiers line with
      | none => (line, none)
      | some given =>
          (ruleText line,
            if refused (policyOf given) then none else some (policyOf given)) := by
  have scanned : extractWords line _ _ none {} = _ :=
    extractWords_eq (Nat.le_refl _) (length_cutAt_le (byte '#') line) none {}
  rw [← cutAt_eq_take] at scanned
  rw [chaosPolicyExtract, scanned, qualifiers, qualifierRun]
  cases read : readRun (trailingRun (cutAt (byte '#') line)) with
  | none => rfl
  | some given =>
      dsimp only [Option.map_some]
      rw [foldr_put, ruleText, qualifierRun]
      cases trailingRun (cutAt (byte '#') line) with
      | nil =>
          change (if refused (policyOf given) then _ else _) = _
          split <;> rfl
      | cons first others =>
          change (if refused (policyOf given) then _ else _) = _
          split <;> rfl

/-- A word of the run stands behind an `@` of the line. -/
theorem getElem?_of_mem_qualifierRun {word : Word UInt8}
    (member : word ∈ qualifierRun text) :
    word.start ≠ 0 ∧ text[word.start]? = some (byte '@') := by
  have taken := List.mem_rtakeWhile_imp member
  rcases Bool.and_eq_true_iff.mp taken with ⟨starts, notFirst⟩
  have inHead := prefix_of_mem_words ((List.rtakeWhile_suffix _ _).subset member)
  have inLine : word.text <+: text.drop word.start :=
    inHead.trans (List.IsPrefix.drop (List.takeWhile_prefix _) _)
  refine ⟨bne_iff_ne.mp notFirst, ?_⟩
  rcases inLine with ⟨after, split⟩
  rw [← List.head?_drop, ← split, List.head?_append, beq_iff_eq.mp starts, Option.some_or]

/-! ## What is given -/

/-- The leftmost value that a line gives a name. -/
def givenValue (line : Bytes) (name : QualifierName) : Option Nat :=
  (qualifiers line).bind fun given => given.lookup name

theorem getD_eq_of_ne_zero {found : Option Nat} (given : found.getD 0 ≠ 0) :
    found = some (found.getD 0) := by
  cases found with
  | none => exact absurd rfl given
  | some value => rfl

/-- The last test refuses two given values, the upper one a time not after the lower. -/
theorem refused_policyOf (given : List Qualifier) :
    refused (policyOf given) = true ↔
      ∃ lower upper, given.lookup .fromMs = some lower ∧
        given.lookup .untilMs = some upper ∧ upper ≠ 0 ∧ upper ≤ lower := by
  rw [refused, Bool.and_eq_true, Bool.and_eq_true, bne_iff_ne, bne_iff_ne,
    decide_eq_true_iff]
  constructor
  · rintro ⟨⟨lower, upper⟩, before⟩
    exact ⟨_, _, getD_eq_of_ne_zero lower, getD_eq_of_ne_zero upper, upper, before⟩
  · rintro ⟨lower, upper, hasLower, hasUpper, nonzero, before⟩
    have lowerValue : (policyOf given).fromMs = lower := by
      rw [policyOf, hasLower, Option.getD_some]
    have upperValue : (policyOf given).untilMs = upper := by
      rw [policyOf, hasUpper, Option.getD_some]
    rw [lowerValue, upperValue]
    exact ⟨⟨Nat.ne_of_gt ((Nat.pos_of_ne_zero nonzero).trans_le before), nonzero⟩, before⟩

end ChaosLibs.Common.QualifierWords
