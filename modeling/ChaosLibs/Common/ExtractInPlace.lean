import ChaosLibs.Common.QualifierWords
import ChaosLibs.Common.Buffer

/-!
# Qualifiers are cut off in place

`chaos_policy_extract` on the buffer of its line: words are ended with a NUL and restored,
and the line is cut by one more NUL.  A call that fails at a word leaves the buffer as it
was; the last test, of `@until` against `@from`, comes after the cut.
-/

namespace ChaosLibs.Common.ExtractInPlace

open ChaosLibs.Common.CString
open ChaosLibs.Common.RulePolicy
open ChaosLibs.Common.QualifierWords
open ChaosLibs.Common.Buffer
open ChaosLibs.Search

/-! ## The call -/

/-- The loop of `chaos_policy_extract` with at most `fuel` rounds. -/
def extractLoop :
    Nat → Bytes → Nat → Option Nat → ChaosRulePolicy →
      Bytes × Option (Option Nat × ChaosRulePolicy)
  | 0, contents, _, cut, policy => (contents, some (cut, policy))
  | fuel + 1, contents, stop, cut, policy =>
      let wordStop := wordEnd contents stop
      let word := wordStart contents wordStop
      if word == wordStop || contents[word]? != some (byte '@') || word == 0 then
        (contents, some (cut, policy))
      else
        let saved := (contents[wordStop]?).getD 0
        let ended := contents.set wordStop 0
        match chaosPolicyParseWord (stringAt ended word) policy with
        | none => (ended.set wordStop saved, none)
        | some parsed =>
            extractLoop fuel (ended.set wordStop saved) word (some word) parsed

/-- `chaos_policy_extract`: the buffer as the call leaves it, and the qualifiers. -/
def extractInPlace (contents : Bytes) : Bytes × Option ChaosRulePolicy :=
  let line := stringAt contents 0
  -- `strchr(line, '#')`, or `line + strlen(line)`.
  let stop := (cutAt (byte '#') line).length
  match extractLoop stop contents stop none {} with
  | (restored, none) => (restored, none)
  | (restored, some (cut, policy)) =>
      let left :=
        match cut with
        | some position => restored.set position 0
        | none => restored
      if policy.fromMs != 0 && policy.untilMs != 0 &&
          policy.untilMs ≤ policy.fromMs then
        (left, none)
      else
        (left, some policy)

/-! ## The loop leaves the buffer as it was -/

variable {contents : Bytes}

theorem wordEnd_line {stop : Nat} (inLine : stop ≤ (stringAt contents 0).length) :
    wordEnd contents stop = wordEnd (stringAt contents 0) stop := by
  induction stop with
  | zero => rfl
  | succ pos induction =>
      rw [wordEnd, wordEnd, getElem?_text inLine, induction (Nat.le_of_succ_le inLine)]

theorem wordStart_line {stop : Nat} (inLine : stop ≤ (stringAt contents 0).length) :
    wordStart contents stop = wordStart (stringAt contents 0) stop := by
  induction stop with
  | zero => rfl
  | succ pos induction =>
      rw [wordStart, wordStart, getElem?_text inLine, induction (Nat.le_of_succ_le inLine)]

/-- The word that `*word_end = '\0'` ends. -/
theorem stringAt_set {start stop : Nat} (ordered : start ≤ stop)
    (inLine : stop ≤ (stringAt contents 0).length)
    (inBuffer : stop < contents.length) :
    stringAt (contents.set stop 0) start = ((stringAt contents 0).take stop).drop start := by
  have sameFront : (stringAt contents 0).take stop = contents.take stop := by
    rw [stringAt_zero_eq_take contents, List.take_take, Nat.min_eq_left inLine]
  rw [sameFront]
  refine stringAt_set_nul (fun nul => ?_) ordered inBuffer
  rw [← sameFront] at nul
  exact bne_iff_ne.mp (ne_nul_of_mem (List.mem_of_mem_take nul)) rfl

/-- `*word_end = saved`. -/
theorem set_restored {position : Nat} (inBuffer : position < contents.length) :
    (contents.set position 0).set position ((contents[position]?).getD 0) = contents := by
  rw [List.set_set, List.getElem?_eq_getElem inBuffer, Option.getD_some,
    List.set_getElem_self]

theorem extractLoop_eq (terminated : 0 ∈ contents) {fuel stop : Nat}
    (inLine : stop ≤ (stringAt contents 0).length) (cut : Option Nat)
    (policy : ChaosRulePolicy) :
    extractLoop fuel contents stop cut policy =
      (contents, extractWords (stringAt contents 0) fuel stop cut policy) := by
  induction fuel generalizing stop cut policy with
  | zero => rfl
  | succ fuel induction =>
      have endLe := wordEnd_le (stringAt contents 0) stop
      have startLe :=
        wordStart_le (stringAt contents 0) (wordEnd (stringAt contents 0) stop)
      have inBuffer := (endLe.trans inLine).trans_lt (length_text_lt terminated)
      rw [extractLoop, extractWords, wordEnd_line inLine,
        wordStart_line (endLe.trans inLine)]
      generalize wordEnd (stringAt contents 0) stop = wordStop at endLe startLe inBuffer ⊢
      generalize wordStart (stringAt contents 0) wordStop = word at startLe ⊢
      by_cases empty : word = wordStop
      · rw [beq_iff_eq.mpr empty]
        rfl
      · have inWord : word < wordStop := lt_of_le_of_ne startLe empty
        dsimp only
        rw [getElem?_text (inWord.trans_le (endLe.trans inLine)),
          stringAt_set startLe (endLe.trans inLine) inBuffer, set_restored inBuffer]
        split
        · rfl
        · cases chaosPolicyParseWord
              (((stringAt contents 0).take wordStop).drop word) policy with
          | none => rfl
          | some parsed => exact induction (startLe.trans (endLe.trans inLine)) _ _

/-! ## The call is the tokenizer -/

/-- `*cut = '\0'` at the first word of a run. -/
def cutBefore (run : List (Word UInt8)) (contents : Bytes) : Bytes :=
  match run with
  | [] => contents
  | first :: _ => contents.set first.start 0

theorem extractInPlace_cases (buffer : TextBuffer) :
    extractInPlace buffer.contents =
      match qualifiers buffer.text with
      | none => (buffer.contents, none)
      | some given =>
          (cutBefore (qualifierRun buffer.text) buffer.contents,
            if refused (policyOf given) then none else some (policyOf given)) := by
  have scanned : extractWords buffer.text _ _ none {} = _ :=
    extractWords_eq (Nat.le_refl _) (length_cutAt_le (byte '#') buffer.text) none {}
  rw [← cutAt_eq_take] at scanned
  have looped := @extractLoop_eq buffer.contents buffer.terminated
    (cutAt (byte '#') buffer.text).length _ (length_cutAt_le (byte '#') buffer.text) none {}
  rw [← TextBuffer.text, scanned] at looped
  rw [extractInPlace, ← TextBuffer.text, looped, qualifiers, qualifierRun]
  cases read : readRun (trailingRun (cutAt (byte '#') buffer.text)) with
  | none => rfl
  | some given =>
      dsimp only [Option.map_some]
      rw [foldr_put]
      cases trailingRun (cutAt (byte '#') buffer.text) with
      | nil =>
          change (if refused (policyOf given) then _ else _) = _
          split <;> rfl
      | cons first others =>
          change (if refused (policyOf given) then _ else _) = _
          split <;> rfl

/-- The line after a call in place is the line that the call on its text leaves. -/
theorem extractInPlace_line (buffer : TextBuffer) :
    stringAt (extractInPlace buffer.contents).1 0 = (chaosPolicyExtract buffer.text).1 ∧
      (extractInPlace buffer.contents).2 = (chaosPolicyExtract buffer.text).2 := by
  rw [extractInPlace_cases, chaosPolicyExtract_eq]
  cases qualifiers buffer.text with
  | none => exact ⟨rfl, rfl⟩
  | some given =>
      refine ⟨?_, rfl⟩
      dsimp only
      rw [ruleText]
      cases run : qualifierRun buffer.text with
      | nil => rfl
      | cons first others =>
          have behind := (getElem?_of_mem_qualifierRun (run ▸ List.mem_cons_self)).2
          have inLine : first.start < buffer.text.length :=
            (List.getElem?_eq_some_iff.mp behind).1
          exact stringAt_set (Nat.zero_le _) inLine.le
            (inLine.trans (length_text_lt buffer.terminated))

/-- The buffer and the policy of a call that does not fail. -/
def extracted (buffer : TextBuffer) : Option (Bytes × ChaosRulePolicy) :=
  (extractInPlace buffer.contents).2.map fun policy =>
    ((extractInPlace buffer.contents).1, policy)

/--
The tokenizer on a run of words: it fails at a word that is no qualifier and at an
`@until` that is refused; else the buffer is cut at the first word, and each name has its
leftmost value.
-/
def tokenized (run : List (Word UInt8)) (contents : Bytes) :
    Option (Bytes × ChaosRulePolicy) :=
  (readRun run).bind fun given =>
    if refused (policyOf given) then none
    else some (cutBefore run contents, policyOf given)

/-- Extraction is the tokenizer on the trailing run of the line. -/
theorem extracted_eq_tokenized (buffer : TextBuffer) :
    extracted buffer = tokenized (qualifierRun buffer.text) buffer.contents := by
  rw [extracted, extractInPlace_cases, tokenized, ← qualifiers]
  cases qualifiers buffer.text with
  | none => rfl
  | some given =>
      dsimp only [Option.bind_some]
      split <;> rfl

/-- The trailing run when every white-space byte separates words, the carriage return too. -/
def whitespaceRun (line : Bytes) : List (Word UInt8) :=
  (words isSpace (fun _ => false) 0 (cutAt (byte '#') line)).rtakeWhile startsQualifier

/-- A carriage return inside a line separates no words. -/
theorem extracted_ne_whitespaceRun :
    ∃ buffer : TextBuffer,
      extracted buffer ≠ tokenized (whitespaceRun buffer.text) buffer.contents :=
  ⟨⟨bytes "/d:read:EIO:1\r@first=3" ++ [0], by decide⟩, by decide +kernel⟩

/-! ## A call that fails -/

/-- The leftmost `@until` of a line is a time that is not after its leftmost `@from`. -/
def Inverted (line : Bytes) : Prop :=
  ∃ lower upper, givenValue line .fromMs = some lower ∧
    givenValue line .untilMs = some upper ∧ upper ≠ 0 ∧ upper ≤ lower

theorem cutBefore_ne (buffer : TextBuffer) (some : qualifierRun buffer.text ≠ []) :
    cutBefore (qualifierRun buffer.text) buffer.contents ≠ buffer.contents := by
  cases run : qualifierRun buffer.text with
  | nil => exact absurd run some
  | cons first others =>
      have behind := (getElem?_of_mem_qualifierRun (run ▸ List.mem_cons_self)).2
      have inLine : first.start < buffer.text.length :=
        (List.getElem?_eq_some_iff.mp behind).1
      have before : buffer.contents[first.start]? = Option.some (byte '@') :=
        (getElem?_text inLine).symm.trans behind
      intro same
      have after : (buffer.contents.set first.start 0)[first.start]? = Option.some 0 :=
        List.getElem?_set_self (inLine.trans (length_text_lt buffer.terminated))
      rw [cutBefore] at same
      rw [same, before] at after
      exact absurd (Option.some.inj after) (by decide)

/-- A call that fails leaves its buffer alone unless the line is inverted. -/
theorem extractInPlace_atomic_iff (buffer : TextBuffer) :
    ((extractInPlace buffer.contents).2 = none →
        (extractInPlace buffer.contents).1 = buffer.contents) ↔
      ¬ Inverted buffer.text := by
  rw [extractInPlace_cases, Inverted]
  unfold givenValue
  cases read : qualifiers buffer.text with
  | none =>
      refine iff_of_true (fun _ => rfl) ?_
      rintro ⟨lower, upper, found, -⟩
      cases found
  | some given =>
      change _ ↔ ¬ ∃ lower upper, given.lookup .fromMs = some lower ∧
        given.lookup .untilMs = some upper ∧ upper ≠ 0 ∧ upper ≤ lower
      rw [← refused_policyOf]
      dsimp only
      cases failed : refused (policyOf given) with
      | false => exact iff_of_true (fun none => by cases none) Bool.false_ne_true
      | true =>
          refine iff_of_false (fun unchanged => ?_) (fun not => not rfl)
          refine cutBefore_ne buffer ?_ (unchanged rfl)
          intro empty
          rw [qualifiers, empty] at read
          cases read
          exact absurd failed Bool.false_ne_true

/-- The last test fails a call whose line is already cut. -/
theorem extractInPlace_not_atomic :
    ¬ ∀ buffer : TextBuffer, (extractInPlace buffer.contents).2 = none →
      (extractInPlace buffer.contents).1 = buffer.contents := by
  intro atomic
  have line := atomic ⟨bytes "/d:read:EIO:1 @from=5 @until=3" ++ [0], by decide⟩
  exact absurd line (by decide +kernel)

end ChaosLibs.Common.ExtractInPlace
