import ChaosLibs.Common.CString

/-!
# Rule qualifiers and rule numbers

The qualifier words of `chaos_policy.h` (`@first`, `@from`, `@until`,
`@size`), their extraction from the end of a rule line, and the
locale-independent number parsers.  Probabilities are kept as the exact
fraction the parser accumulates before its one floating-point division.
-/

namespace ChaosLibs.Common.RulePolicy

open ChaosLibs.Common.CString

/-- `chaos_rule_policy_t`; the default value means no qualifier. -/
structure ChaosRulePolicy where
  first : Nat := 0
  fromMs : Nat := 0
  untilMs : Nat := 0
  sizeAbove : Nat := 0
  sizeBelow : Nat := 0
  hasSizeAbove : Bool := false
  hasSizeBelow : Bool := false
deriving DecidableEq, Repr

/-- A probability `decimals / scale`. -/
structure Probability where
  decimals : Nat
  scale : Nat
deriving DecidableEq, Repr

/-! ## Numbers -/

/--
The digits after the point in `chaos_policy_parse_probability`: the loop's
`decimals` and `scale`, and the text that follows the digits.
-/
def fractionDigits (one : Bool) :
    Bytes → Nat → Nat → Option (Nat × Nat × Bytes)
  | [], decimals, scale => some (decimals, scale, [])
  | ch :: rest, decimals, scale =>
      if isDigit ch then
        if one && ch != byte '0' then none
        else if scale < 10 ^ 15 then
          fractionDigits one rest (decimals * 10 + digitValue ch) (scale * 10)
        else
          fractionDigits one rest decimals scale
      else
        some (decimals, scale, ch :: rest)

/-- The blanks allowed after a probability. -/
def isTrailingBlank (ch : UInt8) : Bool :=
  ch == byte ' ' || ch == byte '\t' || ch == byte '\r' || ch == byte '\n'

/-- `chaos_policy_parse_probability`. -/
def chaosPolicyParseProbability (text : Bytes) : Option Probability :=
  match text with
  | [] => none
  | ch :: rest =>
      if ch == byte '0' || ch == byte '1' then
        let one := ch == byte '1'
        let fraction :=
          match rest with
          | point :: digits =>
              if point == byte '.' then
                match digits with
                | [] => none
                | digit :: _ =>
                    if isDigit digit then fractionDigits one digits 0 1
                    else none
              else
                some (0, 1, rest)
          | [] => some (0, 1, [])
        match fraction with
        | none => none
        | some (decimals, scale, tail) =>
            if tail.all isTrailingBlank then
              some (if one then ⟨1, 1⟩ else ⟨decimals, scale⟩)
            else
              none
      else
        none

/-- The digit loop of `chaos_policy_parse_number`. -/
def numberDigits : Bytes → Nat → Nat → Option Nat
  | [], result, _ => some result
  | ch :: rest, result, digits =>
      if !isDigit ch || 18 ≤ digits then none
      else numberDigits rest (result * 10 + digitValue ch) (digits + 1)

/-- `chaos_policy_parse_number`. -/
def chaosPolicyParseNumber (text : Bytes) : Option Nat :=
  if text.isEmpty then none else numberDigits text 0 0

/-! ## Qualifier words -/

/-- The number of a word `<name><number>`; `none` when it has another name. -/
def qualifierNumber (name : String) (word : Bytes) : Option Nat :=
  if startsWith (bytes name) word then
    chaosPolicyParseNumber (word.drop (bytes name).length)
  else
    none

/-- `chaos_policy_parse_word`. -/
def chaosPolicyParseWord
    (word : Bytes) (policy : ChaosRulePolicy) : Option ChaosRulePolicy :=
  match (qualifierNumber "@first=" word).filter (0 < ·) with
  | some value => some { policy with first := value }
  | none =>
  match qualifierNumber "@from=" word with
  | some value => some { policy with fromMs := value }
  | none =>
  match qualifierNumber "@until=" word with
  | some value => some { policy with untilMs := value }
  | none =>
  match qualifierNumber "@size>" word with
  | some value => some { policy with sizeAbove := value, hasSizeAbove := true }
  | none =>
  match qualifierNumber "@size<" word with
  | some value => some { policy with sizeBelow := value, hasSizeBelow := true }
  | none => none

/-! ## Extraction -/

/-- `word_end` of `chaos_policy_extract`: `end` moved left over blanks. -/
def wordEnd (text : Bytes) : Nat → Nat
  | 0 => 0
  | pos + 1 =>
      match text[pos]? with
      | some ch =>
          if ch == byte ' ' || ch == byte '\t' || ch == byte '\r' then
            wordEnd text pos
          else
            pos + 1
      | none => pos + 1

/-- `word` of `chaos_policy_extract`: `word_end` moved left to the word's start. -/
def wordStart (text : Bytes) : Nat → Nat
  | 0 => 0
  | pos + 1 =>
      match text[pos]? with
      | some ch =>
          if ch == byte ' ' || ch == byte '\t' then pos + 1
          else wordStart text pos
      | none => pos + 1

/--
The loop of `chaos_policy_extract` from position `end` with at most `fuel`
words to its left; every word begins left of the one before, so `end` itself
is always enough.  `cut` is the start of the last word taken.
-/
def extractWords (text : Bytes) :
    Nat → Nat → Option Nat → ChaosRulePolicy →
      Option (Option Nat × ChaosRulePolicy)
  | 0, _, cut, policy => some (cut, policy)
  | fuel + 1, stop, cut, policy =>
      let wordStop := wordEnd text stop
      let word := wordStart text wordStop
      if word == wordStop || text[word]? != some (byte '@') || word == 0 then
        some (cut, policy)
      else
        match chaosPolicyParseWord ((text.take wordStop).drop word) policy with
        | none => none
        | some parsed => extractWords text fuel word (some word) parsed

/--
`chaos_policy_extract`: the line as the call leaves it, and the qualifiers;
`none` when the call fails.
-/
def chaosPolicyExtract (line : Bytes) : Bytes × Option ChaosRulePolicy :=
  let stop := (cutAt (byte '#') line).length
  match extractWords line stop stop none {} with
  | none => (line, none)
  | some (cut, policy) =>
      let left :=
        match cut with
        | some position => line.take position
        | none => line
      if policy.fromMs != 0 && policy.untilMs != 0 &&
          policy.untilMs ≤ policy.fromMs then
        (left, none)
      else
        (left, some policy)

/-- `chaos_policy_is_empty`. -/
def chaosPolicyIsEmpty (policy : ChaosRulePolicy) : Bool :=
  policy.first == 0 && policy.fromMs == 0 && policy.untilMs == 0 &&
    !policy.hasSizeAbove && !policy.hasSizeBelow

end ChaosLibs.Common.RulePolicy
