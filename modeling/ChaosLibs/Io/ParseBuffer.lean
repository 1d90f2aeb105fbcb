import ChaosLibs.Io.Refresh
import Mathlib.Data.List.TakeWhile

/-!
# A rule file is taken as a whole

`chaos_io_config_parse_buffer` with all that it leaves behind: its result, the array
and the count it was given, and the error record.  What each line means on its own is
stated beside it, and the first line that is refused decides for the file.
-/

namespace ChaosLibs.Io.ParseBuffer

open ChaosLibs.Common.CString
open ChaosLibs.Common.RulePolicy
open ChaosLibs.Common.StatusText
open ChaosLibs.Io.ConfigParser
open ChaosLibs.Io.Rule

/-! ## The parser -/

/--
The result of `chaos_io_config_parse_buffer`, `*rule_count`, what it has stored in `rules`
and `g_chaos_io_config_texts`, and `g_chaos_io_config_error`.
-/
structure ParseResult where
  rc : Int
  ruleCount : Nat
  stored : List ParsedRule
  error : ChaosStatusError
deriving DecidableEq, Repr

/-- The line that is kept is rejected. -/
def rejectLine (kept : ChaosStatusError) (stored : List ParsedRule) (reason : Reason) :
    ParseResult :=
  ⟨-1, 0, stored, chaosStatusReject kept reason⟩

/-- The loop of `chaos_io_config_parse_buffer`, `number` lines in. -/
def parseLoop (supported : ChaosIoRule → Bool) :
    List Bytes → Nat → List ParsedRule → ParseResult
  | [], _, stored => ⟨0, stored.length, stored, chaosStatusClear⟩
  | line :: rest, number, stored =>
      let kept := chaosStatusKeepLine (number + 1) line
      match chaosPolicyExtract line with
      | (_, none) => rejectLine kept stored .invalid
      | (left, some policy) =>
          match chaosIoConfigParseLine left with
          | .invalid => rejectLine kept stored .invalid
          | .blank =>
              -- Qualifiers on a line that holds no rule.
              if !chaosPolicyIsEmpty policy then rejectLine kept stored .invalid
              else parseLoop supported rest (number + 1) stored
          | .rule parsed =>
              let rule :=
                { parsed with policy := policy, callSize := chaosPolicyNoSize }
              if chaosIoMaxRules ≤ stored.length then rejectLine kept stored .tooMany
              else if !supported rule then rejectLine kept stored .unsupported
              else
                parseLoop supported rest (number + 1) (stored ++ [⟨kept.text, rule⟩])

/--
`chaos_io_config_parse_buffer`; `supported` is `CHAOS_IO_RULE_SUPPORTED`, which
chaos-init defines in its own way.
-/
def parseBuffer (supported : ChaosIoRule → Bool) (buffer : Bytes) : ParseResult :=
  parseLoop supported (splitLines (cutAt 0 buffer)) 0 []

/-- The rules of the snapshot that `chaos_io_config_reload` publishes after the parse. -/
def rulesToPublish (result : ParseResult) : List ParsedRule :=
  -- `chaos_io_config_reset_state` after a rejection.
  if result.rc ≠ 0 then [] else result.stored.take result.ruleCount

/-! ## Lines on their own -/

/-- What a line says: nothing, a rule, or that it is no valid line. -/
def lineMeaning (line : Bytes) : Except Reason (Option ChaosIoRule) :=
  match chaosPolicyExtract line with
  | (_, none) => .error .invalid
  | (left, some policy) =>
      match chaosIoConfigParseLine left with
      | .invalid => .error .invalid
      | .blank => if chaosPolicyIsEmpty policy then .ok none else .error .invalid
      | .rule parsed =>
          .ok (some { parsed with policy := policy, callSize := chaosPolicyNoSize })

/-- The rule of a line, with its text. -/
def lineRule (line : Bytes) : Option ParsedRule :=
  match lineMeaning line with
  | .ok (some rule) => some ⟨keptText line, rule⟩
  | .ok none | .error _ => none

/-- The rules of some lines, in their order. -/
def rulesOf (lines : List Bytes) : List ParsedRule :=
  lines.filterMap lineRule

/-- Why a line is refused after the lines `before` it; `none` when it is valid. -/
def lineFault (supported : ChaosIoRule → Bool) (before : List Bytes) (line : Bytes) :
    Option Reason :=
  match lineMeaning line with
  | .error reason => some reason
  | .ok none => none
  | .ok (some rule) =>
      if chaosIoMaxRules ≤ (rulesOf before).length then some .tooMany
      else if supported rule then none
      else some .unsupported

/-- Every line is valid. -/
def AllValid (supported : ChaosIoRule → Bool) (lines : List Bytes) : Prop :=
  ∀ before line after, lines = before ++ line :: after →
    lineFault supported before line = none

variable {supported : ChaosIoRule → Bool} {before lines rest : List Bytes}
  {line : Bytes}

theorem allValid_nil : AllValid supported [] :=
  fun _ _ _ split => absurd split.symm (List.append_ne_nil_of_right_ne_nil _ nofun)

theorem allValid_append_singleton (valid : AllValid supported before)
    (last : lineFault supported before line = none) :
    AllValid supported (before ++ [line]) := by
  intro earlier other after split
  rcases List.eq_nil_or_concat after with rfl | ⟨others, final, rfl⟩
  · rcases List.append_inj' split rfl with ⟨rfl, same⟩
    cases same
    exact last
  · rw [List.concat_eq_append, ← List.cons_append, ← List.append_assoc] at split
    rcases List.append_inj' split rfl with ⟨same, -⟩
    exact valid earlier other others same

/-! ## One line -/

theorem rulesOf_append_singleton (before : List Bytes) (line : Bytes) :
    rulesOf (before ++ [line]) = rulesOf before ++ (lineRule line).toList := by
  rw [rulesOf, List.filterMap_append]
  cases read : lineRule line <;> simp [rulesOf, read]

/-- A valid line adds its rule, and a refused one ends the loop. -/
theorem parseLoop_cons (supported : ChaosIoRule → Bool) (before rest : List Bytes)
    (line : Bytes) (number : Nat) :
    parseLoop supported (line :: rest) number (rulesOf before) =
      match lineFault supported before line with
      | some reason =>
          rejectLine (chaosStatusKeepLine (number + 1) line) (rulesOf before) reason
      | none => parseLoop supported rest (number + 1) (rulesOf (before ++ [line])) := by
  rw [rulesOf_append_singleton]
  dsimp only [parseLoop, lineFault, lineRule, lineMeaning]
  cases extracted : chaosPolicyExtract line with
  | mk left policy =>
      cases policy with
      | none => rfl
      | some policy =>
          dsimp only
          cases chaosIoConfigParseLine left with
          | invalid => rfl
          | blank =>
              dsimp only
              cases chaosPolicyIsEmpty policy with
              | true =>
                  rw [Bool.not_true, if_neg Bool.false_ne_true, if_pos rfl]
                  dsimp only
                  rw [Option.toList_none, List.append_nil]
              | false => rfl
          | rule parsed =>
              dsimp only
              by_cases full : chaosIoMaxRules ≤ (rulesOf before).length
              · rw [if_pos full, if_pos full]
              · rw [if_neg full, if_neg full]
                cases supported
                    { parsed with policy := policy, callSize := chaosPolicyNoSize } with
                | true => rfl
                | false => rfl

/-! ## The whole file -/

/-- The outcomes of a parse: every line is valid, or a first one is not. -/
inductive Outcome (supported : ChaosIoRule → Bool) (lines : List Bytes) :
    ParseResult → Prop where
  | accepted (valid : AllValid supported lines)
      (few : (rulesOf lines).length ≤ chaosIoMaxRules) :
      Outcome supported lines
        ⟨0, (rulesOf lines).length, rulesOf lines, chaosStatusClear⟩
  | rejected (before : List Bytes) (line : Bytes) (after : List Bytes)
      (reason : Reason) (split : lines = before ++ line :: after)
      (valid : AllValid supported before)
      (fault : lineFault supported before line = some reason) :
      Outcome supported lines
        ⟨-1, 0, rulesOf before, ⟨before.length + 1, some reason, keptText line⟩⟩

theorem length_rulesOf_of_valid
    (few : (rulesOf before).length ≤ chaosIoMaxRules)
    (valid : lineFault supported before line = none) :
    (rulesOf (before ++ [line])).length ≤ chaosIoMaxRules := by
  rw [rulesOf_append_singleton, List.length_append]
  dsimp only [lineFault, lineRule] at valid ⊢
  cases meaning : lineMeaning line with
  | error reason =>
      rw [meaning] at valid
      cases valid
  | ok said =>
      cases said with
      | none => exact few
      | some rule =>
          rw [meaning] at valid
          dsimp only at valid
          split at valid
          · cases valid
          · rename_i room
            exact Nat.lt_of_not_le room

theorem outcome_parseLoop (valid : AllValid supported before)
    (few : (rulesOf before).length ≤ chaosIoMaxRules) :
    Outcome supported (before ++ rest)
      (parseLoop supported rest before.length (rulesOf before)) := by
  induction rest generalizing before with
  | nil =>
      rw [List.append_nil]
      exact .accepted valid few
  | cons line rest induction =>
      rw [parseLoop_cons]
      cases fault : lineFault supported before line with
      | some reason => exact .rejected before line rest reason rfl valid fault
      | none =>
          have later := induction (allValid_append_singleton valid fault)
            (length_rulesOf_of_valid few fault)
          rw [List.length_append, List.length_singleton, List.append_assoc] at later
          exact later

theorem outcome_parseBuffer (supported : ChaosIoRule → Bool) (buffer : Bytes) :
    Outcome supported (splitLines (cutAt 0 buffer)) (parseBuffer supported buffer) :=
  outcome_parseLoop allValid_nil (Nat.zero_le _)

/--
A file is taken as a whole: all its rules in their order when every line is valid, and
no rule at all, with the number and the reason of the first line that is not.
-/
theorem parseBuffer_allOrNothing (supported : ChaosIoRule → Bool) (buffer : Bytes) :
    let lines := splitLines (cutAt 0 buffer)
    let result := parseBuffer supported buffer
    (AllValid supported lines ∧ result.rc = 0 ∧
        result.ruleCount = (rulesOf lines).length ∧
        result.ruleCount ≤ chaosIoMaxRules ∧ result.stored = rulesOf lines ∧
        rulesToPublish result = rulesOf lines) ∨
      ∃ before line after reason, lines = before ++ line :: after ∧
        AllValid supported before ∧ lineFault supported before line = some reason ∧
        result.rc = -1 ∧ result.ruleCount = 0 ∧
        result.error = ⟨before.length + 1, some reason, keptText line⟩ ∧
        rulesToPublish result = [] := by
  intro lines result
  cases outcome : result with
  | mk rc ruleCount stored error =>
      have outcomes := outcome_parseBuffer supported buffer
      change Outcome supported lines result at outcomes
      rw [outcome] at outcomes
      cases outcomes with
      | accepted valid few =>
          exact Or.inl ⟨valid, rfl, rfl, few, rfl, List.take_length⟩
      | rejected before line after reason split valid fault =>
          exact Or.inr ⟨before, line, after, reason, split, valid, fault, rfl, rfl, rfl,
            rfl⟩

/-! ## Lines, and the parse of a load -/

/-- The lines of a text are its runs without LF, each but the last ended by one. -/
theorem splitLines_spec (text : Bytes) :
    (∀ line ∈ splitLines text, byte '\n' ∉ line) ∧
      ((splitLines text).flatMap (· ++ [byte '\n']) = text ∨
        (splitLines text).flatMap (· ++ [byte '\n']) = text ++ [byte '\n']) := by
  induction text with
  | nil => exact ⟨nofun, Or.inl rfl⟩
  | cons ch rest induction =>
      rcases induction with ⟨noFeed, joined⟩
      dsimp only [splitLines]
      split
      · rename_i feed
        have same : ch = byte '\n' := beq_iff_eq.mp feed
        refine ⟨List.forall_mem_cons.mpr ⟨List.not_mem_nil, noFeed⟩, ?_⟩
        rw [same, List.flatMap_cons, List.nil_append, List.singleton_append]
        rcases joined with ended | unended
        · exact Or.inl (congrArg _ ended)
        · exact Or.inr (congrArg _ unended)
      · rename_i other
        have different : byte '\n' ≠ ch := fun same => other (beq_iff_eq.mpr same.symm)
        cases read : splitLines rest with
        | nil =>
            rw [read] at joined
            refine ⟨List.forall_mem_cons.mpr ⟨?_, nofun⟩, ?_⟩
            · exact List.not_mem_cons_of_ne_of_not_mem different List.not_mem_nil
            · rcases joined with ended | unended
              · rw [← ended]
                exact Or.inr rfl
              · exact absurd unended.symm (List.append_ne_nil_of_right_ne_nil _ nofun)
        | cons line others =>
            rw [read] at noFeed joined
            rcases List.forall_mem_cons.mp noFeed with ⟨first, later⟩
            refine ⟨List.forall_mem_cons.mpr ⟨?_, later⟩, ?_⟩
            · exact List.not_mem_cons_of_ne_of_not_mem different first
            · rw [List.flatMap_cons] at joined
              rw [List.flatMap_cons, List.cons_append, List.cons_append]
              rcases joined with ended | unended
              · exact Or.inl (congrArg _ ended)
              · exact Or.inr (congrArg _ unended)

/-- A parse as its caller sees it: the rules, or the error record. -/
def ParseResult.toExcept (result : ParseResult) :
    Except ChaosStatusError (List ParsedRule) :=
  if result.rc = 0 then .ok result.stored else .error result.error

theorem parseLines_eq (lines : List Bytes) (number : Nat) (stored : List ParsedRule) :
    parseLines lines number stored =
      (parseLoop chaosIoRuleSupported lines number stored).toExcept := by
  induction lines generalizing number stored with
  | nil => rfl
  | cons line rest induction =>
      dsimp only [parseLines, parseLoop]
      cases extracted : chaosPolicyExtract line with
      | mk left policy =>
          cases policy with
          | none => rfl
          | some policy =>
              dsimp only
              cases chaosIoConfigParseLine left with
              | invalid => rfl
              | blank =>
                  dsimp only
                  cases chaosPolicyIsEmpty policy with
                  | true => exact induction (number + 1) stored
                  | false => rfl
              | rule parsed =>
                  dsimp only
                  by_cases full : chaosIoMaxRules ≤ stored.length
                  · rw [if_pos full, if_pos full]
                    rfl
                  · rw [if_neg full, if_neg full]
                    exact induction (number + 1) _

/-- A load parses the file with this parser. -/
theorem chaosIoConfigParseBuffer_eq {buffer : Bytes} (noNul : 0 ∉ buffer) :
    chaosIoConfigParseBuffer buffer =
      (parseBuffer chaosIoRuleSupported buffer).toExcept := by
  have whole : cutAt 0 buffer = buffer :=
    List.takeWhile_eq_self_iff.mpr fun ch member =>
      bne_iff_ne.mpr fun nul => noNul (nul ▸ member)
  dsimp only [chaosIoConfigParseBuffer, parseBuffer]
  rw [whole]
  exact parseLines_eq _ _ _

end ChaosLibs.Io.ParseBuffer
