import ChaosLibs.Io.ParseBuffer

/-!
# Rule files of the libraries

`chaos_<lib>_config_parse_buffer` is one loop in all libraries: each cuts the buffer into
lines, takes the qualifiers off a line, parses the rest, and gives the file up at the first
line it refuses.  What a library brings along is its line parser, its rule record and which
rules the build supports.
-/

namespace ChaosLibs.Common.RuleFile

open ChaosLibs.Common.CString
open ChaosLibs.Common.RulePolicy
open ChaosLibs.Common.StatusText
open ChaosLibs.Io.ConfigParser
open ChaosLibs.Io.ParseBuffer

/-- What `chaos_<lib>_config_parse_line` returns: -1, 0, and 1 with a rule. -/
inductive LineResult (Rule : Type) where
  | invalid
  | blank
  | rule (rule : Rule)
deriving DecidableEq, Repr

/-- The record that a library makes of what a line says. -/
def LineResult.map {Said Rule : Type} (record : Said → Rule) : LineResult Said → LineResult Rule
  | .invalid => .invalid
  | .blank => .blank
  | .rule said => .rule (record said)

theorem LineResult.map_eq_rule {Said Rule : Type} {record : Said → Rule} {rule : Rule}
    {result : LineResult Said} :
    result.map record = .rule rule ↔ ∃ said, result = .rule said ∧ record said = rule := by
  cases result <;> simp [LineResult.map]

/-- What a library brings along. -/
structure Format (Rule : Type) where
  /-- `chaos_<lib>_config_parse_line`. -/
  parseLine : Bytes → LineResult Rule
  /-- The stores to `policy` and `call_size`. -/
  qualified : Rule → ChaosRulePolicy → Rule
  /-- `CHAOS_<LIB>_RULE_SUPPORTED`. -/
  supported : Rule → Bool
  /-- `CHAOS_<LIB>_MAX_RULES`. -/
  maxRules : Nat

/-- A rule with the text that is reported for it. -/
structure StoredRule (Rule : Type) where
  text : Bytes
  rule : Rule
deriving DecidableEq, Repr

/-- The result of a parse, `*rule_count`, what it has stored, and the error record. -/
structure FileResult (Rule : Type) where
  rc : Int
  ruleCount : Nat
  stored : List (StoredRule Rule)
  error : ChaosStatusError
deriving DecidableEq, Repr

variable {Rule : Type}

/-- The line that is kept is rejected. -/
def refuse (kept : ChaosStatusError) (stored : List (StoredRule Rule)) (reason : Reason) :
    FileResult Rule :=
  ⟨-1, 0, stored, chaosStatusReject kept reason⟩

section Loop

variable (format : Format Rule)

/-- The loop of `chaos_<lib>_config_parse_buffer`, `number` lines in. -/
def fileLoop : List Bytes → Nat → List (StoredRule Rule) → FileResult Rule
  | [], _, stored => ⟨0, stored.length, stored, chaosStatusClear⟩
  | line :: rest, number, stored =>
      let kept := chaosStatusKeepLine (number + 1) line
      match chaosPolicyExtract line with
      | (_, none) => refuse kept stored .invalid
      | (left, some policy) =>
          match format.parseLine left with
          | .invalid => refuse kept stored .invalid
          | .blank =>
              -- Qualifiers without a rule.
              if !chaosPolicyIsEmpty policy then refuse kept stored .invalid
              else fileLoop rest (number + 1) stored
          | .rule parsed =>
              let rule := format.qualified parsed policy
              if format.maxRules ≤ stored.length then refuse kept stored .tooMany
              else if !format.supported rule then refuse kept stored .unsupported
              else fileLoop rest (number + 1) (stored ++ [⟨kept.text, rule⟩])

/-- `chaos_<lib>_config_parse_buffer`. -/
def parseFile (buffer : Bytes) : FileResult Rule :=
  fileLoop format (splitLines (cutAt 0 buffer)) 0 []

/-! ## Lines on their own -/

/-- What a line says: nothing, a rule, or that it is no valid line. -/
def meaning (line : Bytes) : Except Reason (Option Rule) :=
  match chaosPolicyExtract line with
  | (_, none) => .error .invalid
  | (left, some policy) =>
      match format.parseLine left with
      | .invalid => .error .invalid
      | .blank => if chaosPolicyIsEmpty policy then .ok none else .error .invalid
      | .rule parsed => .ok (some (format.qualified parsed policy))

/-- The rule of a line, with its text. -/
def ruleOf (line : Bytes) : Option (StoredRule Rule) :=
  match meaning format line with
  | .ok (some rule) => some ⟨keptText line, rule⟩
  | .ok none | .error _ => none

/-- The rules of some lines, in their order. -/
def fileRules (lines : List Bytes) : List (StoredRule Rule) :=
  lines.filterMap (ruleOf format)

/-- Why a line is refused behind the lines `before`; `none` when it is valid. -/
def refusal (before : List Bytes) (line : Bytes) : Option Reason :=
  match meaning format line with
  | .error reason => some reason
  | .ok none => none
  | .ok (some rule) =>
      if format.maxRules ≤ (fileRules format before).length then some .tooMany
      else if format.supported rule then none
      else some .unsupported

/-- No line is refused. -/
def Valid (lines : List Bytes) : Prop :=
  ∀ before line after, lines = before ++ line :: after → refusal format before line = none

end Loop

variable {format : Format Rule} {before lines rest : List Bytes} {line : Bytes}

theorem valid_nil : Valid format [] :=
  fun _ _ _ split => absurd split.symm (List.append_ne_nil_of_right_ne_nil _ nofun)

theorem valid_concat (valid : Valid format before) (last : refusal format before line = none) :
    Valid format (before ++ [line]) := by
  intro earlier other after split
  rcases List.eq_nil_or_concat after with rfl | ⟨others, final, rfl⟩
  · obtain ⟨rfl, same⟩ := List.append_inj' split rfl
    cases same
    exact last
  · rw [List.concat_eq_append, ← List.cons_append, ← List.append_assoc] at split
    obtain ⟨same, -⟩ := List.append_inj' split rfl
    exact valid earlier other others same

theorem fileRules_concat (before : List Bytes) (line : Bytes) :
    fileRules format (before ++ [line]) =
      fileRules format before ++ (ruleOf format line).toList := by
  rw [fileRules, List.filterMap_append]
  cases read : ruleOf format line <;> simp [fileRules, read]

/-- A valid line adds its rule, and a refused one ends the loop. -/
theorem fileLoop_cons (format : Format Rule) (before rest : List Bytes) (line : Bytes)
    (number : Nat) :
    fileLoop format (line :: rest) number (fileRules format before) =
      match refusal format before line with
      | some reason =>
          refuse (chaosStatusKeepLine (number + 1) line) (fileRules format before) reason
      | none =>
          fileLoop format rest (number + 1) (fileRules format (before ++ [line])) := by
  rw [fileRules_concat]
  dsimp only [fileLoop, refusal, ruleOf, meaning]
  cases extracted : chaosPolicyExtract line with
  | mk left policy =>
      cases policy with
      | none => rfl
      | some policy =>
          dsimp only
          cases format.parseLine left with
          | invalid => rfl
          | blank =>
              dsimp only
              cases chaosPolicyIsEmpty policy with
              | true => simp
              | false => rfl
          | rule parsed =>
              dsimp only
              by_cases full : format.maxRules ≤ (fileRules format before).length
              · rw [if_pos full, if_pos full]
              · rw [if_neg full, if_neg full]
                cases format.supported (format.qualified parsed policy) with
                | true => rfl
                | false => rfl

/-- The outcomes of a parse: no line is refused, or a first one is. -/
inductive FileOutcome (format : Format Rule) (lines : List Bytes) :
    FileResult Rule → Prop where
  | accepted (valid : Valid format lines)
      (few : (fileRules format lines).length ≤ format.maxRules) :
      FileOutcome format lines
        ⟨0, (fileRules format lines).length, fileRules format lines, chaosStatusClear⟩
  | refused (before : List Bytes) (line : Bytes) (after : List Bytes) (reason : Reason)
      (split : lines = before ++ line :: after) (valid : Valid format before)
      (fault : refusal format before line = some reason) :
      FileOutcome format lines
        ⟨-1, 0, fileRules format before, ⟨before.length + 1, some reason, keptText line⟩⟩

theorem length_fileRules_concat (few : (fileRules format before).length ≤ format.maxRules)
    (valid : refusal format before line = none) :
    (fileRules format (before ++ [line])).length ≤ format.maxRules := by
  rw [fileRules_concat, List.length_append]
  dsimp only [refusal, ruleOf] at valid ⊢
  cases said : meaning format line with
  | error reason =>
      rw [said] at valid
      cases valid
  | ok rule =>
      cases rule with
      | none => exact few
      | some rule =>
          rw [said] at valid
          dsimp only at valid
          split at valid
          · cases valid
          · rename_i room
            exact Nat.lt_of_not_le room

theorem outcome_fileLoop (valid : Valid format before)
    (few : (fileRules format before).length ≤ format.maxRules) :
    FileOutcome format (before ++ rest)
      (fileLoop format rest before.length (fileRules format before)) := by
  induction rest generalizing before with
  | nil =>
      rw [List.append_nil]
      exact .accepted valid few
  | cons line rest induction =>
      rw [fileLoop_cons]
      cases fault : refusal format before line with
      | some reason => exact .refused before line rest reason rfl valid fault
      | none =>
          have later := induction (valid_concat valid fault)
            (length_fileRules_concat few fault)
          rw [List.length_append, List.length_singleton, List.append_assoc] at later
          exact later

theorem outcome_parseFile (format : Format Rule) (buffer : Bytes) :
    FileOutcome format (splitLines (cutAt 0 buffer)) (parseFile format buffer) :=
  outcome_fileLoop valid_nil (Nat.zero_le _)

/-! ## The rules of a file -/

/-- The rule of a line of a file: its parser and its qualifiers accept the line. -/
theorem exists_of_mem_fileRules {stored : StoredRule Rule}
    (member : stored ∈ fileRules format lines) :
    ∃ line ∈ lines, stored.text = keptText line ∧
      ∃ left policy parsed, chaosPolicyExtract line = (left, some policy) ∧
        format.parseLine left = .rule parsed ∧
          stored.rule = format.qualified parsed policy := by
  obtain ⟨line, inside, read⟩ := List.mem_filterMap.mp member
  refine ⟨line, inside, ?_⟩
  rw [ruleOf, meaning] at read
  cases extracted : chaosPolicyExtract line with
  | mk left policy =>
      rw [extracted] at read
      cases policy with
      | none => cases read
      | some policy =>
          dsimp only at read
          cases parsed : format.parseLine left with
          | invalid =>
              rw [parsed] at read
              cases read
          | blank =>
              rw [parsed] at read
              dsimp only at read
              split at read
              · rename_i said
                split at said <;> cases said
              · cases read
              · cases read
          | rule rule =>
              rw [parsed] at read
              cases read
              exact ⟨rfl, left, policy, rule, rfl, parsed, rfl⟩

end ChaosLibs.Common.RuleFile
