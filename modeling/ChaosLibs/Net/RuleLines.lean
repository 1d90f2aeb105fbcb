import ChaosLibs.Machine.TrimmedFields
import ChaosLibs.Net.ConfigParser

/-!
# Readings of a network rule line

A line is cut at its last three `:`, and selectors hold colons of their own.  What the
grammar admits as four fields, the lines that spell them, and that the cut finds the
fields of a line again: of the four, only a selector can hold a `:`.
-/

namespace ChaosLibs.Net.RuleLines

open ChaosLibs.Common.CString
open ChaosLibs.Common.CountTexts
open ChaosLibs.Common.ProbabilityText
open ChaosLibs.Common.RulePolicy
open ChaosLibs.Machine.TrimmedFields
open ChaosLibs.Net.ConfigParser
open ChaosLibs.Net.LoadedRules
open ChaosLibs.Net.Rule
open ChaosLibs.Net.Selectors

/-! ## The grammar -/

/-- A text that a field of a line can be: no comment in it and no blanks around it. -/
structure IsField (text : Bytes) : Prop where
  noComment : byte '#' ∉ text
  solid : Solid isBlankChar text

/-- The effects whose value is a probability. -/
def chanceNames : List (String × ChaosNetEffect) :=
  [("CORRUPT", .corrupt), ("TIMEOUT", .timeout), ("DUP", .dup), ("RESET", .reset)]

/-- An effect field, a value of this effect, and what the two say. -/
inductive EffectForm : Bytes → Bytes → EffectFields → Prop where
  | errno {name : String} {errnum : Nat} {value : Bytes} {probability : Probability}
      (known : (name, errnum) ∈ errnoNames)
      (chance : chaosNetParseProbability value = some probability) :
      EffectForm (bytes name) value { effect := .errno, errnum, probability }
  | latency {value : Bytes} {latencyMs : Nat}
      (number : chaosNetParseLatency value = some latencyMs) :
      EffectForm (bytes "LATENCY") value { effect := .latency, latencyMs }
  | chance {name : String} {effect : ChaosNetEffect} {value : Bytes}
      {probability : Probability} (known : (name, effect) ∈ chanceNames)
      (chance : chaosNetParseProbability value = some probability) :
      EffectForm (bytes name) value { effect, probability }
  | trickle {value : Bytes} {chunkBytes : Nat}
      (number : chaosNetParseLatency value = some chunkBytes) (some : chunkBytes ≠ 0) :
      EffectForm (bytes "TRICKLE") value
        { effect := .trickle, probability := ⟨1, 1⟩, chunkBytes }

/-- Four fields of the grammar and their rule. -/
inductive Admits : RuleFields → ChaosNetRule → Prop where
  | fields {selector effect value : Bytes} {name : String} {endpoint : ChaosNetEndpoint}
      {operation : ChaosNetOperation} {effectFields : EffectFields}
      (selectorField : IsField selector) (valueField : IsField value)
      (accepted : chaosNetEndpointParseSelector selector = some endpoint)
      (known : (name, operation) ∈ operationNames)
      (meaning : EffectForm effect value effectFields)
      (selectorAllowed : chaosNetSelectorAllowed operation endpoint = true)
      (effectAllowed : chaosNetEffectAllowed operation effectFields.effect = true) :
      Admits ⟨selector, bytes name, effect, value⟩
        (ruleOfFields endpoint operation effectFields)

/-- `selector:operation:effect:value`. -/
def ruleLine (fields : RuleFields) : Bytes :=
  fields.selector ++ byte ':' ::
    (fields.operation ++ byte ':' :: (fields.effect ++ byte ':' :: fields.value))

/-- Each field with blanks around it. -/
structure FieldsSpaced (fields raw : RuleFields) : Prop where
  selector : Spaced isBlankChar fields.selector raw.selector
  operation : Spaced isBlankChar fields.operation raw.operation
  effect : Spaced isBlankChar fields.effect raw.effect
  value : Spaced isBlankChar fields.value raw.value

/-- A reading of a line: up to its comment, it spells four fields of the grammar. -/
structure Reads (line : Bytes) (fields : RuleFields) (rule : ChaosNetRule) : Prop where
  admitted : Admits fields rule
  spelled : ∃ raw, chaosNetStripComment line = ruleLine raw ∧ FieldsSpaced fields raw

/-! ## Names -/

/-- A text of letters that neither end a field nor are cut off. -/
structure IsKeyword (text : Bytes) : Prop where
  some : text ≠ []
  clean : ∀ ch ∈ text, ch ≠ byte ':' ∧ ch ≠ byte '#' ∧ isBlankChar ch = false

instance (text : Bytes) : Decidable (IsKeyword text) :=
  @decidable_of_iff _
    (text ≠ [] ∧ ∀ ch ∈ text, ch ≠ byte ':' ∧ ch ≠ byte '#' ∧ isBlankChar ch = false)
    ⟨fun parts => ⟨parts.1, parts.2⟩, fun keyword => ⟨keyword.some, keyword.clean⟩⟩
    (@instDecidableAnd _ _ inferInstance (List.decidableBAll _ _))

variable {text line effect value : Bytes} {fields raw : RuleFields}
  {effectFields : EffectFields} {rule : ChaosNetRule}

theorem IsKeyword.solid (keyword : IsKeyword text) : Solid isBlankChar text where
  first ch member := (keyword.clean ch (List.mem_of_mem_head? member)).2.2
  last ch member := (keyword.clean ch (List.mem_of_getLast? member)).2.2

theorem IsKeyword.noColon (keyword : IsKeyword text) : byte ':' ∉ text :=
  fun member => (keyword.clean _ member).1 rfl

/-- What a table of names makes of a text. -/
theorem mem_of_lookup {Value : Type*} {names : List (String × Value)} {found : Value}
    (lookup : (names.find? fun entry => bytes entry.1 == text).map Prod.snd = some found) :
    ∃ name, (name, found) ∈ names ∧ text = bytes name := by
  rcases Option.map_eq_some_iff.mp lookup with ⟨⟨name, listed⟩, known, rfl⟩
  have named : bytes name = text := by
    simpa using List.find?_some known
  exact ⟨name, List.mem_of_find?_eq_some known, named.symm⟩

theorem operation_of_known :
    ∀ entry ∈ operationNames, chaosNetParseOperation (bytes entry.1) = some entry.2 ∧
      IsKeyword (bytes entry.1) := by
  decide +kernel

theorem errno_of_known :
    ∀ entry ∈ errnoNames, chaosNetParseErrnoName (bytes entry.1) = some entry.2 ∧
      IsKeyword (bytes entry.1) := by
  decide +kernel

theorem keyword_of_effect :
    ∀ name ∈ ["LATENCY", "TRICKLE", "CORRUPT", "TIMEOUT", "DUP", "RESET"],
      chaosNetParseErrnoName (bytes name) = none ∧ IsKeyword (bytes name) := by
  decide +kernel

/-! ## Effects and values -/

/-- The branches of the effects that take a probability. -/
theorem effectForm_of_chance {name : String} {kind : ChaosNetEffect}
    (named : effect = bytes name)
    (parsed : ((chaosNetParseProbability value).map fun probability =>
      ({ effect := kind, probability } : EffectFields)) = some effectFields)
    (known : (name, kind) ∈ chanceNames) :
    EffectForm effect value effectFields := by
  rcases Option.map_eq_some_iff.mp parsed with ⟨probability, chance, rfl⟩
  rw [named]
  exact .chance known chance

theorem effectForm_of_parseEffect (parsed : parseEffect effect value = some effectFields) :
    EffectForm effect value effectFields := by
  unfold parseEffect at parsed
  split at parsed
  · rename_i errnum lookup
    rcases mem_of_lookup lookup with ⟨name, known, rfl⟩
    rcases Option.map_eq_some_iff.mp parsed with ⟨probability, chance, rfl⟩
    exact .errno known chance
  · split at parsed
    · rename_i named
      rcases Option.map_eq_some_iff.mp parsed with ⟨latencyMs, number, rfl⟩
      rw [named]
      exact .latency number
    · split at parsed
      · rename_i named
        exact effectForm_of_chance named parsed (by decide)
      · split at parsed
        · rename_i named
          exact effectForm_of_chance named parsed (by decide)
        · split at parsed
          · rename_i named
            rcases Option.bind_eq_some_iff.mp parsed with ⟨chunkBytes, number, rest⟩
            split at rest
            · cases rest
            · rename_i notZero
              cases rest
              rw [named]
              exact .trickle number notZero
          · split at parsed
            · rename_i named
              exact effectForm_of_chance named parsed (by decide)
            · split at parsed
              · rename_i named
                exact effectForm_of_chance named parsed (by decide)
              · cases parsed

/-- A keyword that is no errno name, and where its branch is. -/
theorem parseEffect_of_effectForm (meaning : EffectForm effect value effectFields) :
    parseEffect effect value = some effectFields := by
  cases meaning with
  | errno known chance =>
      rw [parseEffect, (errno_of_known _ known).1]
      dsimp only
      rw [chance]
      rfl
  | latency number =>
      rw [parseEffect, (keyword_of_effect "LATENCY" (by decide)).1]
      dsimp only
      rw [if_pos rfl, number]
      rfl
  | chance known chance =>
      simp only [chanceNames, List.mem_cons, List.not_mem_nil, or_false, Prod.mk.injEq]
        at known
      rcases known with ⟨rfl, rfl⟩ | ⟨rfl, rfl⟩ | ⟨rfl, rfl⟩ | ⟨rfl, rfl⟩
      · rw [parseEffect, (keyword_of_effect "CORRUPT" (by decide)).1]
        dsimp only
        rw [if_neg (by decide +kernel), if_pos rfl, chance]
        rfl
      · rw [parseEffect, (keyword_of_effect "TIMEOUT" (by decide)).1]
        dsimp only
        rw [if_neg (by decide +kernel), if_neg (by decide +kernel), if_pos rfl, chance]
        rfl
      · rw [parseEffect, (keyword_of_effect "DUP" (by decide)).1]
        dsimp only
        rw [if_neg (by decide +kernel), if_neg (by decide +kernel),
          if_neg (by decide +kernel), if_neg (by decide +kernel), if_pos rfl, chance]
        rfl
      · rw [parseEffect, (keyword_of_effect "RESET" (by decide)).1]
        dsimp only
        rw [if_neg (by decide +kernel), if_neg (by decide +kernel),
          if_neg (by decide +kernel), if_neg (by decide +kernel),
          if_neg (by decide +kernel), if_pos rfl, chance]
        rfl
  | trickle number some =>
      rw [parseEffect, (keyword_of_effect "TRICKLE" (by decide)).1]
      dsimp only
      rw [if_neg (by decide +kernel), if_neg (by decide +kernel),
        if_neg (by decide +kernel), if_pos rfl, number, Option.bind_some, if_neg some]

theorem keyword_of_effectForm (meaning : EffectForm effect value effectFields) :
    IsKeyword effect := by
  cases meaning with
  | errno known => exact (errno_of_known _ known).2
  | latency => exact (keyword_of_effect "LATENCY" (by decide)).2
  | chance known =>
      simp only [chanceNames, List.mem_cons, List.not_mem_nil, or_false, Prod.mk.injEq]
        at known
      rcases known with ⟨rfl, -⟩ | ⟨rfl, -⟩ | ⟨rfl, -⟩ | ⟨rfl, -⟩
      · exact (keyword_of_effect "CORRUPT" (by decide)).2
      · exact (keyword_of_effect "TIMEOUT" (by decide)).2
      · exact (keyword_of_effect "DUP" (by decide)).2
      · exact (keyword_of_effect "RESET" (by decide)).2
  | trickle => exact (keyword_of_effect "TRICKLE" (by decide)).2

/-- Digits and blanks do not end a field. -/
theorem colon_outside :
    isDigit (byte ':') = false ∧ isSpace (byte ':') = false ∧
      isBlankChar (byte ':') = false ∧ isTrailingBlank (byte ':') = false := by
  decide

theorem noColon_of_all {isLetter : UInt8 → Bool} {letters : Bytes}
    (outside : isLetter (byte ':') = false)
    (all : ∀ ch ∈ letters, isLetter ch = true) : byte ':' ∉ letters := by
  intro member
  have inside := all _ member
  rw [outside] at inside
  cases inside

theorem noColon_of_probability {probability : Probability}
    (chance : chaosNetParseProbability value = some probability) :
    value ≠ [] ∧ byte ':' ∉ value := by
  rcases colon_outside with ⟨noDigit, -, -, noBlank⟩
  rcases denotes_of_parse chance with ⟨number, denotes⟩
  cases denotes with
  | zero blank | one blank =>
      refine ⟨nofun, fun member => ?_⟩
      rcases List.mem_append.mp member with digit | inBlanks
      · exact absurd digit (by decide)
      · exact noColon_of_all noBlank blank inBlanks
  | fraction _ allDigits blank =>
      refine ⟨nofun, fun member => ?_⟩
      rcases List.mem_append.mp member with point | later
      · exact absurd point (by decide)
      · rcases List.mem_append.mp later with inDigits | inBlanks
        · exact noColon_of_all noDigit allDigits inDigits
        · exact noColon_of_all noBlank blank inBlanks
  | oneFraction _ allZeros blank =>
      refine ⟨nofun, fun member => ?_⟩
      rcases List.mem_append.mp member with point | later
      · exact absurd point (by decide)
      · rcases List.mem_append.mp later with inZeros | inBlanks
        · exact absurd (allZeros _ inZeros) (by decide)
        · exact noColon_of_all noBlank blank inBlanks

theorem noColon_of_latency {number : Nat}
    (parsed : chaosNetParseLatency value = some number) :
    value ≠ [] ∧ byte ':' ∉ value := by
  rcases colon_outside with ⟨noDigit, noSpace, noBlank, -⟩
  unfold chaosNetParseLatency at parsed
  split at parsed
  · cases parsed
  · rename_i read stop found
    split at parsed
    · cases parsed
    · rename_i blank
      have follows := List.dropWhile_eq_nil_iff.mp (not_not.mp blank)
      rcases integerText_of_strtoul found follows with ⟨integer, denotes, -⟩
      cases denotes with
      | @unsigned spaces digits tail space some allDigits follows =>
          refine ⟨by simp [some], fun member => ?_⟩
          rcases List.mem_append.mp member with inSpaces | later
          · exact noColon_of_all noSpace space inSpaces
          · rcases List.mem_append.mp later with inDigits | inTail
            · exact noColon_of_all noDigit allDigits inDigits
            · exact noColon_of_all noBlank follows inTail
      | @plus spaces digits tail space some allDigits follows
      | @minus spaces digits tail space some allDigits follows =>
          refine ⟨by simp, fun member => ?_⟩
          rcases List.mem_append.mp member with inSpaces | later
          · exact noColon_of_all noSpace space inSpaces
          · rcases List.mem_cons.mp later with sign | unsigned
            · exact absurd sign (by decide)
            · rcases List.mem_append.mp unsigned with inDigits | inTail
              · exact noColon_of_all noDigit allDigits inDigits
              · exact noColon_of_all noBlank follows inTail

/-- A value is a probability or a number. -/
theorem noColon_of_effectForm (meaning : EffectForm effect value effectFields) :
    value ≠ [] ∧ byte ':' ∉ value := by
  cases meaning with
  | errno _ chance | chance _ chance => exact noColon_of_probability chance
  | latency number | trickle number => exact noColon_of_latency number

/-! ## Admitted fields -/

theorem parseFields_of_admits (admitted : Admits fields rule) :
    parseFields fields = some rule := by
  cases admitted with
  | @fields selector effect value name endpoint operation _ selectorField valueField
      accepted known meaning selectorAllowed effectAllowed =>
      rcases operation_of_known _ known with ⟨parsed, keyword⟩
      have someSelector : selector ≠ [] := by
        rintro rfl
        cases accepted
      have someFields : ¬ (selector = [] ∨ bytes name = [] ∨ effect = [] ∨ value = []) := by
        simp [someSelector, keyword.some, (keyword_of_effectForm meaning).some,
          (noColon_of_effectForm meaning).1]
      rw [parseFields, if_neg someFields]
      dsimp only
      rw [accepted, Option.bind_some, parsed, Option.bind_some, if_pos selectorAllowed,
        parseEffect_of_effectForm meaning, Option.bind_some, if_pos effectAllowed]

theorem admits_of_parseFields (selectorField : IsField fields.selector)
    (valueField : IsField fields.value) (parsed : parseFields fields = some rule) :
    Admits fields rule := by
  unfold parseFields at parsed
  split at parsed
  · cases parsed
  · rcases Option.bind_eq_some_iff.mp parsed with ⟨endpoint, accepted, later⟩
    rcases Option.bind_eq_some_iff.mp later with ⟨operation, lookup, allowed⟩
    rcases mem_of_lookup lookup with ⟨name, known, named⟩
    split at allowed
    · rename_i selectorAllowed
      rcases Option.bind_eq_some_iff.mp allowed with ⟨effectFields, effect, last⟩
      split at last
      · rename_i effectAllowed
        cases last
        have admitted := Admits.fields selectorField valueField accepted known
          (effectForm_of_parseEffect effect) selectorAllowed effectAllowed
        rwa [← named] at admitted
      · cases last
    · cases allowed

/-- What the cut and the trimming rely on in admitted fields. -/
structure Apart (fields : RuleFields) : Prop where
  selector : IsField fields.selector
  someSelector : fields.selector ≠ []
  operation : IsKeyword fields.operation
  effect : IsKeyword fields.effect
  value : IsField fields.value
  someValue : fields.value ≠ []
  noColon : byte ':' ∉ fields.value

theorem apart_of_admits (admitted : Admits fields rule) : Apart fields := by
  cases admitted with
  | fields selectorField valueField accepted known meaning =>
      rcases noColon_of_effectForm meaning with ⟨someValue, noColon⟩
      refine ⟨selectorField, ?_, (operation_of_known _ known).2,
        keyword_of_effectForm meaning, valueField, someValue, noColon⟩
      rintro rfl
      cases accepted

/-! ## The cut of a line -/

theorem trim_of_spaced {core : Bytes} (solid : Solid isBlankChar core)
    (spaced : Spaced isBlankChar core text) : chaosNetTrim text = core :=
  trimmed_of_spaced solid spaced

/-- Only a selector may hold a `:`. -/
theorem split_ruleLine (operation : byte ':' ∉ raw.operation)
    (effect : byte ':' ∉ raw.effect) (value : byte ':' ∉ raw.value) :
    chaosNetSplitRuleFields (ruleLine raw) =
      some ⟨chaosNetTrim raw.selector, chaosNetTrim raw.operation,
        chaosNetTrim raw.effect, chaosNetTrim raw.value⟩ := by
  have atValue : ruleLine raw =
      (raw.selector ++ byte ':' :: (raw.operation ++ byte ':' :: raw.effect)) ++
        byte ':' :: raw.value := by
    simp [ruleLine]
  have atEffect : raw.selector ++ byte ':' :: (raw.operation ++ byte ':' :: raw.effect) =
      (raw.selector ++ byte ':' :: raw.operation) ++ byte ':' :: raw.effect := by
    simp
  rw [chaosNetSplitRuleFields, atValue, splitAtLast_append value, Option.bind_some]
  dsimp only
  rw [atEffect, splitAtLast_append effect, Option.bind_some]
  dsimp only
  rw [splitAtLast_append operation, Option.map_some]

theorem exists_ruleLine_of_split (cut : chaosNetSplitRuleFields line = some fields) :
    ∃ raw : RuleFields, line = ruleLine raw ∧
      fields = ⟨chaosNetTrim raw.selector, chaosNetTrim raw.operation,
        chaosNetTrim raw.effect, chaosNetTrim raw.value⟩ := by
  rcases Option.bind_eq_some_iff.mp cut with ⟨⟨first, value⟩, atValue, later⟩
  rcases Option.bind_eq_some_iff.mp later with ⟨⟨second, effect⟩, atEffect, last⟩
  rcases Option.map_eq_some_iff.mp last with ⟨⟨selector, operation⟩, atOperation, same⟩
  refine ⟨⟨selector, operation, effect, value⟩, ?_, same.symm⟩
  rw [eq_append_of_splitAtLast atValue, eq_append_of_splitAtLast atEffect,
    eq_append_of_splitAtLast atOperation]
  simp [ruleLine]

/-- The line without the blanks around it spells the same fields. -/
theorem exists_cursor (apart : Apart fields) (spaced : FieldsSpaced fields raw) :
    ∃ cursor, chaosNetTrim (ruleLine raw) = ruleLine cursor ∧
      FieldsSpaced fields cursor := by
  rcases raw with ⟨selector, operation, effect, value⟩
  rcases spaced with ⟨atSelector, atOperation, atEffect, atValue⟩
  dsimp only at atSelector atOperation atEffect atValue
  cases atSelector with
  | @around lead selectorTrail leadBlank selectorBlank =>
      cases atValue with
      | @around valueLead trail valueBlank trailBlank =>
          let between := byte ':' :: (operation ++ byte ':' :: (effect ++ [byte ':']))
          let core := fields.selector ++ (selectorTrail ++ (between ++
            (valueLead ++ fields.value)))
          have whole : ruleLine ⟨lead ++ (fields.selector ++ selectorTrail), operation,
              effect, valueLead ++ (fields.value ++ trail)⟩ = lead ++ (core ++ trail) := by
            simp [ruleLine, core, between]
          have cut : core = ruleLine ⟨fields.selector ++ selectorTrail, operation, effect,
              valueLead ++ fields.value⟩ := by
            simp [ruleLine, core, between]
          have solid : Solid isBlankChar core := by
            constructor
            · rw [List.head?_append_of_ne_nil _ apart.someSelector]
              exact apart.selector.solid.first
            · have ends : core = fields.selector ++ (selectorTrail ++ (between ++
                  valueLead)) ++ fields.value := by
                simp [core]
              rw [ends, List.getLast?_append_of_ne_nil _ apart.someValue]
              exact apart.value.solid.last
          rw [whole, trim_of_spaced solid (.around leadBlank trailBlank), cut]
          exact ⟨_, rfl, spaced_append selectorBlank, atOperation, atEffect,
            spaced_prepend valueBlank⟩

/-- The cut finds the fields that a line spells. -/
theorem split_of_spaced (apart : Apart fields) (spaced : FieldsSpaced fields raw) :
    chaosNetSplitRuleFields (ruleLine raw) = some fields := by
  have visible : isBlankChar (byte ':') = false := colon_outside.2.2.1
  have operation : byte ':' ∉ raw.operation := fun member =>
    apart.operation.noColon (spaced.operation.mem visible member)
  have effect : byte ':' ∉ raw.effect := fun member =>
    apart.effect.noColon (spaced.effect.mem visible member)
  have value : byte ':' ∉ raw.value := fun member =>
    apart.noColon (spaced.value.mem visible member)
  rw [split_ruleLine operation effect value,
    trim_of_spaced apart.selector.solid spaced.selector,
    trim_of_spaced apart.operation.solid spaced.operation,
    trim_of_spaced apart.effect.solid spaced.effect,
    trim_of_spaced apart.value.solid spaced.value]

/-! ## Readings -/

/-- A reading of a line is what the parser finds in it. -/
theorem parsed_of_reads (reading : Reads line fields rule) :
    chaosNetSplitRuleFields (chaosNetTrim (chaosNetStripComment line)) = some fields ∧
      chaosNetConfigParseLine line = .rule rule := by
  have apart := apart_of_admits reading.admitted
  rcases reading.spelled with ⟨raw, spelled, spaced⟩
  rcases exists_cursor apart spaced with ⟨cursor, trims, stillSpaced⟩
  have cut := split_of_spaced apart stillSpaced
  have someCursor : ruleLine cursor ≠ [] :=
    List.append_ne_nil_of_right_ne_nil _ (List.cons_ne_nil _ _)
  rw [chaosNetConfigParseLine, spelled, trims, if_neg someCursor, cut,
    Option.bind_some, parseFields_of_admits reading.admitted]
  exact ⟨rfl, rfl⟩

theorem noComment_of_spaced (noComment : byte '#' ∉ text)
    {core : Bytes} (spaced : Spaced isBlankChar core text) : byte '#' ∉ core := by
  cases spaced with
  | around =>
      exact fun member => noComment
        (List.mem_append_right _ (List.mem_append_left _ member))

/-- Every accepted line has a reading. -/
theorem reads_of_parsed (parsed : chaosNetConfigParseLine line = .rule rule) :
    ∃ fields, Reads line fields rule := by
  dsimp only [chaosNetConfigParseLine] at parsed
  split at parsed
  · cases parsed
  · split at parsed
    · cases parsed
    · rename_i found
      cases parsed
      rcases Option.bind_eq_some_iff.mp found with ⟨fields, cut, read⟩
      rcases exists_ruleLine_of_split cut with ⟨raw, cursor, trims⟩
      have noComment : byte '#' ∉ chaosNetStripComment line := by
        intro member
        have kept := List.mem_takeWhile_imp member
        rw [bne_self_eq_false'] at kept
        cases kept
      have around := spaced_trimmed isBlankChar (chaosNetStripComment line)
      have same : trimmed isBlankChar (chaosNetStripComment line) = ruleLine raw := cursor
      rw [same] at around
      generalize spelled : chaosNetStripComment line = text at noComment around
      cases around with
      | @around before after lead trail =>
          -- The blanks around the line belong to its selector and to its value.
          let whole : RuleFields :=
            ⟨before ++ raw.selector, raw.operation, raw.effect, raw.value ++ after⟩
          have line : before ++ (ruleLine raw ++ after) = ruleLine whole := by
            simp [ruleLine, whole]
          have atSelector : Spaced isBlankChar fields.selector whole.selector := by
            have padded := (spaced_trimmed isBlankChar raw.selector).pad lead
              (@List.forall_mem_nil _ fun ch => isBlankChar ch = true)
            rw [List.append_nil] at padded
            rw [trims]
            exact padded
          have atValue : Spaced isBlankChar fields.value whole.value := by
            have padded := (spaced_trimmed isBlankChar raw.value).pad
              (@List.forall_mem_nil _ fun ch => isBlankChar ch = true) trail
            rw [trims]
            exact padded
          have spaced : FieldsSpaced fields whole := by
            refine ⟨atSelector, ?_, ?_, atValue⟩
            · rw [trims]
              exact spaced_trimmed isBlankChar raw.operation
            · rw [trims]
              exact spaced_trimmed isBlankChar raw.effect
          rw [line] at noComment spelled
          have selectorField : IsField fields.selector := by
            refine ⟨noComment_of_spaced (fun member => noComment ?_) atSelector, ?_⟩
            · exact List.mem_append_left _ member
            · rw [trims]
              exact solid_trimmed isBlankChar raw.selector
          have valueField : IsField fields.value := by
            refine ⟨noComment_of_spaced (fun member => noComment ?_) atValue, ?_⟩
            · exact List.mem_append_right _ (List.mem_cons_of_mem _ (List.mem_append_right _
                (List.mem_cons_of_mem _ (List.mem_append_right _
                  (List.mem_cons_of_mem _ member)))))
            · rw [trims]
              exact solid_trimmed isBlankChar raw.value
          exact ⟨fields, admits_of_parseFields selectorField valueField read, whole, spelled,
            spaced⟩

theorem spaced_self (core : Bytes) : Spaced isBlankChar core core := by
  have spaced := @spaced_append _ isBlankChar core [] nofun
  rwa [List.append_nil] at spaced

/-- Admitted fields are the reading of the line that prints them. -/
theorem reads_ruleLine (admitted : Admits fields rule) :
    Reads (ruleLine fields) fields rule := by
  have apart := apart_of_admits admitted
  have noComment : byte '#' ∉ ruleLine fields := by
    intro member
    have notColon : byte '#' ≠ byte ':' := by decide
    rw [ruleLine, List.mem_append, List.mem_cons, List.mem_append, List.mem_cons,
      List.mem_append, List.mem_cons] at member
    rcases member with inSelector | colon | inOperation | colon | inEffect | colon | inValue
    · exact apart.selector.noComment inSelector
    · exact notColon colon
    · exact (apart.operation.clean _ inOperation).2.1 rfl
    · exact notColon colon
    · exact (apart.effect.clean _ inEffect).2.1 rfl
    · exact notColon colon
    · exact apart.value.noComment inValue
  have spelled : chaosNetStripComment (ruleLine fields) = ruleLine fields :=
    cutAt_of_not_mem noComment
  exact ⟨admitted, fields, spelled,
    spaced_self _, spaced_self _, spaced_self _, spaced_self _⟩

/--
Four fields of the grammar, printed as a line, are cut into the same four again and make
their rule; and an accepted line has one reading only.
-/
theorem ruleLine_readings :
    (∀ fields rule, Admits fields rule →
      chaosNetSplitRuleFields (chaosNetTrim (chaosNetStripComment (ruleLine fields))) =
          some fields ∧
        chaosNetConfigParseLine (ruleLine fields) = .rule rule) ∧
    ∀ line rule, chaosNetConfigParseLine line = .rule rule →
      ∃ fields, Reads line fields rule ∧
        ∀ others other, Reads line others other → others = fields ∧ other = rule := by
  constructor
  · exact fun fields rule admitted => parsed_of_reads (reads_ruleLine admitted)
  · intro line rule parsed
    rcases reads_of_parsed parsed with ⟨fields, reading⟩
    refine ⟨fields, reading, fun others other again => ?_⟩
    rcases parsed_of_reads reading with ⟨cut, -⟩
    rcases parsed_of_reads again with ⟨sameCut, sameParsed⟩
    rw [cut] at sameCut
    rw [parsed] at sameParsed
    cases sameCut
    cases sameParsed
    exact ⟨rfl, rfl⟩

/-- The fields of a rule for a path that looks like a rule itself. -/
def pathFields : RuleFields :=
  ⟨bytes "unix:///a:poll:TIMEOUT:1", bytes "recv", bytes "DUP", bytes "0.5"⟩

def pathRule : ChaosNetRule :=
  ruleOfFields
    { ChaosNetEndpoint.zeroed .unix with selectorLen := 24, text := bytes "/a:poll:TIMEOUT:1" }
    .recv { effect := .dup, probability := ⟨5, 10⟩ }

/-- The line of a path with colons has one reading. -/
theorem ruleLine_readings_path :
    chaosNetConfigParseLine (bytes "unix:///a:poll:TIMEOUT:1:recv:DUP:0.5") =
        .rule pathRule ∧
      ∃ fields, Reads (ruleLine pathFields) fields pathRule ∧
        ∀ others other, Reads (ruleLine pathFields) others other → others = fields := by
  have solid : ∀ text ∈ [pathFields.selector, pathFields.value],
      byte '#' ∉ text ∧ (∀ ch ∈ text.head?, isBlankChar ch = false) ∧
        ∀ ch ∈ text.getLast?, isBlankChar ch = false := by
    decide +kernel
  have isField : ∀ text ∈ [pathFields.selector, pathFields.value], IsField text := by
    intro text member
    rcases solid text member with ⟨noComment, first, last⟩
    exact ⟨noComment, first, last⟩
  have admitted : Admits pathFields pathRule :=
    @Admits.fields _ (bytes "DUP") (bytes "0.5") "recv" _ _ _
      (isField _ (by decide +kernel)) (isField _ (by decide +kernel))
      (by decide +kernel) (by decide +kernel)
      (@EffectForm.chance "DUP" _ _ _ (by decide +kernel) (by decide +kernel))
      (by decide +kernel) (by decide +kernel)
  have parsed := (ruleLine_readings.1 pathFields pathRule admitted).2
  have printed : ruleLine pathFields = bytes "unix:///a:poll:TIMEOUT:1:recv:DUP:0.5" := by
    decide +kernel
  rcases ruleLine_readings.2 _ _ parsed with ⟨fields, reading, unique⟩
  refine ⟨?_, fields, reading, fun others other again => (unique others other again).1⟩
  rw [← printed]
  exact parsed

end ChaosLibs.Net.RuleLines
