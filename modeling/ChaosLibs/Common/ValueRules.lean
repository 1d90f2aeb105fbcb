import ChaosLibs.Dns.SelectorLines
import ChaosLibs.Net.RuleLines
import ChaosLibs.Common.RuleFile
import Mathlib

/-!
# Rule lines with a value

libchaos-memory, libchaos-process and libchaos-time read one kind of line,
`selector:EFFECT:payload[@probability]`, cut at its first two `:` and at the last `@` of its
value.  Each brings its selectors and its effects along; a `Dialect` holds them, with the
facts of its effect names that the cut rests on.
-/

namespace ChaosLibs.Common.ValueRules

open ChaosLibs.Common.CString
open ChaosLibs.Common.CountTexts
open ChaosLibs.Common.RuleFile
open ChaosLibs.Common.RulePolicy
open ChaosLibs.Dns.ConfigParser
open ChaosLibs.Dns.SelectorLines (splitAtByte_append)
open ChaosLibs.Machine.TrimmedFields
open ChaosLibs.Net.ConfigParser
open ChaosLibs.Net.RuleLines
open ChaosLibs.Net.Selectors

/-! ## Numbers and names -/

/-- What `strtol` and `strtoll` find: an integer, and the text behind its digits. -/
def integerPrefix (text : Bytes) : Option (Int × Bytes) :=
  let signed := takeSign (text.dropWhile isSpace)
  if signed.2.takeWhile isDigit = [] then none
  else some (signedValue signed, signed.2.dropWhile isDigit)

/-- The integer of a text with nothing but blanks behind it. -/
def wholeInteger (text : Bytes) : Option Int :=
  (integerPrefix text).bind fun (number, stop) =>
    if trim stop ≠ [] then none else some number

/-- An integer as `strtol` returns it; another one is out of range (`ERANGE`). -/
def clamped (number : Int) : Int :=
  max (-2 ^ 63) (min (2 ^ 63 - 1) number)

/-- `chaos_<lib>_parse_errno_name`: the names of the library, or a number. -/
def parseErrnoName (names : List (String × Nat)) (text : Bytes) : Option Nat :=
  match names.find? fun entry => bytes entry.1 == text with
  | some entry => some entry.2
  | none =>
      (wholeInteger text).bind fun number =>
        if clamped number ≤ 0 ∨ 0x7fffffff < clamped number then none
        else some (clamped number).toNat

/-! ## Values -/

/-- `chaos_<lib>_copy_text_value`, with a buffer of `size` bytes. -/
def copyTextValue (text : Bytes) (size : Nat) : Option Bytes :=
  if text = [] ∨ size ≤ text.length then none else some text

/-- `chaos_<lib>_parse_payload_probability`. -/
def parsePayloadProbability (size : Nat) (text : Bytes) : Option (Bytes × Probability) :=
  match splitAtLast (byte '@') text with
  | none => (copyTextValue text size).map fun payload => (payload, ⟨1, 1⟩)
  | some (payload, chance) =>
      if payload = [] ∨ size ≤ payload.length then none
      else
        (chaosPolicyParseProbability chance).map fun probability => (payload, probability)

/-! ## Lines -/

/-- The three fields of a line. -/
structure ValueFields where
  selector : Bytes
  effect : Bytes
  value : Bytes
deriving DecidableEq, Repr

/-- `chaos_<lib>_split_rule_fields`. -/
def splitRuleFields (line : Bytes) : Option ValueFields :=
  (splitAtByte (byte ':') line).bind fun (selector, rest) =>
    (splitAtByte (byte ':') rest).map fun (effect, value) =>
      ⟨trim selector, trim effect, trim value⟩

/-- An effect of a library: its name, where it may stand, and its payload. -/
structure EffectReader (Selector Setting : Type) where
  name : String
  allowed : Selector → Bool
  parsePayload : Bytes → Option Setting

/-- What a library brings along. -/
structure Dialect (Selector Setting : Type) where
  /-- `chaos_<lib>_selector_parse`. -/
  parseSelector : Bytes → Option Selector
  effects : List (EffectReader Selector Setting)
  /-- `CHAOS_<LIB>_MAX_VALUE`. -/
  maxValue : Nat
  distinct : (effects.map fun effect => bytes effect.name).Nodup
  keyword : ∀ effect ∈ effects, IsKeyword (bytes effect.name)

/-- What a line says. -/
structure ValueRule (Selector Setting : Type) where
  selector : Selector
  setting : Setting
  probability : Probability
deriving DecidableEq

variable {Selector Setting : Type}

section Parser

variable (dialect : Dialect Selector Setting)

/-- The branch of an effect in `chaos_<lib>_config_parse_line`. -/
def readEffect (selector : Selector) (reader : EffectReader Selector Setting)
    (value : Bytes) : Option (ValueRule Selector Setting) :=
  if reader.allowed selector then
    (parsePayloadProbability dialect.maxValue value).bind fun (payload, probability) =>
      (reader.parsePayload payload).map fun setting => ⟨selector, setting, probability⟩
  else none

/-- `chaos_<lib>_config_parse_line` from the point where it has three fields. -/
def parseFields (fields : ValueFields) : Option (ValueRule Selector Setting) :=
  if fields.selector = [] ∨ fields.effect = [] ∨ fields.value = [] then none
  else
    (dialect.parseSelector fields.selector).bind fun selector =>
      (dialect.effects.find? fun effect => bytes effect.name == fields.effect).bind
        fun effect => readEffect dialect selector effect fields.value

/-- `chaos_<lib>_config_parse_line`. -/
def parseLine (line : Bytes) : LineResult (ValueRule Selector Setting) :=
  let cursor := trim (cutAt (byte '#') line)
  if cursor = [] then .blank
  else
    match (splitRuleFields cursor).bind (parseFields dialect) with
    | none => .invalid
    | some rule => .rule rule

end Parser

/-! ## The grammar -/

/-- A payload, the value that it is written in, and the probability of that value. -/
inductive Chance (payload : Bytes) : Bytes → Probability → Prop where
  | always (plain : byte '@' ∉ payload) : Chance payload payload ⟨1, 1⟩
  | sometimes {text : Bytes} {probability : Probability} (last : byte '@' ∉ text)
      (parsed : chaosPolicyParseProbability text = some probability) :
      Chance payload (payload ++ byte '@' :: text) probability

/-- Three fields of the grammar and what they say. -/
inductive Admits (dialect : Dialect Selector Setting) :
    ValueFields → ValueRule Selector Setting → Prop where
  | fields {selectorText payload value : Bytes} {selector : Selector} {setting : Setting}
      {probability : Probability} {effect : EffectReader Selector Setting}
      (selectorField : IsField selectorText) (someSelector : selectorText ≠ [])
      (noColon : byte ':' ∉ selectorText) (valueField : IsField value)
      (accepted : dialect.parseSelector selectorText = some selector)
      (known : effect ∈ dialect.effects) (allowed : effect.allowed selector = true)
      (somePayload : payload ≠ []) (short : payload.length < dialect.maxValue)
      (meaning : effect.parsePayload payload = some setting)
      (chance : Chance payload value probability) :
      Admits dialect ⟨selectorText, bytes effect.name, value⟩
        ⟨selector, setting, probability⟩

/-- `selector:effect:value`. -/
def valueLine (fields : ValueFields) : Bytes :=
  fields.selector ++ ((byte ':' :: (fields.effect ++ [byte ':'])) ++ fields.value)

/-- Each field with blanks around it. -/
structure ValuesSpaced (fields raw : ValueFields) : Prop where
  selector : Spaced isBlankChar fields.selector raw.selector
  effect : Spaced isBlankChar fields.effect raw.effect
  value : Spaced isBlankChar fields.value raw.value

/-- A reading of a line: up to its comment, it spells three fields of the grammar. -/
structure ReadsAs (dialect : Dialect Selector Setting) (line : Bytes) (fields : ValueFields)
    (rule : ValueRule Selector Setting) : Prop where
  admitted : Admits dialect fields rule
  spelled : ∃ raw, cutAt (byte '#') line = valueLine raw ∧ ValuesSpaced fields raw

variable {dialect : Dialect Selector Setting} {text value payload line : Bytes}
  {fields raw : ValueFields} {rule : ValueRule Selector Setting} {number : Int}

/-! ## Integers -/

theorem wholeInteger_eq_some :
    wholeInteger text = some number ↔ IntegerText isBlankChar text number := by
  have clean : ∀ ch, isBlankChar ch = true → isDigit ch = false :=
    isTail_clean .memoryLatency
  have prefixed : integerPrefix text =
      if (takeSign (text.dropWhile isSpace)).2.takeWhile isDigit = [] then none
      else some (signedValue (takeSign (text.dropWhile isSpace)),
        (takeSign (text.dropWhile isSpace)).2.dropWhile isDigit) := rfl
  constructor
  · intro whole
    obtain ⟨⟨found, stop⟩, read, blank⟩ := Option.bind_eq_some_iff.mp whole
    rw [prefixed] at read
    split at read
    · cases read
    · rename_i someDigit
      cases read
      dsimp only at blank
      rw [ite_not] at blank
      split at blank
      · rename_i empty
        cases blank
        have follows := trim_eq_nil.mp empty
        have read := strtoul_eq text
        rw [if_neg someDigit] at read
        obtain ⟨denoted, denotes, -⟩ := integerText_of_strtoul read follows
        have same := (parts_of_integerText clean denotes).1
        rwa [same] at denotes
      · cases blank
  · intro denotes
    obtain ⟨same, someDigit, follows⟩ := parts_of_integerText clean denotes
    rw [wholeInteger, prefixed, if_neg someDigit, Option.bind_some]
    dsimp only
    rw [if_neg (not_not_intro (trim_eq_nil.mpr follows)), same]

/-! ## Values -/

theorem splitAtLast_eq_none {stop : UInt8} : splitAtLast stop text = none ↔ stop ∉ text := by
  rw [splitAtLast]
  split
  · rename_i member
    exact iff_of_false (Option.some_ne_none _) (not_not_intro member)
  · rename_i absent
    exact iff_of_true rfl absent

theorem not_mem_of_splitAtLast {stop : UInt8} {before after : Bytes}
    (cut : splitAtLast stop text = some (before, after)) : stop ∉ after := by
  rw [splitAtLast] at cut
  split at cut
  · cases cut
    intro member
    have kept := List.mem_takeWhile_imp (List.mem_reverse.mp member)
    rw [bne_self_eq_false'] at kept
    cases kept
  · cases cut

/-- The payload and the probability of a value. -/
theorem parsePayloadProbability_eq_some {size : Nat} {probability : Probability} :
    parsePayloadProbability size value = some (payload, probability) ↔
      payload ≠ [] ∧ payload.length < size ∧ Chance payload value probability := by
  rw [parsePayloadProbability]
  constructor
  · intro parsed
    split at parsed
    · rename_i absent
      obtain ⟨copied, copy, same⟩ := Option.map_eq_some_iff.mp parsed
      cases same
      rw [copyTextValue] at copy
      split at copy
      · cases copy
      · rename_i fits
        cases copy
        obtain ⟨some, short⟩ := not_or.mp fits
        exact ⟨some, Nat.lt_of_not_le short, .always (splitAtLast_eq_none.mp absent)⟩
    · rename_i before chance cut
      split at parsed
      · cases parsed
      · rename_i fits
        obtain ⟨found, read, same⟩ := Option.map_eq_some_iff.mp parsed
        cases same
        obtain ⟨some, short⟩ := not_or.mp fits
        refine ⟨some, Nat.lt_of_not_le short, ?_⟩
        rw [eq_append_of_splitAtLast cut]
        exact .sometimes (not_mem_of_splitAtLast cut) read
  · rintro ⟨some, short, chance⟩
    have fits : ¬ (payload = [] ∨ size ≤ payload.length) :=
      not_or.mpr ⟨some, Nat.not_le_of_lt short⟩
    cases chance with
    | always plain =>
        rw [splitAtLast_eq_none.mpr plain]
        dsimp only
        rw [copyTextValue, if_neg fits, Option.map_some]
    | sometimes last parsed =>
        rw [splitAtLast_append last]
        dsimp only
        rw [if_neg fits, parsed, Option.map_some]

/-! ## Admitted fields -/

theorem find_effect {effect : EffectReader Selector Setting}
    (known : effect ∈ dialect.effects) :
    (dialect.effects.find? fun other => bytes other.name == bytes effect.name) =
      some effect := by
  cases found : dialect.effects.find? fun other => bytes other.name == bytes effect.name with
  | none =>
      have absent := List.find?_eq_none.mp found effect known
      exact absurd (beq_self_eq_true _) absent
  | some other =>
      have same : bytes other.name = bytes effect.name := by
        simpa using List.find?_some found
      have unique := List.inj_on_of_nodup_map dialect.distinct
        (List.mem_of_find?_eq_some found) known same
      rw [unique]

theorem Chance.some {probability : Probability} (chance : Chance payload value probability)
    (somePayload : payload ≠ []) : value ≠ [] := by
  cases chance with
  | always => exact somePayload
  | sometimes => exact List.append_ne_nil_of_left_ne_nil somePayload _

theorem parseFields_of_admits (admitted : Admits dialect fields rule) :
    parseFields dialect fields = some rule := by
  cases admitted with
  | @fields selectorText payload value selector setting probability effect selectorField
      someSelector noColon valueField accepted known allowed somePayload short meaning
      chance =>
      have keyword := dialect.keyword effect known
      have someFields : ¬ (selectorText = [] ∨ bytes effect.name = [] ∨ value = []) :=
        not_or.mpr ⟨someSelector, not_or.mpr ⟨keyword.some, chance.some somePayload⟩⟩
      have cut := parsePayloadProbability_eq_some.mpr ⟨somePayload, short, chance⟩
      rw [parseFields, if_neg someFields]
      dsimp only
      rw [accepted, Option.bind_some, find_effect known, Option.bind_some, readEffect,
        if_pos allowed, cut, Option.bind_some]
      dsimp only
      rw [meaning, Option.map_some]

theorem admits_of_parseFields (selectorField : IsField fields.selector)
    (noColon : byte ':' ∉ fields.selector) (valueField : IsField fields.value)
    (parsed : parseFields dialect fields = some rule) : Admits dialect fields rule := by
  rw [parseFields] at parsed
  split at parsed
  · cases parsed
  · rename_i someFields
    obtain ⟨selector, accepted, later⟩ := Option.bind_eq_some_iff.mp parsed
    obtain ⟨effect, found, last⟩ := Option.bind_eq_some_iff.mp later
    have known := List.mem_of_find?_eq_some found
    have named : bytes effect.name = fields.effect := by
      simpa using List.find?_some found
    rw [readEffect] at last
    split at last
    · rename_i allowed
      obtain ⟨⟨payload, probability⟩, cut, meaning⟩ := Option.bind_eq_some_iff.mp last
      obtain ⟨setting, read, same⟩ := Option.map_eq_some_iff.mp meaning
      obtain ⟨some, short, chance⟩ := parsePayloadProbability_eq_some.mp cut
      cases same
      have admitted := Admits.fields selectorField (not_or.mp someFields).1 noColon valueField
        accepted known allowed some short read chance
      rwa [named] at admitted
    · cases last

/-- What the cut and the trimming rely on in admitted fields. -/
structure Separate (fields : ValueFields) : Prop where
  selector : IsField fields.selector
  someSelector : fields.selector ≠ []
  noColon : byte ':' ∉ fields.selector
  effect : IsKeyword fields.effect
  value : IsField fields.value
  someValue : fields.value ≠ []

theorem separate_of_admits (admitted : Admits dialect fields rule) : Separate fields := by
  cases admitted with
  | fields selectorField someSelector noColon valueField accepted known allowed somePayload
      short meaning chance =>
      exact ⟨selectorField, someSelector, noColon, dialect.keyword _ known, valueField,
        chance.some somePayload⟩

/-! ## The cut of a line -/

theorem splitRuleFields_valueLine (raw : ValueFields) (selector : byte ':' ∉ raw.selector)
    (effect : byte ':' ∉ raw.effect) :
    splitRuleFields (valueLine raw) =
      some ⟨trim raw.selector, trim raw.effect, trim raw.value⟩ := by
  have whole : valueLine raw =
      raw.selector ++ byte ':' :: (raw.effect ++ byte ':' :: raw.value) := by
    simp [valueLine]
  rw [splitRuleFields, whole, splitAtByte_append selector, Option.bind_some]
  dsimp only
  rw [splitAtByte_append effect, Option.map_some]

theorem eq_append_of_splitAtByte {stop : UInt8} {before after : Bytes}
    (cut : splitAtByte stop text = some (before, after)) :
    text = before ++ stop :: after ∧ stop ∉ before := by
  rw [splitAtByte] at cut
  split at cut
  · cases cut
  · rename_i ch rest found
    cases cut
    have whole := List.takeWhile_append_dropWhile (p := fun ch => ch != stop) (l := text)
    have stopped := List.head?_dropWhile_not (fun ch => ch != stop) text
    rw [found] at whole stopped
    have same : ch = stop := by simpa using stopped
    subst same
    refine ⟨whole.symm, fun member => ?_⟩
    have kept := List.mem_takeWhile_imp member
    rw [bne_self_eq_false'] at kept
    cases kept

theorem exists_valueLine_of_split (cut : splitRuleFields line = some fields) :
    ∃ raw : ValueFields, line = valueLine raw ∧ byte ':' ∉ raw.selector ∧
      fields = ⟨trim raw.selector, trim raw.effect, trim raw.value⟩ := by
  obtain ⟨⟨selector, rest⟩, atSelector, later⟩ := Option.bind_eq_some_iff.mp cut
  obtain ⟨⟨effect, value⟩, atEffect, same⟩ := Option.map_eq_some_iff.mp later
  obtain ⟨whole, clean⟩ := eq_append_of_splitAtByte atSelector
  refine ⟨⟨selector, effect, value⟩, ?_, clean, same.symm⟩
  rw [whole, (eq_append_of_splitAtByte atEffect).1]
  simp [valueLine]

/-- The cut finds the fields that a line spells. -/
theorem splitRuleFields_of_spaced (separate : Separate fields)
    (spaced : ValuesSpaced fields raw) :
    splitRuleFields (trim (valueLine raw)) = some fields := by
  have visible : isBlankChar (byte ':') = false := colon_outside.2.2.1
  obtain ⟨selector, value, trims, atSelector, atValue⟩ :=
    trimmed_between (byte ':' :: (raw.effect ++ [byte ':'])) separate.selector.solid
      separate.value.solid separate.someSelector separate.someValue spaced.selector
      spaced.value
  have cursor : trim (valueLine raw) = valueLine ⟨selector, raw.effect, value⟩ := trims
  have cleanSelector : byte ':' ∉ selector := fun member =>
    separate.noColon (atSelector.mem visible member)
  have cleanEffect : byte ':' ∉ raw.effect := fun member =>
    separate.effect.noColon (spaced.effect.mem visible member)
  rw [cursor, splitRuleFields_valueLine ⟨selector, raw.effect, value⟩ cleanSelector cleanEffect]
  have trimmedTo : ∀ {core text : Bytes}, Solid isBlankChar core →
      Spaced isBlankChar core text → trim text = core :=
    fun solid spaced => trimmed_of_spaced solid spaced
  dsimp only
  rw [trimmedTo separate.selector.solid atSelector,
    trimmedTo separate.effect.solid spaced.effect, trimmedTo separate.value.solid atValue]

/-! ## Readings -/

/-- A reading of a line is what the parser finds in it. -/
theorem parsed_of_readsAs (reading : ReadsAs dialect line fields rule) :
    splitRuleFields (trim (cutAt (byte '#') line)) = some fields ∧
      parseLine dialect line = .rule rule := by
  obtain ⟨raw, spelled, spaced⟩ := reading.spelled
  have cut := splitRuleFields_of_spaced (separate_of_admits reading.admitted) spaced
  have someCursor : trim (valueLine raw) ≠ [] := by
    intro empty
    rw [empty] at cut
    cases cut
  rw [parseLine, spelled, if_neg someCursor, cut, Option.bind_some,
    parseFields_of_admits reading.admitted]
  exact ⟨rfl, rfl⟩

/-- Every accepted line has a reading. -/
theorem readsAs_of_parsed (parsed : parseLine dialect line = .rule rule) :
    ∃ fields, ReadsAs dialect line fields rule := by
  dsimp only [parseLine] at parsed
  split at parsed
  · cases parsed
  · split at parsed
    · cases parsed
    · rename_i found
      cases parsed
      obtain ⟨fields, cut, read⟩ := Option.bind_eq_some_iff.mp found
      obtain ⟨raw, cursor, noColon, trims⟩ := exists_valueLine_of_split cut
      have noComment : byte '#' ∉ cutAt (byte '#') line := by
        intro member
        have kept := List.mem_takeWhile_imp member
        rw [bne_self_eq_false'] at kept
        cases kept
      obtain ⟨selector, value, whole, atSelector, atValue⟩ := exists_between cursor
      have spelled : cutAt (byte '#') line = valueLine ⟨selector, raw.effect, value⟩ := whole
      rw [spelled] at noComment
      subst trims
      have selectorField : IsField (trim raw.selector) := by
        refine ⟨fun member => noComment ?_, solid_trimmed isBlankChar raw.selector⟩
        exact List.mem_append_left _ (atSelector.within member)
      have valueField : IsField (trim raw.value) := by
        refine ⟨fun member => noComment ?_, solid_trimmed isBlankChar raw.value⟩
        exact List.mem_append_right _ (List.mem_append_right _ (atValue.within member))
      have clean : byte ':' ∉ trim raw.selector := fun member =>
        noColon ((spaced_trimmed isBlankChar raw.selector).within member)
      refine ⟨_, admits_of_parseFields selectorField clean valueField read,
        ⟨selector, raw.effect, value⟩, spelled, atSelector,
        spaced_trimmed isBlankChar raw.effect, atValue⟩

theorem readsAs_unique {others : ValueFields} {other : ValueRule Selector Setting}
    (reading : ReadsAs dialect line fields rule) (again : ReadsAs dialect line others other) :
    others = fields ∧ other = rule := by
  obtain ⟨cut, parsed⟩ := parsed_of_readsAs reading
  obtain ⟨sameCut, sameParsed⟩ := parsed_of_readsAs again
  rw [cut] at sameCut
  rw [parsed] at sameParsed
  cases sameCut
  cases sameParsed
  exact ⟨rfl, rfl⟩

/-- Admitted fields are the reading of the line that prints them. -/
theorem readsAs_valueLine (admitted : Admits dialect fields rule) :
    ReadsAs dialect (valueLine fields) fields rule := by
  have separate := separate_of_admits admitted
  have notColon : byte '#' ≠ byte ':' := by decide
  have noComment : byte '#' ∉ valueLine fields := by
    simp only [valueLine, List.mem_append, List.mem_cons, List.not_mem_nil, or_false, not_or]
    exact ⟨separate.selector.noComment,
      ⟨notColon, fun member => (separate.effect.clean _ member).2.1 rfl, notColon⟩,
      separate.value.noComment⟩
  exact ⟨admitted, fields, cutAt_of_not_mem noComment, spaced_self _, spaced_self _,
    spaced_self _⟩

/-! ## What an accepted line says -/

theorem Chance.unit {probability : Probability} (chance : Chance payload value probability) :
    0 ≤ ProbabilityText.value probability ∧ ProbabilityText.value probability ≤ 1 := by
  cases chance with
  | always => simp [ProbabilityText.value]
  | sometimes last parsed =>
      obtain ⟨number, denotes⟩ := ProbabilityText.denotes_of_parse parsed
      obtain ⟨other, again, -, lower, upper⟩ := ProbabilityText.parse_of_denotes denotes
      cases parsed.symm.trans again
      exact ⟨lower, upper⟩

/-- A rule comes from an effect of the library that its selector allows. -/
structure Sayable (dialect : Dialect Selector Setting) (rule : ValueRule Selector Setting) :
    Prop where
  chance : 0 ≤ ProbabilityText.value rule.probability ∧
    ProbabilityText.value rule.probability ≤ 1
  selector : ∃ text, text ≠ [] ∧ dialect.parseSelector text = some rule.selector
  setting : ∃ effect ∈ dialect.effects, effect.allowed rule.selector = true ∧
    ∃ payload, effect.parsePayload payload = some rule.setting

theorem sayable_of_parsed (parsed : parseLine dialect line = .rule rule) :
    Sayable dialect rule := by
  obtain ⟨fields, reading⟩ := readsAs_of_parsed parsed
  have admitted := reading.admitted
  cases admitted with
  | @fields selectorText payload value selector setting probability effect selectorField
      someSelector noColon valueField accepted known allowed somePayload short meaning
      chance =>
      exact ⟨chance.unit, ⟨selectorText, someSelector, accepted⟩, effect, known, allowed,
        payload, meaning⟩

/-! ## Errors -/

/-- A table of names that are no numbers. -/
structure NameTable (names : List (String × Nat)) : Prop where
  lookup : ∀ entry ∈ names,
    (names.find? fun other => bytes other.1 == bytes entry.1) = some entry
  noNumber : ∀ entry ∈ names, integerPrefix (bytes entry.1) = none

/-- A text that says an error: a name of the table, or a positive `int`. -/
inductive ErrnoText (names : List (String × Nat)) : Bytes → Nat → Prop where
  | named {name : String} {errnum : Nat} (known : (name, errnum) ∈ names) :
      ErrnoText names (bytes name) errnum
  | numbered {text : Bytes} {number : Int} (denotes : IntegerText isBlankChar text number)
      (positive : 0 < number) (fits : number ≤ 0x7fffffff) :
      ErrnoText names text number.toNat

theorem parseErrnoName_eq_some {names : List (String × Nat)} (table : NameTable names)
    {errnum : Nat} :
    parseErrnoName names text = some errnum ↔ ErrnoText names text errnum := by
  constructor
  · intro parsed
    rw [parseErrnoName] at parsed
    split at parsed
    · rename_i entry found
      cases parsed
      have named : bytes entry.1 = text := by
        simpa using List.find?_some found
      rw [← named]
      exact .named (List.mem_of_find?_eq_some found)
    · obtain ⟨number, whole, bounds⟩ := Option.bind_eq_some_iff.mp parsed
      split at bounds
      · cases bounds
      · rename_i within
        cases bounds
        have same : clamped number = number := by
          rw [clamped] at within ⊢
          omega
        rw [same] at within ⊢
        exact .numbered (wholeInteger_eq_some.mp whole) (by omega) (by omega)
  · intro said
    cases said with
    | @named name errnum known =>
        rw [parseErrnoName, table.lookup _ known]
    | @numbered text number denotes positive fits =>
        have unnamed : (names.find? fun entry => bytes entry.1 == text) = none := by
          refine List.find?_eq_none.mpr fun entry member same => ?_
          have whole := wholeInteger_eq_some.mpr denotes
          rw [← beq_iff_eq.mp same, wholeInteger, table.noNumber entry member] at whole
          cases whole
        have same : clamped number = number := by
          rw [clamped]
          omega
        rw [parseErrnoName, unnamed]
        dsimp only
        rw [wholeInteger_eq_some.mpr denotes, Option.bind_some, same, if_neg (by omega)]

/-- An accepted error is a positive `int`. -/
theorem errnum_bounds {names : List (String × Nat)} {errnum : Nat}
    (table : ∀ entry ∈ names, 0 < entry.2 ∧ entry.2 ≤ 0x7fffffff)
    (parsed : parseErrnoName names text = some errnum) :
    0 < errnum ∧ errnum ≤ 0x7fffffff := by
  rw [parseErrnoName] at parsed
  split at parsed
  · rename_i entry found
    cases parsed
    exact table entry (List.mem_of_find?_eq_some found)
  · obtain ⟨number, whole, bounds⟩ := Option.bind_eq_some_iff.mp parsed
    split at bounds
    · cases bounds
    · cases bounds
      omega

/-- An accepted delay has 32 bits. -/
theorem latency_bound {latencyMs : Nat} (parsed : parseLatency text = some latencyMs) :
    latencyMs ≤ 0xffffffff := by
  rw [parseLatency] at parsed
  split at parsed
  · cases parsed
  · split at parsed
    · cases parsed
    · rename_i within
      cases parsed
      exact Nat.le_of_not_lt (not_or.mp within).2

end ChaosLibs.Common.ValueRules
