import ChaosLibs.Memory.ConfigParser
import ChaosLibs.Process.ConfigParser
import ChaosLibs.Time.ConfigParser

/-!
# The rule files of libchaos-memory, libchaos-process and libchaos-time

Each library reads a line of the grammar in one way only, takes a file as a whole, and
stores rules that its effects can work with.
-/

namespace ChaosLibs.Common.ValueLibraries

open ChaosLibs.Common.CString
open ChaosLibs.Common.CountTexts
open ChaosLibs.Common.RuleFile
open ChaosLibs.Common.RulePolicy
open ChaosLibs.Common.StatusText
open ChaosLibs.Common.ValueRules
open ChaosLibs.Io.ConfigParser (splitLines)

/-- The libraries whose rules hold a value; libchaos-process is also built into chaos-init. -/
inductive ValueLibrary where
  | memory
  | process (seccomp : Bool)
  | time
deriving DecidableEq, Repr

/-- The selectors of a library. -/
abbrev ValueLibrary.Selector : ValueLibrary → Type
  | .memory => Memory.Rule.ChaosMemorySelector
  | .process _ => Process.Rule.ChaosProcessSelector
  | .time => Time.ConfigParser.ChaosTimeSelector

/-- What the effects of a library set. -/
abbrev ValueLibrary.Setting : ValueLibrary → Type
  | .memory => Memory.ConfigParser.MemorySetting
  | .process _ => Process.ConfigParser.ProcessSetting
  | .time => Time.ConfigParser.TimeSetting

/-- The rules of a library. -/
abbrev ValueLibrary.Rule : ValueLibrary → Type
  | .memory => Memory.Rule.ChaosMemoryRule
  | .process _ => Process.Rule.ChaosProcessRule
  | .time => Time.ConfigParser.ChaosTimeRule

/-- The rule lines of a library. -/
def ValueLibrary.dialect : (library : ValueLibrary) → Dialect library.Selector library.Setting
  | .memory => Memory.ConfigParser.memoryDialect
  | .process _ => Process.ConfigParser.processDialect
  | .time => Time.ConfigParser.timeDialect

/-- The record of a rule. -/
def ValueLibrary.record :
    (library : ValueLibrary) → ValueRule library.Selector library.Setting → library.Rule
  | .memory => Memory.ConfigParser.memoryRule
  | .process _ => Process.ConfigParser.processRule
  | .time => Time.ConfigParser.timeRule

/-- `chaos_<lib>_config_parse_line`. -/
def ValueLibrary.parseLine : (library : ValueLibrary) → Bytes → LineResult library.Rule
  | .memory => Memory.ConfigParser.chaosMemoryConfigParseLine
  | .process _ => Process.ConfigParser.chaosProcessConfigParseLine
  | .time => Time.ConfigParser.chaosTimeConfigParseLine

/-- The errno names of a library. -/
def ValueLibrary.errnoNames : ValueLibrary → List (String × Nat)
  | .memory => Memory.ConfigParser.errnoNames
  | .process _ => Process.ConfigParser.errnoNames
  | .time => Time.ConfigParser.errnoNames

/-- `chaos_<lib>_parse_errno_name`. -/
def ValueLibrary.parseErrnoName : ValueLibrary → Bytes → Option Nat
  | .memory => Memory.ConfigParser.chaosMemoryParseErrnoName
  | .process _ => Process.ConfigParser.chaosProcessParseErrnoName
  | .time => Time.ConfigParser.chaosTimeParseErrnoName

/-- What the parser of a file brings along. -/
def ValueLibrary.format : (library : ValueLibrary) → Format library.Rule
  | .memory => Memory.ConfigParser.memoryFormat
  | .process seccomp => Process.ConfigParser.processFormat seccomp
  | .time => Time.ConfigParser.timeFormat

/-- `chaos_<lib>_config_parse_buffer`. -/
def ValueLibrary.parseBuffer : (library : ValueLibrary) → Bytes → FileResult library.Rule
  | .memory => Memory.ConfigParser.chaosMemoryConfigParseBuffer
  | .process seccomp => Process.ConfigParser.chaosProcessConfigParseBuffer seccomp
  | .time => Time.ConfigParser.chaosTimeConfigParseBuffer

/-- What the effects of a library rely on. -/
def ValueLibrary.WellFormed : (library : ValueLibrary) → library.Rule → Prop
  | .memory => Memory.ConfigParser.WellFormed
  | .process _ => Process.ConfigParser.WellFormed
  | .time => Time.ConfigParser.WellFormed

variable {library : ValueLibrary} {line buffer : Bytes} {rule : library.Rule}

theorem parseLine_eq (library : ValueLibrary) (line : Bytes) :
    library.parseLine line =
      (ValueRules.parseLine library.dialect line).map library.record := by
  cases library <;> rfl

theorem parseBuffer_eq (library : ValueLibrary) (buffer : Bytes) :
    library.parseBuffer buffer = parseFile library.format buffer := by
  cases library <;> rfl

theorem format_parseLine (library : ValueLibrary) :
    library.format.parseLine = library.parseLine := by
  cases library <;> rfl

theorem format_maxRules (library : ValueLibrary) : library.format.maxRules = 256 := by
  cases library <;> rfl

theorem errnoNames_table (library : ValueLibrary) : NameTable library.errnoNames := by
  cases library with
  | memory => exact Memory.ConfigParser.errnoNames_table
  | process seccomp => exact Process.ConfigParser.errnoNames_table
  | time => exact Time.ConfigParser.errnoNames_table

theorem parseErrnoName_eq (library : ValueLibrary) (text : Bytes) :
    library.parseErrnoName text = ValueRules.parseErrnoName library.errnoNames text := by
  cases library <;> rfl

theorem wellFormed_of_parsed (parsed : library.parseLine line = .rule rule) :
    library.WellFormed rule := by
  cases library with
  | memory => exact Memory.ConfigParser.wellFormed_of_parsed parsed
  | process seccomp => exact Process.ConfigParser.wellFormed_of_parsed parsed
  | time => exact Time.ConfigParser.wellFormed_of_parsed parsed

/-- The qualifiers of a rule leave what its effect relies on. -/
theorem wellFormed_qualified (policy : ChaosRulePolicy) (formed : library.WellFormed rule) :
    library.WellFormed (library.format.qualified rule policy) := by
  cases library with
  | memory => exact ⟨formed.errno, formed.latency, formed.chance⟩
  | process seccomp => exact ⟨formed.fails, formed.latency, formed.count, formed.chance⟩
  | time =>
      exact ⟨formed.errno, formed.latency, formed.shift, formed.still, formed.clock,
        formed.regress, formed.chance⟩

/--
A line is accepted exactly when it spells three fields of the grammar, with any blanks
around them and any comment behind them; it then has one reading, and the rule is what the
fields say.  Fields that are printed as a line are read back.  An error in them is a name of
the library or a positive decimal `int`.
-/
theorem value_lines_read_once (library : ValueLibrary) (line : Bytes) :
    (∀ rule, library.parseLine line = .rule rule ↔
        ∃ fields said, ReadsAs library.dialect line fields said ∧
          library.record said = rule) ∧
      (∀ fields said others other, ReadsAs library.dialect line fields said →
        ReadsAs library.dialect line others other → others = fields ∧ other = said) ∧
      (∀ fields said, Admits library.dialect fields said →
        library.parseLine (valueLine fields) = .rule (library.record said)) ∧
      ∀ text errnum, library.parseErrnoName text = some errnum ↔
        ErrnoText library.errnoNames text errnum := by
  refine ⟨fun rule => ?_, fun fields said others other reading again =>
    readsAs_unique reading again, fun fields said admitted => ?_, fun text errnum => ?_⟩
  rotate_left
  · rw [parseLine_eq, (parsed_of_readsAs (readsAs_valueLine admitted)).2]
    rfl
  · rw [parseErrnoName_eq]
    exact parseErrnoName_eq_some (errnoNames_table library)
  rw [parseLine_eq, LineResult.map_eq_rule]
  constructor
  · rintro ⟨said, parsed, same⟩
    obtain ⟨fields, reading⟩ := readsAs_of_parsed parsed
    exact ⟨fields, said, reading, same⟩
  · rintro ⟨fields, said, reading, same⟩
    exact ⟨said, (parsed_of_readsAs reading).2, same⟩

/-- The rules of a file: each is the one reading of its line, and well formed. -/
theorem rules_of_file (library : ValueLibrary) (lines : List Bytes) :
    ∀ stored ∈ fileRules library.format lines, library.WellFormed stored.rule ∧
      ∃ line ∈ lines, stored.text = keptText line ∧
        ∃ left policy fields said, chaosPolicyExtract line = (left, some policy) ∧
          ReadsAs library.dialect left fields said ∧
            stored.rule = library.format.qualified (library.record said) policy := by
  intro stored member
  obtain ⟨line, inside, text, left, policy, parsed, extracted, read, same⟩ :=
    exists_of_mem_fileRules member
  rw [format_parseLine] at read
  refine ⟨?_, line, inside, text, left, policy, ?_⟩
  · rw [same]
    exact wellFormed_qualified policy (wellFormed_of_parsed read)
  · rw [parseLine_eq, LineResult.map_eq_rule] at read
    obtain ⟨said, read, rfl⟩ := read
    obtain ⟨fields, reading⟩ := readsAs_of_parsed read
    exact ⟨fields, said, extracted, reading, same⟩

/--
A rule file is taken as a whole.  Either no line of it is refused: then all its rules are
stored, in their order and at most 256 of them.  Or a first line is refused: then there is
no rule, and the error is the number, the reason and the text of this line.  Whatever is
stored is the reading of a line with the qualifiers of this line, and well formed.
-/
theorem value_files_are_whole (library : ValueLibrary) (buffer : Bytes) :
    let lines := splitLines (cutAt 0 buffer)
    let result := library.parseBuffer buffer
    ((Valid library.format lines ∧ result.rc = 0 ∧
          result.stored = fileRules library.format lines ∧
          result.ruleCount = result.stored.length ∧ result.ruleCount ≤ 256) ∨
        ∃ before line after reason, lines = before ++ line :: after ∧
          Valid library.format before ∧ refusal library.format before line = some reason ∧
          result.rc = -1 ∧ result.ruleCount = 0 ∧
          result.error = ⟨before.length + 1, some reason, keptText line⟩) ∧
      ∀ stored ∈ result.stored, library.WellFormed stored.rule ∧
        ∃ line ∈ lines, stored.text = keptText line ∧
          ∃ left policy fields said, chaosPolicyExtract line = (left, some policy) ∧
            ReadsAs library.dialect left fields said ∧
              stored.rule = library.format.qualified (library.record said) policy := by
  intro lines result
  have outcome : FileOutcome library.format lines result := by
    have whole := outcome_parseFile library.format buffer
    rwa [← parseBuffer_eq] at whole
  have limit := format_maxRules library
  generalize result = found at outcome ⊢
  cases outcome with
  | accepted valid few =>
      rw [limit] at few
      exact ⟨Or.inl ⟨valid, rfl, rfl, rfl, few⟩, rules_of_file library lines⟩
  | refused before line after reason split valid fault =>
      refine ⟨Or.inr ⟨before, line, after, reason, split, valid, fault, rfl, rfl, rfl⟩, ?_⟩
      intro stored member
      obtain ⟨formed, one, inside, reading⟩ := rules_of_file library before stored member
      refine ⟨formed, one, ?_, reading⟩
      rw [split]
      exact List.mem_append_left _ inside

end ChaosLibs.Common.ValueLibraries
