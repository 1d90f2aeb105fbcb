import ChaosLibs.Common.ValueRules
import ChaosLibs.Memory.Rule

/-!
# The rule parser of libchaos-memory

The selectors, the errno names and the two effects of `chaos_memory_config.c`.
-/

namespace ChaosLibs.Memory.ConfigParser

open ChaosLibs.Common.CString
open ChaosLibs.Common.CountTexts
open ChaosLibs.Common.RuleFile
open ChaosLibs.Common.RulePolicy
open ChaosLibs.Common.ValueRules
open ChaosLibs.Io.Rule (chaosPolicyNoSize)
open ChaosLibs.Memory.Rule
open ChaosLibs.Net.RuleLines

/-- `CHAOS_MEMORY_MAX_VALUE`. -/
def chaosMemoryMaxValue : Nat := 256

/-- The selectors of a rule. -/
def selectorNames : List (String × ChaosMemorySelectorKind) :=
  [("*", .any), ("mmap", .operation .mmap), ("mmap/anon", .mmapKind .anon),
    ("mmap/file", .mmapKind .file), ("mprotect", .operation .mprotect),
    ("munmap", .operation .munmap), ("madvise", .operation .madvise)]

/-- `chaos_memory_selector_parse`. -/
def chaosMemorySelectorParse (text : Bytes) : Option ChaosMemorySelector :=
  (selectorNames.find? fun entry => bytes entry.1 == text).map fun entry =>
    ⟨entry.2, text.length⟩

/-- The names `chaos_memory_parse_errno_name` knows, with their values on Linux. -/
def errnoNames : List (String × Nat) :=
  [("ENOMEM", 12), ("EINVAL", 22), ("EACCES", 13), ("EPERM", 1), ("EBADF", 9),
    ("ENODEV", 19), ("EAGAIN", 11), ("EFAULT", 14), ("ENOSYS", 38), ("ENFILE", 23),
    ("EMFILE", 24)]

/-- `chaos_memory_parse_errno_name`. -/
def chaosMemoryParseErrnoName (text : Bytes) : Option Nat :=
  parseErrnoName errnoNames text

/-- What an effect and its payload set. -/
inductive MemorySetting where
  | errno (errnum : Nat)
  | latency (latencyMs : Nat)
deriving DecidableEq, Repr

/-- The effects of `chaos_memory_config_parse_line`. -/
def memoryEffects : List (EffectReader ChaosMemorySelector MemorySetting) :=
  [⟨"ERRNO", fun _ => true, fun payload => (chaosMemoryParseErrnoName payload).map .errno⟩,
    ⟨"LATENCY", fun _ => true, fun payload => (chaosMemoryParseLatency payload).map .latency⟩]

theorem memoryEffects_distinct :
    (memoryEffects.map fun effect => bytes effect.name).Nodup := by
  decide +kernel

theorem memoryEffects_keyword : ∀ effect ∈ memoryEffects, IsKeyword (bytes effect.name) := by
  intro effect member
  simp only [memoryEffects, List.mem_cons, List.not_mem_nil, or_false] at member
  obtain rfl | rfl := member
  · exact of_decide_eq_true (by decide +kernel)
  · exact of_decide_eq_true (by decide +kernel)

/-- The rule lines of libchaos-memory. -/
def memoryDialect : Dialect ChaosMemorySelector MemorySetting where
  parseSelector := chaosMemorySelectorParse
  effects := memoryEffects
  maxValue := chaosMemoryMaxValue
  distinct := memoryEffects_distinct
  keyword := memoryEffects_keyword

/-- The record that `chaos_memory_config_parse_line` fills. -/
def memoryRule (said : ValueRule ChaosMemorySelector MemorySetting) : ChaosMemoryRule where
  probability := said.probability
  policy := {}
  callSize := 0
  hit := none
  hitGeneration := 0
  selector := said.selector
  effect :=
    match said.setting with
    | .errno _ => .errno
    | .latency _ => .latency
  errnum :=
    match said.setting with
    | .errno errnum => errnum
    | .latency _ => 0
  latencyMs :=
    match said.setting with
    | .errno _ => 0
    | .latency latencyMs => latencyMs

/-- `chaos_memory_config_parse_line`. -/
def chaosMemoryConfigParseLine (line : Bytes) : LineResult ChaosMemoryRule :=
  (parseLine memoryDialect line).map memoryRule

/-- What `chaos_memory_config_parse_buffer` brings along. -/
def memoryFormat : Format ChaosMemoryRule where
  parseLine := chaosMemoryConfigParseLine
  qualified rule policy := { rule with policy := policy, callSize := chaosPolicyNoSize }
  supported _ := true
  maxRules := chaosMemoryMaxRules

/-- `chaos_memory_config_parse_buffer`. -/
def chaosMemoryConfigParseBuffer (buffer : Bytes) : FileResult ChaosMemoryRule :=
  parseFile memoryFormat buffer

/-! ## What is accepted -/

theorem errnoNames_table : NameTable errnoNames where
  lookup := by decide +kernel
  noNumber := by decide +kernel

theorem errnoNames_positive : ∀ entry ∈ errnoNames, 0 < entry.2 ∧ entry.2 ≤ 0x7fffffff := by
  decide

/-- An accepted rule: an error of an `int` that is not 0, or a delay of 32 bits. -/
structure WellFormed (rule : ChaosMemoryRule) : Prop where
  errno : rule.effect = .errno →
    0 < rule.errnum ∧ rule.errnum ≤ 0x7fffffff ∧ rule.latencyMs = 0
  latency : rule.effect = .latency → rule.latencyMs ≤ 0xffffffff ∧ rule.errnum = 0
  chance : 0 ≤ Common.ProbabilityText.value rule.probability ∧
    Common.ProbabilityText.value rule.probability ≤ 1

theorem WellFormed.loaded {rule : ChaosMemoryRule} (formed : WellFormed rule) : Loaded rule :=
  ⟨fun effect => Nat.ne_of_gt (formed.errno effect).1⟩

theorem wellFormed_memoryRule {said : ValueRule ChaosMemorySelector MemorySetting}
    (sayable : Sayable memoryDialect said) : WellFormed (memoryRule said) := by
  obtain ⟨chance, -, effect, known, -, payload, meaning⟩ := sayable
  obtain ⟨selector, setting, probability⟩ := said
  simp only [memoryDialect, memoryEffects, List.mem_cons, List.not_mem_nil, or_false] at known
  obtain rfl | rfl := known
  · obtain ⟨errnum, read, rfl⟩ := Option.map_eq_some_iff.mp meaning
    obtain ⟨positive, fits⟩ := errnum_bounds errnoNames_positive read
    exact ⟨fun _ => ⟨positive, fits, rfl⟩, fun other => (by cases other), chance⟩
  · obtain ⟨latencyMs, read, rfl⟩ := Option.map_eq_some_iff.mp meaning
    exact ⟨fun other => (by cases other), fun _ => ⟨latency_bound read, rfl⟩, chance⟩

theorem wellFormed_of_parsed {line : Bytes} {rule : ChaosMemoryRule}
    (parsed : chaosMemoryConfigParseLine line = .rule rule) : WellFormed rule := by
  obtain ⟨said, read, rfl⟩ := LineResult.map_eq_rule.mp parsed
  exact wellFormed_memoryRule (sayable_of_parsed read)

end ChaosLibs.Memory.ConfigParser
