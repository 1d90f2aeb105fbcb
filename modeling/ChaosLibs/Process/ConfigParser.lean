import ChaosLibs.Common.ValueRules
import ChaosLibs.Process.Rule

/-!
# The rule parser of libchaos-process

The selectors, the errno names and the three effects of `chaos_process_config.c`.  The
value of FAIL_AFTER is an error and a count.  chaos-init refuses rules for `posix_spawnp`.
-/

namespace ChaosLibs.Process.ConfigParser

open ChaosLibs.Common.CString
open ChaosLibs.Common.CountTexts
open ChaosLibs.Common.RuleFile
open ChaosLibs.Common.RulePolicy
open ChaosLibs.Common.ValueRules
open ChaosLibs.Dns.ConfigParser (splitAtByte)
open ChaosLibs.Io.Rule (chaosPolicyNoSize)
open ChaosLibs.Net.RuleLines
open ChaosLibs.Process.Rule

/-- `CHAOS_PROCESS_MAX_VALUE`. -/
def chaosProcessMaxValue : Nat := 256

/-- The selectors of a rule. -/
def selectorNames : List (String × ChaosProcessSelectorKind) :=
  [("*", .any), ("pthread_create", .operation .pthreadCreate), ("fork", .operation .fork),
    ("posix_spawn", .operation .posixSpawn), ("posix_spawnp", .operation .posixSpawnp),
    ("execve", .operation .execve), ("execveat", .operation .execveat),
    ("waitpid", .operation .waitpid)]

/-- `chaos_process_selector_parse`. -/
def chaosProcessSelectorParse (text : Bytes) : Option ChaosProcessSelector :=
  (selectorNames.find? fun entry => bytes entry.1 == text).map fun entry =>
    ⟨entry.2, text.length⟩

/-- The names `chaos_process_parse_errno_name` knows, with their values on Linux. -/
def errnoNames : List (String × Nat) :=
  [("EAGAIN", 11), ("ENOMEM", 12), ("EACCES", 13), ("ENOENT", 2), ("EINTR", 4),
    ("ECHILD", 10), ("EPERM", 1), ("ESRCH", 3), ("EBUSY", 16), ("EINVAL", 22),
    ("ENOSYS", 38), ("EMFILE", 24), ("ENFILE", 23), ("E2BIG", 7)]

/-- `chaos_process_parse_errno_name`. -/
def chaosProcessParseErrnoName (text : Bytes) : Option Nat :=
  parseErrnoName errnoNames text

/-- `chaos_process_parse_fail_after_count`. -/
def chaosProcessParseFailAfterCount (text : Bytes) : Option UInt64 :=
  -- `strtoull` would take "-1" as the largest count.
  if ∀ ch ∈ text.head?, isDigit ch = true then
    (wholeInteger text).bind fun number =>
      if 2 ^ 64 ≤ number then none else some (UInt64.ofNat number.toNat)
  else none

/-- `chaos_process_parse_fail_after_value`. -/
def chaosProcessParseFailAfterValue (payload : Bytes) : Option (Nat × UInt64) :=
  (splitAtByte (byte ',') payload).bind fun (error, count) =>
    if trim error = [] ∨ trim count = [] then none
    else
      (chaosProcessParseErrnoName (trim error)).bind fun errnum =>
        (chaosProcessParseFailAfterCount (trim count)).map fun count => (errnum, count)

/-- What an effect and its payload set. -/
inductive ProcessSetting where
  | errno (errnum : Nat)
  | latency (latencyMs : Nat)
  | failAfter (errnum : Nat) (count : UInt64)
deriving DecidableEq, Repr

/-- The effects of `chaos_process_config_parse_line`. -/
def processEffects : List (EffectReader ChaosProcessSelector ProcessSetting) :=
  [⟨"ERRNO", fun _ => true, fun payload => (chaosProcessParseErrnoName payload).map .errno⟩,
    ⟨"LATENCY", fun _ => true, fun payload => (chaosProcessParseLatency payload).map .latency⟩,
    ⟨"FAIL_AFTER", fun _ => true, fun payload =>
      (chaosProcessParseFailAfterValue payload).map fun (errnum, count) =>
        .failAfter errnum count⟩]

theorem processEffects_distinct :
    (processEffects.map fun effect => bytes effect.name).Nodup := by
  decide +kernel

theorem processEffects_keyword : ∀ effect ∈ processEffects, IsKeyword (bytes effect.name) := by
  intro effect member
  simp only [processEffects, List.mem_cons, List.not_mem_nil, or_false] at member
  obtain rfl | rfl | rfl := member
  · exact of_decide_eq_true (by decide +kernel)
  · exact of_decide_eq_true (by decide +kernel)
  · exact of_decide_eq_true (by decide +kernel)

/-- The rule lines of libchaos-process. -/
def processDialect : Dialect ChaosProcessSelector ProcessSetting where
  parseSelector := chaosProcessSelectorParse
  effects := processEffects
  maxValue := chaosProcessMaxValue
  distinct := processEffects_distinct
  keyword := processEffects_keyword

/-- The record that `chaos_process_config_parse_line` fills. -/
def processRule (said : ValueRule ChaosProcessSelector ProcessSetting) :
    ChaosProcessRule where
  probability := said.probability
  policy := {}
  callSize := 0
  hit := none
  hitGeneration := 0
  selector := said.selector
  effect :=
    match said.setting with
    | .errno _ => .errno
    | .latency _ => .latency
    | .failAfter _ _ => .failAfter
  errnum :=
    match said.setting with
    | .errno errnum | .failAfter errnum _ => errnum
    | .latency _ => 0
  latencyMs :=
    match said.setting with
    | .latency latencyMs => latencyMs
    | .errno _ | .failAfter _ _ => 0
  failAfterCount :=
    match said.setting with
    | .failAfter _ count => count
    | .errno _ | .latency _ => 0

/-- `chaos_process_config_parse_line`. -/
def chaosProcessConfigParseLine (line : Bytes) : LineResult ChaosProcessRule :=
  (parseLine processDialect line).map processRule

/-- `chaos_init_process_supported`. -/
def chaosInitProcessSupported (rule : ChaosProcessRule) : Bool :=
  rule.selector.kind != .operation .posixSpawnp

/--
What `chaos_process_config_parse_buffer` brings along; `seccomp` in chaos-init, which
defines `CHAOS_PROCESS_RULE_SUPPORTED`.
-/
def processFormat (seccomp : Bool) : Format ChaosProcessRule where
  parseLine := chaosProcessConfigParseLine
  qualified rule policy := { rule with policy := policy, callSize := chaosPolicyNoSize }
  supported rule := !seccomp || chaosInitProcessSupported rule
  maxRules := chaosProcessMaxRules

/-- `chaos_process_config_parse_buffer`. -/
def chaosProcessConfigParseBuffer (seccomp : Bool) (buffer : Bytes) :
    FileResult ChaosProcessRule :=
  parseFile (processFormat seccomp) buffer

/-! ## What is accepted -/

theorem errnoNames_table : NameTable errnoNames where
  lookup := by decide +kernel
  noNumber := by decide +kernel

theorem errnoNames_positive : ∀ entry ∈ errnoNames, 0 < entry.2 ∧ entry.2 ≤ 0x7fffffff := by
  decide

/-- An accepted rule: an error of an `int` that is not 0, or a delay of 32 bits. -/
structure WellFormed (rule : ChaosProcessRule) : Prop where
  fails : rule.effect ≠ .latency →
    0 < rule.errnum ∧ rule.errnum ≤ 0x7fffffff ∧ rule.latencyMs = 0
  latency : rule.effect = .latency → rule.latencyMs ≤ 0xffffffff ∧ rule.errnum = 0
  count : rule.effect ≠ .failAfter → rule.failAfterCount = 0
  chance : 0 ≤ Common.ProbabilityText.value rule.probability ∧
    Common.ProbabilityText.value rule.probability ≤ 1

theorem WellFormed.loaded {rule : ChaosProcessRule} (formed : WellFormed rule) :
    Loaded rule :=
  ⟨fun effect => Nat.ne_of_gt (formed.fails effect).1⟩

theorem wellFormed_processRule {said : ValueRule ChaosProcessSelector ProcessSetting}
    (sayable : Sayable processDialect said) : WellFormed (processRule said) := by
  obtain ⟨chance, -, effect, known, -, payload, meaning⟩ := sayable
  obtain ⟨selector, setting, probability⟩ := said
  simp only [processDialect, processEffects, List.mem_cons, List.not_mem_nil, or_false]
    at known
  obtain rfl | rfl | rfl := known
  · obtain ⟨errnum, read, rfl⟩ := Option.map_eq_some_iff.mp meaning
    obtain ⟨positive, fits⟩ := errnum_bounds errnoNames_positive read
    exact ⟨fun _ => ⟨positive, fits, rfl⟩, fun other => (by cases other), fun _ => rfl, chance⟩
  · obtain ⟨latencyMs, read, rfl⟩ := Option.map_eq_some_iff.mp meaning
    exact ⟨fun other => absurd rfl other, fun _ => ⟨latency_bound read, rfl⟩,
      fun _ => rfl, chance⟩
  · obtain ⟨⟨errnum, count⟩, read, rfl⟩ := Option.map_eq_some_iff.mp meaning
    obtain ⟨⟨error, after⟩, -, later⟩ := Option.bind_eq_some_iff.mp read
    dsimp only at later
    split at later
    · cases later
    · obtain ⟨found, named, counted⟩ := Option.bind_eq_some_iff.mp later
      obtain ⟨number, -, same⟩ := Option.map_eq_some_iff.mp counted
      cases same
      obtain ⟨positive, fits⟩ := errnum_bounds errnoNames_positive named
      exact ⟨fun _ => ⟨positive, fits, rfl⟩, fun other => (by cases other),
        fun other => absurd rfl other, chance⟩

theorem wellFormed_of_parsed {line : Bytes} {rule : ChaosProcessRule}
    (parsed : chaosProcessConfigParseLine line = .rule rule) : WellFormed rule := by
  obtain ⟨said, read, rfl⟩ := LineResult.map_eq_rule.mp parsed
  exact wellFormed_processRule (sayable_of_parsed read)

end ChaosLibs.Process.ConfigParser
