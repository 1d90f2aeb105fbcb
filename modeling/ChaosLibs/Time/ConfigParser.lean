import ChaosLibs.Common.RuleSelection
import ChaosLibs.Common.ValueRules
import ChaosLibs.Time.DeadlineCorrection

/-!
# The rule parser of libchaos-time

The selectors, the clocks, the errno names and the four effects of `chaos_time_config.c`.
A shift of a clock may stand at a clock only, and a step back at one clock.
-/

namespace ChaosLibs.Time.ConfigParser

open ChaosLibs.Common.CString
open ChaosLibs.Common.CountTexts
open ChaosLibs.Common.RuleFile
open ChaosLibs.Common.RuleFiring
open ChaosLibs.Common.RulePolicy
open ChaosLibs.Common.RuleSelection
open ChaosLibs.Common.ValueRules
open ChaosLibs.Io.Rule (chaosPolicyNoSize)
open ChaosLibs.Net.RuleLines
open ChaosLibs.Time.DeadlineCorrection (ChaosTimeEffect)

/-- `CHAOS_TIME_MAX_RULES`. -/
abbrev chaosTimeMaxRules : Nat := 256

/-- `CHAOS_TIME_MAX_TEXT`. -/
def chaosTimeMaxText : Nat := 128

/-- `CHAOS_TIME_MAX_VALUE`. -/
def chaosTimeMaxValue : Nat := 256

/-- `CHAOS_TIME_MAX_OFFSET_MS`: 100 years. -/
def chaosTimeMaxOffsetMs : Int := 3155760000000

/-! ## Selectors -/

/-- `chaos_time_operation_t`, the operation of `*` left out. -/
inductive ChaosTimeOperation where
  | clockGettime
  | nanosleep
  | usleep
deriving DecidableEq, Repr

/-- What a selector names: `*`, an operation, or the readings of one clock. -/
inductive ChaosTimeSelectorKind where
  | any
  | operation (operation : ChaosTimeOperation)
  | clockId (clock : Int) (text : Bytes)
deriving DecidableEq, Repr

/-- `chaos_time_selector_t`. -/
structure ChaosTimeSelector where
  kind : ChaosTimeSelectorKind
  selectorLen : Nat
deriving DecidableEq, Repr

/-- The names `chaos_time_parse_clock_id` knows, with their values on Linux. -/
def clockNames : List (String × Int) :=
  [("realtime", 0), ("monotonic", 1), ("monotonic_raw", 4), ("realtime_coarse", 5),
    ("monotonic_coarse", 6), ("boottime", 7), ("tai", 11), ("process_cputime_id", 2),
    ("thread_cputime_id", 3)]

/-- A `long` as a `clockid_t`, an `int`. -/
def toClockId (value : Int) : Int :=
  value.bmod (2 ^ 32)

/-- `chaos_time_parse_clock_id`. -/
def chaosTimeParseClockId (text : Bytes) : Option Int :=
  if text = [] then none
  else
    match clockNames.find? fun entry => bytes entry.1 == text with
    | some entry => some entry.2
    | none => (wholeInteger text).map fun number => toClockId (clamped number)

/-- The selectors without a clock. -/
def selectorNames : List (String × ChaosTimeSelectorKind) :=
  [("*", .any), ("clock_gettime", .operation .clockGettime),
    ("nanosleep", .operation .nanosleep), ("usleep", .operation .usleep)]

/-- `chaos_time_selector_parse`. -/
def chaosTimeSelectorParse (text : Bytes) : Option ChaosTimeSelector :=
  match selectorNames.find? fun entry => bytes entry.1 == text with
  | some entry => some ⟨entry.2, text.length⟩
  | none =>
      if startsWith (bytes "clock_gettime/") text then
        (chaosTimeParseClockId (text.drop 14)).bind fun clock =>
          if chaosTimeMaxText ≤ (text.drop 14).length then none
          else some ⟨.clockId clock (text.drop 14), text.length⟩
      else none

/-! ## Values -/

/-- The names `chaos_time_parse_errno_name` knows, with their values on Linux. -/
def errnoNames : List (String × Nat) :=
  [("EINVAL", 22), ("EFAULT", 14), ("EINTR", 4), ("EPERM", 1), ("ENOSYS", 38), ("EAGAIN", 11)]

/-- `chaos_time_parse_errno_name`. -/
def chaosTimeParseErrnoName (text : Bytes) : Option Nat :=
  parseErrnoName errnoNames text

/-- `chaos_time_parse_offset`. -/
def chaosTimeParseOffset (text : Bytes) : Option Int :=
  (wholeInteger text).bind fun number =>
    -- `errno == ERANGE`
    if clamped number ≠ number ∨ chaosTimeMaxOffsetMs < clamped number ∨
        clamped number < -chaosTimeMaxOffsetMs then
      none
    else some (clamped number)

/-- `chaos_time_effect_allowed`. -/
def chaosTimeEffectAllowed (selector : ChaosTimeSelector) : ChaosTimeEffect → Bool
  | .errno | .latency => true
  | .offset | .regress =>
      match selector.kind with
      | .any => false
      | .operation operation => operation == .clockGettime
      | .clockId _ _ => true

/-- Whether the selector is one clock. -/
def ChaosTimeSelector.isClock (selector : ChaosTimeSelector) : Bool :=
  match selector.kind with
  | .clockId _ _ => true
  | .any | .operation _ => false

/-! ## Lines -/

/-- What an effect and its payload set. -/
inductive TimeSetting where
  | errno (errnum : Nat)
  | latency (latencyMs : Nat)
  | offset (offsetMs : Int)
  | regress (offsetMs : Int)
deriving DecidableEq, Repr

/-- The effects of `chaos_time_config_parse_line`. -/
def timeEffects : List (EffectReader ChaosTimeSelector TimeSetting) :=
  [⟨"ERRNO", fun _ => true, fun payload => (chaosTimeParseErrnoName payload).map .errno⟩,
    ⟨"LATENCY", fun _ => true, fun payload => (chaosTimeParseLatency payload).map .latency⟩,
    ⟨"OFFSET", fun selector => chaosTimeEffectAllowed selector .offset,
      fun payload => (chaosTimeParseOffset payload).map .offset⟩,
    -- The jump state is per rule, and a rule of all clocks would arm on one and jump on
    -- another.
    ⟨"REGRESS", fun selector => chaosTimeEffectAllowed selector .regress && selector.isClock,
      fun payload => (chaosTimeParseOffset payload).bind fun offsetMs =>
        if offsetMs ≤ 0 then none else some (.regress offsetMs)⟩]

theorem timeEffects_distinct :
    (timeEffects.map fun effect => bytes effect.name).Nodup := by
  decide +kernel

theorem timeEffects_keyword : ∀ effect ∈ timeEffects, IsKeyword (bytes effect.name) := by
  intro effect member
  simp only [timeEffects, List.mem_cons, List.not_mem_nil, or_false] at member
  obtain rfl | rfl | rfl | rfl := member
  · exact of_decide_eq_true (by decide +kernel)
  · exact of_decide_eq_true (by decide +kernel)
  · exact of_decide_eq_true (by decide +kernel)
  · exact of_decide_eq_true (by decide +kernel)

/-- The rule lines of libchaos-time. -/
def timeDialect : Dialect ChaosTimeSelector TimeSetting where
  parseSelector := chaosTimeSelectorParse
  effects := timeEffects
  maxValue := chaosTimeMaxValue
  distinct := timeEffects_distinct
  keyword := timeEffects_keyword

/-- `chaos_time_rule_t`. -/
structure ChaosTimeRule extends Gates chaosTimeMaxRules where
  selector : ChaosTimeSelector
  effect : ChaosTimeEffect
  errnum : Nat
  latencyMs : Nat
  offsetMs : Int
deriving DecidableEq

/-- The record that `chaos_time_config_parse_line` fills. -/
def timeRule (said : ValueRule ChaosTimeSelector TimeSetting) : ChaosTimeRule where
  probability := said.probability
  policy := {}
  callSize := 0
  hit := none
  hitGeneration := 0
  selector := said.selector
  effect :=
    match said.setting with
    | .errno _ => .errno
    | .latency _ => .latency
    | .offset _ => .offset
    | .regress _ => .regress
  errnum :=
    match said.setting with
    | .errno errnum => errnum
    | .latency _ | .offset _ | .regress _ => 0
  latencyMs :=
    match said.setting with
    | .latency latencyMs => latencyMs
    | .errno _ | .offset _ | .regress _ => 0
  offsetMs :=
    match said.setting with
    | .offset offsetMs | .regress offsetMs => offsetMs
    | .errno _ | .latency _ => 0

/-- `chaos_time_config_parse_line`. -/
def chaosTimeConfigParseLine (line : Bytes) : LineResult ChaosTimeRule :=
  (parseLine timeDialect line).map timeRule

/-- What `chaos_time_config_parse_buffer` brings along. -/
def timeFormat : Format ChaosTimeRule where
  parseLine := chaosTimeConfigParseLine
  qualified rule policy := { rule with policy := policy, callSize := chaosPolicyNoSize }
  supported _ := true
  maxRules := chaosTimeMaxRules

/-- `chaos_time_config_parse_buffer`. -/
def chaosTimeConfigParseBuffer (buffer : Bytes) : FileResult ChaosTimeRule :=
  parseFile timeFormat buffer

/-! ## Matching -/

/-- `chaos_time_selector_matches`: the rank of a match. -/
def chaosTimeSelectorMatches (selector : ChaosTimeSelector) (operation : ChaosTimeOperation)
    (clock : Int) : Option Nat :=
  match selector.kind with
  | .any => some 1
  | .operation named => if named = operation then some 2 else none
  | .clockId named _ => if operation = .clockGettime ∧ named = clock then some 3 else none

/-- `chaos_time_config_select_rule`. -/
def chaosTimeConfigSelectRule (rules : List ChaosTimeRule) (effect : ChaosTimeEffect)
    (operation : ChaosTimeOperation) (clock : Int) : Option ChaosTimeRule :=
  selectRule
    (fun rule =>
      if rule.effect ≠ effect then none
      else chaosTimeSelectorMatches rule.selector operation clock)
    (fun rule => rule.selector.selectorLen) rules

/-! ## What is accepted -/

theorem errnoNames_table : NameTable errnoNames where
  lookup := by decide +kernel
  noNumber := by decide +kernel

theorem errnoNames_positive : ∀ entry ∈ errnoNames, 0 < entry.2 ∧ entry.2 ≤ 0x7fffffff := by
  decide

/--
An accepted rule: an error of an `int` that is not 0, a delay of 32 bits, or a shift of a
clock of at most 100 years, where a step back is one of one clock.
-/
structure WellFormed (rule : ChaosTimeRule) : Prop where
  errno : rule.effect = .errno → 0 < rule.errnum ∧ rule.errnum ≤ 0x7fffffff
  latency : rule.latencyMs ≤ 0xffffffff
  shift : -chaosTimeMaxOffsetMs ≤ rule.offsetMs ∧ rule.offsetMs ≤ chaosTimeMaxOffsetMs
  still : rule.effect = .errno ∨ rule.effect = .latency → rule.offsetMs = 0
  clock : chaosTimeEffectAllowed rule.selector rule.effect = true
  regress : rule.effect = .regress → 0 < rule.offsetMs ∧ rule.selector.isClock = true
  chance : 0 ≤ Common.ProbabilityText.value rule.probability ∧
    Common.ProbabilityText.value rule.probability ≤ 1

theorem offset_bounds {text : Bytes} {offsetMs : Int}
    (parsed : chaosTimeParseOffset text = some offsetMs) :
    -chaosTimeMaxOffsetMs ≤ offsetMs ∧ offsetMs ≤ chaosTimeMaxOffsetMs := by
  obtain ⟨number, -, bounds⟩ := Option.bind_eq_some_iff.mp parsed
  split at bounds
  · cases bounds
  · rename_i within
    cases bounds
    omega

theorem wellFormed_timeRule {said : ValueRule ChaosTimeSelector TimeSetting}
    (sayable : Sayable timeDialect said) : WellFormed (timeRule said) := by
  obtain ⟨chance, -, effect, known, allowed, payload, meaning⟩ := sayable
  obtain ⟨selector, setting, probability⟩ := said
  have century : -chaosTimeMaxOffsetMs ≤ 0 ∧ 0 ≤ chaosTimeMaxOffsetMs := by decide
  simp only [timeDialect, timeEffects, List.mem_cons, List.not_mem_nil, or_false] at known
  obtain rfl | rfl | rfl | rfl := known
  · obtain ⟨errnum, read, rfl⟩ := Option.map_eq_some_iff.mp meaning
    exact ⟨fun _ => errnum_bounds errnoNames_positive read, Nat.zero_le _, century,
      fun _ => rfl, rfl, fun other => (by cases other), chance⟩
  · obtain ⟨latencyMs, read, rfl⟩ := Option.map_eq_some_iff.mp meaning
    exact ⟨fun other => (by cases other), latency_bound read, century, fun _ => rfl, rfl,
      fun other => (by cases other), chance⟩
  · obtain ⟨offsetMs, read, rfl⟩ := Option.map_eq_some_iff.mp meaning
    exact ⟨fun other => (by cases other), Nat.zero_le _, offset_bounds read,
      (by simp [timeRule]), allowed, fun other => (by cases other), chance⟩
  · obtain ⟨offsetMs, read, later⟩ := Option.bind_eq_some_iff.mp meaning
    obtain ⟨free, one⟩ := Bool.and_eq_true_iff.mp allowed
    split at later
    · cases later
    · rename_i forwards
      cases later
      exact ⟨fun other => (by cases other), Nat.zero_le _, offset_bounds read,
        (by simp [timeRule]), free, fun _ => ⟨Int.not_le.mp forwards, one⟩, chance⟩

theorem wellFormed_of_parsed {line : Bytes} {rule : ChaosTimeRule}
    (parsed : chaosTimeConfigParseLine line = .rule rule) : WellFormed rule := by
  obtain ⟨said, read, rfl⟩ := LineResult.map_eq_rule.mp parsed
  exact wellFormed_timeRule (sayable_of_parsed read)

/-- A step back by half a second, on every second reading of the raw clock. -/
example :
    chaosTimeConfigParseLine (bytes " clock_gettime/4 : REGRESS : 500@0.5 # back") =
      .rule
        { probability := ⟨5, 10⟩, policy := {}, callSize := 0, hit := none,
          hitGeneration := 0, selector := ⟨.clockId 4 (bytes "4"), 15⟩, effect := .regress,
          errnum := 0, latencyMs := 0, offsetMs := 500 } := by
  decide +kernel

end ChaosLibs.Time.ConfigParser
