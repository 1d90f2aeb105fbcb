import ChaosLibs.Common.RuleFiring
import ChaosLibs.Common.RuleSelection

/-!
# Rules of libchaos-memory

The rule record of `chaos_memory_config.h`, the rule a call is matched with,
and the two effects of `chaos_memory_actions.c`.
-/

namespace ChaosLibs.Memory.Rule

open ChaosLibs.Common.HitSlots
open ChaosLibs.Common.RuleFiring
open ChaosLibs.Common.RuleSelection

/-- `CHAOS_MEMORY_MAX_RULES`. -/
abbrev chaosMemoryMaxRules : Nat := 256

/-- `chaos_memory_operation_t`, the value of `*` left out. -/
inductive ChaosMemoryOperation where
  | mmap
  | mprotect
  | madvise
  | munmap
deriving DecidableEq, Repr

/-- `chaos_memory_mmap_kind_t`, the parse failure left out. -/
inductive ChaosMemoryMmapKind where
  | anon
  | file
deriving DecidableEq, Repr

/-- `chaos_memory_effect_t`, the parse failure left out. -/
inductive ChaosMemoryEffect where
  | errno
  | latency
deriving DecidableEq, Repr

/-- What a selector names: `*`, an operation, or one kind of mapping. -/
inductive ChaosMemorySelectorKind where
  | any
  | operation (operation : ChaosMemoryOperation)
  | mmapKind (kind : ChaosMemoryMmapKind)
deriving DecidableEq, Repr

/-- `chaos_memory_selector_t`. -/
structure ChaosMemorySelector where
  kind : ChaosMemorySelectorKind
  selectorLen : Nat
deriving DecidableEq, Repr

/-- `chaos_memory_rule_t`. -/
structure ChaosMemoryRule extends Gates chaosMemoryMaxRules where
  selector : ChaosMemorySelector
  effect : ChaosMemoryEffect
  errnum : Nat
  latencyMs : Nat
deriving DecidableEq

/-- What a load makes sure of: an ERRNO rule has an error to report. -/
structure Loaded (rule : ChaosMemoryRule) : Prop where
  errnum : rule.effect = .errno → rule.errnum ≠ 0

/-! ## Matching -/

/-- `chaos_memory_mmap_is_anonymous`. -/
def chaosMemoryMmapIsAnonymous (flags : UInt32) : Bool :=
  flags &&& 0x20 != 0

/-- `chaos_memory_selector_matches`: the rank of a match. -/
def chaosMemorySelectorMatches (selector : ChaosMemorySelector)
    (operation : ChaosMemoryOperation) (mmapFlags : UInt32) : Option Nat :=
  match selector.kind with
  | .any => some 1
  | .operation named => if named = operation then some 2 else none
  | .mmapKind kind =>
      if operation = .mmap ∧
          (kind = .anon ↔ chaosMemoryMmapIsAnonymous mmapFlags = true) then
        some 3
      else
        none

/-- `chaos_memory_config_state_t`, as a reader with a valid sequence sees it. -/
structure ChaosMemoryConfigState where
  parseOk : Bool
  rules : List ChaosMemoryRule

/-- `chaos_memory_config_select_rule`. -/
def chaosMemoryConfigSelectRule (rules : List ChaosMemoryRule)
    (effect : ChaosMemoryEffect) (operation : ChaosMemoryOperation)
    (mmapFlags : UInt32) : Option ChaosMemoryRule :=
  selectRule
    (fun rule =>
      if rule.effect ≠ effect then none
      else chaosMemorySelectorMatches rule.selector operation mmapFlags)
    (fun rule => rule.selector.selectorLen) rules

/-- `chaos_memory_config_match`, the snapshot being current. -/
def chaosMemoryConfigMatch (state : ChaosMemoryConfigState)
    (effect : ChaosMemoryEffect) (operation : ChaosMemoryOperation)
    (mmapFlags : UInt32) : Option ChaosMemoryRule :=
  if state.rules.isEmpty || !state.parseOk then
    none
  else
    chaosMemoryConfigSelectRule state.rules effect operation mmapFlags

theorem mem_of_chaosMemoryConfigMatch
    {state : ChaosMemoryConfigState} {effect : ChaosMemoryEffect}
    {operation : ChaosMemoryOperation} {mmapFlags : UInt32}
    {rule : ChaosMemoryRule}
    (matched : chaosMemoryConfigMatch state effect operation mmapFlags =
      some rule) :
    rule ∈ state.rules ∧ rule.effect = effect := by
  unfold chaosMemoryConfigMatch at matched
  split at matched
  · cases matched
  · rcases mem_of_selectRule matched with ⟨member, found, ranked⟩
    refine ⟨member, ?_⟩
    by_contra other
    rw [if_pos other] at ranked
    cases ranked

/-! ## Effects -/

/-- `chaos_memory_rule_should_trigger`. -/
def chaosMemoryRuleShouldTrigger (rule : ChaosMemoryRule) (now : Int)
    (sample : UInt32) (pool : Pool chaosMemoryMaxRules) :
    Option (Pool chaosMemoryMaxRules) :=
  ruleShouldTrigger rule.toGates now sample pool

/-- `chaos_memory_rule_apply_latency`: the pool when the rule fires and sleeps. -/
def chaosMemoryRuleApplyLatency (rule : ChaosMemoryRule) (now : Int)
    (sample : UInt32) (pool : Pool chaosMemoryMaxRules) :
    Option (Pool chaosMemoryMaxRules) :=
  if rule.effect ≠ .latency then none
  else chaosMemoryRuleShouldTrigger rule now sample pool

/-- `chaos_memory_rule_apply_errno`: the pool when the rule fires and fails. -/
def chaosMemoryRuleApplyErrno (rule : ChaosMemoryRule) (now : Int)
    (sample : UInt32) (pool : Pool chaosMemoryMaxRules) :
    Option (Pool chaosMemoryMaxRules) :=
  if rule.effect ≠ .errno then none
  else chaosMemoryRuleShouldTrigger rule now sample pool

/-! ## Processes -/

/-- A process whose calls are decided: the snapshot, and its slots for the rules. -/
structure MemoryProcess where
  state : ChaosMemoryConfigState
  pool : Pool chaosMemoryMaxRules
  loaded : ∀ rule ∈ state.rules, Loaded rule
  slots : ∀ rule ∈ state.rules, ∃ slot, rule.hit = some slot ∧
    (pool slot).generation = rule.hitGeneration

end ChaosLibs.Memory.Rule
