import ChaosLibs.Common.RuleFiring
import ChaosLibs.Common.RuleSelection
import Mathlib.Logic.Function.Basic

/-!
# Rules of libchaos-process

The rule record of `chaos_process_config.h`, the rule a call is matched with,
and the three effects of `chaos_process_actions.c`.  FAIL_AFTER counts a call
before it decides anything else.
-/

namespace ChaosLibs.Process.Rule

open ChaosLibs.Common.HitSlots
open ChaosLibs.Common.PolicyGates
open ChaosLibs.Common.RuleFiring
open ChaosLibs.Common.RulePolicy
open ChaosLibs.Common.RuleSelection

/-- `CHAOS_PROCESS_MAX_RULES`. -/
abbrev chaosProcessMaxRules : Nat := 256

/-- `chaos_process_operation_t`, the operation of `*` left out. -/
inductive ChaosProcessOperation where
  | pthreadCreate
  | fork
  | posixSpawn
  | posixSpawnp
  | execve
  | execveat
  | waitpid
deriving DecidableEq, Repr

/-- `chaos_process_effect_t`, the parse failure left out. -/
inductive ChaosProcessEffect where
  | errno
  | latency
  | failAfter
deriving DecidableEq, Repr

/-- What a selector names: `*`, or an operation. -/
inductive ChaosProcessSelectorKind where
  | any
  | operation (operation : ChaosProcessOperation)
deriving DecidableEq, Repr

/-- `chaos_process_selector_t`. -/
structure ChaosProcessSelector where
  kind : ChaosProcessSelectorKind
  selectorLen : Nat
deriving DecidableEq, Repr

/-- `chaos_process_rule_t`. -/
structure ChaosProcessRule extends Gates chaosProcessMaxRules where
  selector : ChaosProcessSelector
  effect : ChaosProcessEffect
  errnum : Nat
  latencyMs : Nat
  failAfterCount : UInt64
deriving DecidableEq

/-- What a load makes sure of: a rule that fails a call has an error to report. -/
structure Loaded (rule : ChaosProcessRule) : Prop where
  errnum : rule.effect ≠ .latency → rule.errnum ≠ 0

/-! ## Matching -/

/-- `chaos_process_selector_matches`: the rank of a match. -/
def chaosProcessSelectorMatches (selector : ChaosProcessSelector)
    (operation : ChaosProcessOperation) : Option Nat :=
  match selector.kind with
  | .any => some 1
  | .operation named => if named = operation then some 2 else none

/-- `chaos_process_config_state_t`, as a reader with a valid sequence sees it. -/
structure ChaosProcessConfigState where
  parseOk : Bool
  rules : List ChaosProcessRule

/-- `chaos_process_config_select_rule`. -/
def chaosProcessConfigSelectRule (rules : List ChaosProcessRule)
    (effect : ChaosProcessEffect) (operation : ChaosProcessOperation) :
    Option ChaosProcessRule :=
  selectRule
    (fun rule =>
      if rule.effect ≠ effect then none
      else chaosProcessSelectorMatches rule.selector operation)
    (fun rule => rule.selector.selectorLen) rules

/-- `chaos_process_config_match`, the snapshot being current. -/
def chaosProcessConfigMatch (state : ChaosProcessConfigState)
    (effect : ChaosProcessEffect) (operation : ChaosProcessOperation) :
    Option ChaosProcessRule :=
  if state.rules.isEmpty || !state.parseOk then
    none
  else
    chaosProcessConfigSelectRule state.rules effect operation

theorem mem_of_chaosProcessConfigMatch
    {state : ChaosProcessConfigState} {effect : ChaosProcessEffect}
    {operation : ChaosProcessOperation} {rule : ChaosProcessRule}
    (matched : chaosProcessConfigMatch state effect operation = some rule) :
    rule ∈ state.rules ∧ rule.effect = effect := by
  unfold chaosProcessConfigMatch at matched
  split at matched
  · cases matched
  · rcases mem_of_selectRule matched with ⟨member, found, ranked⟩
    refine ⟨member, ?_⟩
    by_contra other
    rw [if_pos other] at ranked
    cases ranked

/-! ## Effects -/

/-- `g_chaos_process_fail_after_counters`. -/
abbrev FailAfterCounters := ChaosProcessOperation → UInt64

/-- What a decision changes: the hit slots and the FAIL_AFTER counters. -/
structure Counted where
  pool : Pool chaosProcessMaxRules
  counters : FailAfterCounters

/-- `chaos_process_rule_should_trigger`. -/
def chaosProcessRuleShouldTrigger (rule : ChaosProcessRule) (now : Int)
    (sample : UInt32) (pool : Pool chaosProcessMaxRules) :
    Option (Pool chaosProcessMaxRules) :=
  ruleShouldTrigger rule.toGates now sample pool

/-- `chaos_process_rule_apply_latency`: the pool when the rule fires and sleeps. -/
def chaosProcessRuleApplyLatency (rule : ChaosProcessRule) (now : Int)
    (sample : UInt32) (pool : Pool chaosProcessMaxRules) :
    Option (Pool chaosProcessMaxRules) :=
  if rule.effect ≠ .latency then none
  else chaosProcessRuleShouldTrigger rule now sample pool

/-- `chaos_process_rule_error_number`: the pool when the rule fires and fails. -/
def chaosProcessRuleErrorNumber (rule : ChaosProcessRule) (now : Int)
    (sample : UInt32) (pool : Pool chaosProcessMaxRules) :
    Option (Pool chaosProcessMaxRules) :=
  if rule.effect ≠ .errno then none
  else chaosProcessRuleShouldTrigger rule now sample pool

/-- One call counted. -/
def FailAfterCounters.count (counters : FailAfterCounters)
    (operation : ChaosProcessOperation) : FailAfterCounters :=
  Function.update counters operation (counters operation + 1)

/--
`chaos_process_rule_fail_after_error`: whether the call fails, and what is left.
The threshold comes first, then the draw, then the window, the size and the claim.
-/
def chaosProcessRuleFailAfterError (rule : ChaosProcessRule)
    (operation : ChaosProcessOperation) (now : Int) (sample : UInt32)
    (counted : Counted) : Bool × Counted :=
  if rule.effect ≠ .failAfter then
    (false, counted)
  else
    let observed := counted.counters operation
    let after : Counted :=
      { counted with counters := counted.counters.count operation }
    if observed < rule.failAfterCount ||
        !probabilityHitSample rule.probability sample then
      (false, after)
    else if !chaosPolicyWindowOpen rule.policy now ||
        !chaosPolicySizeOk rule.policy rule.callSize then
      (false, after)
    else
      match chaosPolicyFire rule.toGates counted.pool with
      | none => (false, after)
      | some pool => (true, { after with pool := pool })

/-- The order in which FAIL_AFTER tests its gates does not matter to the result. -/
theorem fst_chaosProcessRuleFailAfterError
    {rule : ChaosProcessRule} (effect : rule.effect = .failAfter)
    (operation : ChaosProcessOperation) (now : Int) (sample : UInt32)
    (counted : Counted) :
    (chaosProcessRuleFailAfterError rule operation now sample counted).1 =
      (decide (rule.failAfterCount ≤ counted.counters operation) &&
        ready rule.toGates sample counted.pool &&
          chaosPolicyWindowOpen rule.policy now) := by
  unfold chaosProcessRuleFailAfterError ready
  rw [if_neg (not_not_intro effect)]
  by_cases below : counted.counters operation < rule.failAfterCount
  · have short : ¬ rule.failAfterCount ≤ counted.counters operation :=
      UInt64.not_le.mpr below
    simp only [below, short, decide_true, decide_false, Bool.true_or,
      Bool.false_and, if_true]
  · have enough : rule.failAfterCount ≤ counted.counters operation :=
      UInt64.not_lt.mp below
    simp only [below, enough, decide_true, decide_false, Bool.false_or,
      Bool.true_and]
    cases probabilityHitSample rule.probability sample with
    | false => simp
    | true =>
        cases chaosPolicyWindowOpen rule.policy now with
        | false => simp
        | true =>
            cases chaosPolicySizeOk rule.policy rule.callSize with
            | false => simp
            | true =>
                cases chaosPolicyFire rule.toGates counted.pool with
                | none => simp
                | some pool => simp

/-! ## Processes -/

/-- A process whose calls are decided: the snapshot, and its slots for the rules. -/
structure ProcessRules where
  state : ChaosProcessConfigState
  loaded : ∀ rule ∈ state.rules, Loaded rule

/-- The slots of the process are those of its rules. -/
def ProcessRules.SlotsHeld (process : ProcessRules)
    (pool : Pool chaosProcessMaxRules) : Prop :=
  ∀ rule ∈ process.state.rules, ∃ slot, rule.hit = some slot ∧
    (pool slot).generation = rule.hitGeneration

end ChaosLibs.Process.Rule
