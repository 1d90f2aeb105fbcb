import ChaosLibs.Init.FaultTiming
import ChaosLibs.Process.Faults

/-!
# Process calls, before and after the delay

Both modes find the same rules for a call, and the same LATENCY rule fires.
They differ in the clock reading at which the ERRNO and the FAIL_AFTER rule are
decided.
-/

namespace ChaosLibs.Process.ModesInTime

open ChaosLibs.Common.HitSlots
open ChaosLibs.Common.PolicyGates
open ChaosLibs.Common.RuleFiring
open ChaosLibs.Common.RulePolicy
open ChaosLibs.Init.FaultTiming
open ChaosLibs.Init.Verdict
open ChaosLibs.Process.Faults
open ChaosLibs.Process.Rule

/-! ## The rules of a call -/

/-- The qualifiers of a rule. -/
def policyOf (rule : ChaosProcessRule) : ChaosRulePolicy :=
  rule.policy

section Rules

variable (state : ChaosProcessConfigState) (samples : Samples)
variable (operation : ChaosProcessOperation) (counted : Counted)

/-- The rules that may fail a call, in the order they are consulted. -/
def faults : List ChaosProcessRule :=
  (chaosProcessConfigMatch state .errno operation).toList ++
    (chaosProcessConfigMatch state .failAfter operation).toList

/-- Whether a rule that may fail the call does so once its window is open. -/
def faultReady (rule : ChaosProcessRule) : Bool :=
  (decide (rule.effect ≠ .failAfter) ||
      decide (rule.failAfterCount ≤ counted.counters operation)) &&
    ready rule.toGates (samples rule.effect) counted.pool

end Rules

variable {process : ProcessRules} {state : ChaosProcessConfigState} {now : Int}
variable {samples : Samples} {operation : ChaosProcessOperation}
variable {counted : Counted}

theorem nodup_faults : (faults state operation).Nodup := by
  unfold faults
  apply List.Nodup.append
  · cases chaosProcessConfigMatch state .errno operation with
    | none => exact List.nodup_nil
    | some rule => exact List.nodup_singleton rule
  · cases chaosProcessConfigMatch state .failAfter operation with
    | none => exact List.nodup_nil
    | some rule => exact List.nodup_singleton rule
  · intro rule one other
    have errno :=
      (mem_of_chaosProcessConfigMatch (Option.mem_toList.mp one)).2
    have failAfter :=
      (mem_of_chaosProcessConfigMatch (Option.mem_toList.mp other)).2
    exact absurd (errno.symm.trans failAfter) nofun

theorem fst_failAfterFault :
    (failAfterFault state now samples operation counted).1 =
      (chaosProcessConfigMatch state .failAfter operation).filter
        (firesAt policyOf (faultReady samples operation counted) now) := by
  unfold failAfterFault
  cases found : chaosProcessConfigMatch state .failAfter operation with
  | none => rfl
  | some rule =>
      have effect := (mem_of_chaosProcessConfigMatch found).2
      have decided :=
        fst_chaosProcessRuleFailAfterError effect operation now
          (samples .failAfter) counted
      have fires :
          firesAt policyOf (faultReady samples operation counted) now rule =
            (chaosProcessRuleFailAfterError rule operation now
              (samples .failAfter) counted).1 := by
        rw [decided]
        unfold firesAt faultReady
        rw [effect]
        rfl
      rw [Option.filter_some, fires]

theorem errnoFault_eq :
    (errnoFault state now samples operation counted).map Prod.fst =
      (chaosProcessConfigMatch state .errno operation).filter
        (firesAt policyOf (faultReady samples operation counted) now) := by
  unfold errnoFault
  cases found : chaosProcessConfigMatch state .errno operation with
  | none => rfl
  | some rule =>
      have effect := (mem_of_chaosProcessConfigMatch found).2
      have fires :
          firesAt policyOf (faultReady samples operation counted) now rule =
            (chaosProcessRuleErrorNumber rule now (samples .errno)
              counted.pool).isSome := by
        unfold chaosProcessRuleErrorNumber chaosProcessRuleShouldTrigger
        rw [if_neg (not_not_intro effect), isSome_ruleShouldTrigger]
        unfold firesAt faultReady
        rw [effect]
        rfl
      rw [Option.filter_some, fires, Option.bind_some]
      cases chaosProcessRuleErrorNumber rule now (samples .errno)
          counted.pool with
      | none => rfl
      | some pool => rfl

/-- The first of the two rules that fires fails the call. -/
theorem fst_failingFault :
    (failingFault state now samples operation counted).1 =
      (faults state operation).find?
        (firesAt policyOf (faultReady samples operation counted) now) := by
  unfold failingFault faults
  have errno := @errnoFault_eq state now samples operation counted
  have failAfter := @fst_failAfterFault state now samples operation counted
  have single : ∀ found : Option ChaosProcessRule,
      found.toList.find?
          (firesAt policyOf (faultReady samples operation counted) now) =
        found.filter
          (firesAt policyOf (faultReady samples operation counted) now) := by
    intro found
    cases found with
    | none => rfl
    | some rule =>
        rw [Option.toList_some, List.find?_singleton, Option.filter_some]
  rw [List.find?_append, single, single, ← errno, ← failAfter]
  cases errnoFault state now samples operation counted with
  | none => rfl
  | some pair => rfl

/-! ## The supervisor -/

/-- In a process with its own slots, the slot of a matched rule is already the copy's. -/
theorem chaosInitProcessSlot_eq
    {pool : Pool chaosProcessMaxRules} (slots : process.SlotsHeld pool)
    {effect : ChaosProcessEffect} {rule : ChaosProcessRule}
    (found : chaosProcessConfigMatch process.state effect operation = some rule) :
    chaosInitProcessSlot rule pool = some rule := by
  rcases slots rule (mem_of_chaosProcessConfigMatch found).1 with
    ⟨slot, held, generation⟩
  exact Option.map_eq_some_iff.mpr ⟨slot, held, by rw [generation]⟩

theorem chaosInitProcessSlot_bind
    {pool : Pool chaosProcessMaxRules} (slots : process.SlotsHeld pool)
    (effect : ChaosProcessEffect) :
    ((chaosProcessConfigMatch process.state effect operation).bind fun rule =>
        chaosInitProcessSlot rule pool) =
      chaosProcessConfigMatch process.state effect operation := by
  cases found : chaosProcessConfigMatch process.state effect operation with
  | none => rfl
  | some rule => exact chaosInitProcessSlot_eq slots found

/-- The same LATENCY rule fires in both modes. -/
theorem chaosInitProcessLatency_eq (slots : process.SlotsHeld counted.pool) :
    chaosInitProcessLatency process.state now samples operation counted =
      latencyFault process.state now samples operation counted := by
  unfold chaosInitProcessLatency latencyFault
  rw [chaosInitProcessSlot_bind slots]
  apply Option.bind_congr
  intro rule found
  unfold chaosProcessRuleApplyLatency
  rw [if_neg (not_not_intro (mem_of_chaosProcessConfigMatch found).2)]

/-- A hit leaves the slots with their rules. -/
theorem slotsHeld_countedAfter (slots : process.SlotsHeld counted.pool) :
    process.SlotsHeld (countedAfter counted
      (latencyFault process.state now samples operation counted)).pool := by
  intro rule member
  rcases slots rule member with ⟨slot, held, generation⟩
  refine ⟨slot, held, ?_⟩
  cases fired : latencyFault process.state now samples operation counted with
  | none => exact generation
  | some pair =>
      rcases Option.bind_eq_some_iff.mp fired with ⟨rule, -, applied⟩
      rcases Option.map_eq_some_iff.mp applied with ⟨after, triggered, rfl⟩
      unfold chaosProcessRuleApplyLatency at triggered
      split at triggered
      · cases triggered
      · exact (generation_of_chaosPolicyFire
          (chaosPolicyFire_of_ruleShouldTrigger triggered) slot).trans generation

theorem chaosInitProcessFailing_eq (slots : process.SlotsHeld counted.pool) :
    chaosInitProcessFailing process.state now samples operation counted =
      failingFault process.state now samples operation counted := by
  unfold chaosInitProcessFailing failingFault chaosInitProcessErrno errnoFault
    chaosInitProcessFailAfter failAfterFault
  rw [chaosInitProcessSlot_bind slots, chaosInitProcessSlot_bind slots]

/-- The verdict delays a call and fails it as its two rules say. -/
theorem chaosInitProcessVerdict_eq (latency failing : Option ChaosProcessRule) :
    chaosInitProcessVerdict latency failing =
      faultVerdict ChaosProcessRule.latencyMs ChaosProcessRule.errnum latency
        failing := by
  cases latency <;> cases failing <;> rfl

/-! ## The two modes -/

/-- The wrapper decides the failing rule when the delay is over. -/
theorem chaosProcessOperationFault_eq :
    (chaosProcessOperationFault state now samples operation counted).1 =
      faultOutcome ChaosProcessRule.latencyMs ChaosProcessRule.errnum
        ((latencyFault state now samples operation counted).map Prod.fst)
        ((faults state operation).find?
          (firesAt policyOf
            (faultReady samples operation (countedAfter counted
              (latencyFault state now samples operation counted)))
            (now + sleptMs (latencyFault state now samples operation counted)))) := by
  rw [← fst_failingFault]
  unfold faultOutcome
  rw [Option.elim_map]
  rfl

/-- The supervisor decides it when the call arrives. -/
theorem supervisorOutcome_eq (slots : process.SlotsHeld counted.pool) :
    (supervisorOutcome process.state now samples operation counted).1 =
      faultOutcome ChaosProcessRule.latencyMs ChaosProcessRule.errnum
        ((latencyFault process.state now samples operation counted).map Prod.fst)
        ((faults process.state operation).find?
          (firesAt policyOf
            (faultReady samples operation (countedAfter counted
              (latencyFault process.state now samples operation counted)))
            now)) := by
  have errors : ∀ rule,
      (faults process.state operation).find?
          (firesAt policyOf
            (faultReady samples operation (countedAfter counted
              (latencyFault process.state now samples operation counted))) now) =
        some rule → rule.errnum ≠ 0 := by
    intro rule found
    have member : ∃ effect, effect ≠ .latency ∧
        chaosProcessConfigMatch process.state effect operation = some rule := by
      rcases List.mem_append.mp (List.mem_of_find?_eq_some found) with
        errno | failAfter
      · exact ⟨.errno, nofun, Option.mem_toList.mp errno⟩
      · exact ⟨.failAfter, nofun, Option.mem_toList.mp failAfter⟩
    rcases member with ⟨effect, failing, matched⟩
    rcases mem_of_chaosProcessConfigMatch matched with ⟨member, same⟩
    exact (process.loaded rule member).errnum (same ▸ failing)
  rw [← carriedOut_faultVerdict errors, ← fst_failingFault,
    ← chaosInitProcessFailing_eq (slotsHeld_countedAfter slots),
    ← chaosInitProcessVerdict_eq]
  unfold supervisorOutcome chaosInitProcessDecide
  rw [chaosInitProcessLatency_eq slots]

/--
The modes agree on a process call exactly when the delay carries no rule that is
ready to fail it over an edge of its window, unless an earlier one fails it anyway.
-/
theorem outcomes_eq_iff (slots : process.SlotsHeld counted.pool) :
    (supervisorOutcome process.state now samples operation counted).1 =
        (chaosProcessOperationFault process.state now samples operation
          counted).1 ↔
      Undisturbed policyOf
        (faultReady samples operation (countedAfter counted
          (latencyFault process.state now samples operation counted)))
        now
        (now + sleptMs (latencyFault process.state now samples operation counted))
        (faults process.state operation) := by
  rw [supervisorOutcome_eq slots, chaosProcessOperationFault_eq]
  exact faultOutcome_eq_iff nodup_faults

end ChaosLibs.Process.ModesInTime
