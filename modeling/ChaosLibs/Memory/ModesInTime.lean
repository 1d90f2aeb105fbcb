import ChaosLibs.Init.FaultTiming
import ChaosLibs.Memory.Faults

/-!
# Memory calls, before and after the delay

Both modes find the same rules for a call, and the same LATENCY rule fires.
They differ in the clock reading at which the ERRNO rule is decided.
-/

namespace ChaosLibs.Memory.ModesInTime

open ChaosLibs.Common.HitSlots
open ChaosLibs.Common.PolicyGates
open ChaosLibs.Common.RuleFiring
open ChaosLibs.Common.RulePolicy
open ChaosLibs.Init.FaultTiming
open ChaosLibs.Init.Verdict
open ChaosLibs.Memory.Faults
open ChaosLibs.Memory.Rule

/-! ## The rules of a call -/

/-- The operation, the `mmap` flags and the size a wrapper matches its call with. -/
def request : LibcCall → ChaosMemoryOperation × UInt32 × UInt64
  | .mmap length flags => (.mmap, flags, length)
  | .munmap length => (.munmap, 0, length)
  | .mprotect length => (.mprotect, 0, length)
  | .madvise length => (.madvise, 0, length)
  | .posixMadvise length => (.madvise, 0, length)

/-- The qualifiers of a rule. -/
def policyOf (rule : ChaosMemoryRule) : ChaosRulePolicy :=
  rule.policy

section Rules

variable (process : MemoryProcess) (now : Int) (samples : Samples)
variable (call : LibcCall)

/-- The rule of one effect that a call is matched with. -/
def matched (effect : ChaosMemoryEffect) : Option ChaosMemoryRule :=
  chaosMemoryMatchSized process effect (request call).1 (request call).2.1
    (request call).2.2

/-- The LATENCY rule that delays a call begun at `now`, and the pool after its hit. -/
def delaying : Option (ChaosMemoryRule × Pool chaosMemoryMaxRules) :=
  latencyFault process now samples (request call).1 (request call).2.1
    (request call).2.2

/-- The rules that may fail a call. -/
def faults : List ChaosMemoryRule :=
  (matched process call .errno).toList

/-- Whether a rule that may fail the call does so once its window is open. -/
def faultReady (rule : ChaosMemoryRule) : Bool :=
  ready rule.toGates (samples .errno)
    (poolAfter process (delaying process now samples call))

end Rules

variable {process : MemoryProcess} {now : Int} {samples : Samples}
variable {call : LibcCall}

theorem preloadOutcome_eq_wrapperFault :
    preloadOutcome process now samples call =
      wrapperFault process now samples (request call).1 (request call).2.1
        (request call).2.2 := by
  cases call <;> rfl

theorem effect_of_matched
    {effect : ChaosMemoryEffect} {rule : ChaosMemoryRule}
    (found : matched process call effect = some rule) :
    rule.effect = effect := by
  rcases Option.map_eq_some_iff.mp found with ⟨source, selected, rfl⟩
  exact (mem_of_chaosMemoryConfigMatch selected).2

theorem errnum_of_matched
    {rule : ChaosMemoryRule}
    (found : matched process call .errno = some rule) :
    rule.errnum ≠ 0 := by
  rcases Option.map_eq_some_iff.mp found with ⟨source, selected, rfl⟩
  rcases mem_of_chaosMemoryConfigMatch selected with ⟨member, effect⟩
  exact (process.loaded source member).errnum effect

/-- The one rule that may fail a call, once its window is open. -/
theorem find?_faults (time : Int) :
    (faults process call).find?
        (firesAt policyOf
          (faultReady process now samples call) time) =
      (matched process call .errno).filter fun rule =>
        (chaosMemoryRuleShouldTrigger rule time (samples .errno)
          (poolAfter process (delaying process now samples call))).isSome := by
  have decided : ∀ rule : ChaosMemoryRule,
      (chaosMemoryRuleShouldTrigger rule time (samples .errno)
          (poolAfter process (delaying process now samples call))).isSome =
        firesAt policyOf
          (faultReady process now samples call) time rule :=
    fun rule => isSome_ruleShouldTrigger rule.toGates time _ _
  simp only [decided]
  unfold faults
  cases matched process call .errno with
  | none => rfl
  | some rule =>
      rw [Option.toList_some, List.find?_singleton, Option.filter_some]

/-- The wrapper decides the ERRNO rule when the delay is over. -/
theorem preloadOutcome_eq :
    preloadOutcome process now samples call =
      faultOutcome ChaosMemoryRule.latencyMs ChaosMemoryRule.errnum
        ((delaying process now samples call).map Prod.fst)
        ((faults process call).find?
          (firesAt policyOf (faultReady process now samples call)
            (now + sleptMs (delaying process now samples call)))) := by
  rw [preloadOutcome_eq_wrapperFault, find?_faults]
  have applied :
      ((matched process call .errno).filter fun rule =>
        (chaosMemoryRuleApplyErrno rule
          (now + sleptMs (delaying process now samples call)) (samples .errno)
          (poolAfter process (delaying process now samples call))).isSome) =
      (matched process call .errno).filter fun rule =>
        (chaosMemoryRuleShouldTrigger rule
          (now + sleptMs (delaying process now samples call)) (samples .errno)
          (poolAfter process (delaying process now samples call))).isSome := by
    cases found : matched process call .errno with
    | none => rfl
    | some rule =>
        unfold chaosMemoryRuleApplyErrno
        rw [Option.filter_some, Option.filter_some,
          if_neg (not_not_intro (effect_of_matched found))]
  rw [← applied]
  unfold faultOutcome
  rw [Option.elim_map]
  rfl

/-! ## The supervisor -/

/-- The pool that the second decision finds has every slot with its rule. -/
theorem generation_poolAfter (slot : SlotId chaosMemoryMaxRules) :
    (poolAfter process (delaying process now samples call) slot).generation =
      (process.pool slot).generation := by
  cases fired : delaying process now samples call with
  | none => rfl
  | some pair =>
      rcases Option.bind_eq_some_iff.mp fired with ⟨rule, -, applied⟩
      rcases Option.map_eq_some_iff.mp applied with ⟨after, triggered, rfl⟩
      unfold chaosMemoryRuleApplyLatency at triggered
      split at triggered
      · cases triggered
      · exact generation_of_chaosPolicyFire
          (chaosPolicyFire_of_ruleShouldTrigger triggered) slot

/-- In a process with its own slots, the supervisor decides the rule as a wrapper does. -/
theorem chaosInitMemoryFires_eq
    {notified : ChaosInitCall SystemCall} (size : notified.args 1 = (request call).2.2)
    (effect : ChaosMemoryEffect) {pool : Pool chaosMemoryMaxRules}
    (same : ∀ slot, (pool slot).generation = (process.pool slot).generation) :
    chaosInitMemoryFires process now samples notified effect (request call).1
        (request call).2.1 pool =
      (matched process call effect).bind fun rule =>
        (chaosMemoryRuleShouldTrigger rule now (samples effect) pool).map
          fun after => (rule, after) := by
  unfold chaosInitMemoryFires matched chaosMemoryMatchSized
  rw [Option.bind_map]
  apply Option.bind_congr
  intro source selected
  rcases process.slots source (mem_of_chaosMemoryConfigMatch selected).1 with
    ⟨slot, held, generation⟩
  have kept : ({ source with
      callSize := (notified.args 1).toNat
      hitGeneration := (pool slot).generation } : ChaosMemoryRule) =
        { source with callSize := (request call).2.2.toNat } := by
    rw [size, same slot, generation]
  split
  · rename_i missing
    exact absurd (held.symm.trans missing) nofun
  · rename_i found
    cases held.symm.trans found
    rw [kept]
    rfl

theorem chaosInitMemoryOperation_of_issues
    {notified : ChaosInitCall SystemCall} (issues : Issues call notified) :
    chaosInitMemoryOperation notified =
        some ((request call).1, (request call).2.1) ∧
      notified.args 1 = (request call).2.2 := by
  unfold chaosInitMemoryOperation
  cases call with
  | mmap length flags =>
      rcases issues with ⟨number, size, flagWord⟩
      rw [number, ← flagWord]
      exact ⟨rfl, size⟩
  | munmap length | mprotect length | madvise length | posixMadvise length =>
      rcases issues with ⟨number, size⟩
      rw [number]
      exact ⟨rfl, size⟩

/-- The same LATENCY rule fires in both modes. -/
theorem chaosInitMemoryFires_latency
    {notified : ChaosInitCall SystemCall}
    (size : notified.args 1 = (request call).2.2) :
    chaosInitMemoryFires process now samples notified .latency (request call).1
        (request call).2.1 process.pool =
      delaying process now samples call := by
  rw [chaosInitMemoryFires_eq size .latency fun _ => rfl]
  apply Option.bind_congr
  intro rule found
  unfold chaosMemoryRuleApplyLatency
  rw [if_neg (not_not_intro (effect_of_matched found))]

/-- The supervisor decides the ERRNO rule as well when the call arrives. -/
theorem chaosInitMemoryFires_errno
    {notified : ChaosInitCall SystemCall}
    (size : notified.args 1 = (request call).2.2) :
    (chaosInitMemoryFires process now samples notified .errno (request call).1
        (request call).2.1
        (poolAfter process (delaying process now samples call))).map Prod.fst =
      (faults process call).find?
        (firesAt policyOf (faultReady process now samples call) now) := by
  rw [chaosInitMemoryFires_eq size .errno generation_poolAfter, find?_faults]
  cases matched process call .errno with
  | none => rfl
  | some rule =>
      rw [Option.bind_some, Option.filter_some, Option.map_map]
      cases chaosMemoryRuleShouldTrigger rule now (samples .errno)
          (poolAfter process (delaying process now samples call)) with
      | none => rfl
      | some after => rfl

theorem supervisorOutcome_eq
    {notified : ChaosInitCall SystemCall} (issues : Issues call notified) :
    supervisorOutcome process now samples notified =
      some (faultOutcome ChaosMemoryRule.latencyMs ChaosMemoryRule.errnum
        ((delaying process now samples call).map Prod.fst)
        ((faults process call).find?
          (firesAt policyOf (faultReady process now samples call) now))) := by
  rcases chaosInitMemoryOperation_of_issues issues with ⟨operation, size⟩
  have errors : ∀ rule,
      (faults process call).find?
          (firesAt policyOf (faultReady process now samples call) now) =
        some rule → rule.errnum ≠ 0 := by
    intro rule found
    have member := List.mem_of_find?_eq_some found
    exact errnum_of_matched (Option.mem_toList.mp member)
  rw [← carriedOut_faultVerdict errors, ← chaosInitMemoryFires_errno size]
  unfold supervisorOutcome chaosInitMemoryDecide
  rw [operation, Option.map_some, Option.map_some]
  simp only [chaosInitMemoryFires_latency size]
  apply congrArg some
  cases delaying process now samples call with
  | none =>
      cases chaosInitMemoryFires process now samples notified .errno
          (request call).1 (request call).2.1 _ with
      | none => rfl
      | some pair => rfl
  | some delayed =>
      cases chaosInitMemoryFires process now samples notified .errno
          (request call).1 (request call).2.1 _ with
      | none => rfl
      | some pair => rfl

/-! ## The two modes -/

theorem nodup_faults : (faults process call).Nodup := by
  unfold faults
  cases matched process call .errno with
  | none => exact List.nodup_nil
  | some rule => exact List.nodup_singleton rule

/--
The modes agree on a memory call exactly when the delay carries no ERRNO rule that
is ready for it over an edge of its window.
-/
theorem outcomes_eq_iff
    {notified : ChaosInitCall SystemCall} (issues : Issues call notified) :
    supervisorOutcome process now samples notified =
        some (preloadOutcome process now samples call) ↔
      Undisturbed policyOf (faultReady process now samples call) now
        (now + sleptMs (delaying process now samples call))
        (faults process call) := by
  rw [supervisorOutcome_eq issues, preloadOutcome_eq, Option.some_inj]
  exact faultOutcome_eq_iff nodup_faults

end ChaosLibs.Memory.ModesInTime
