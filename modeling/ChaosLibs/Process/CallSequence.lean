import ChaosLibs.Process.ModesInTime

/-!
# The calls of a process

What libchaos-process and the supervisor do with the process calls of one process,
one after the other: which of them FAIL_AFTER fails, and what is counted.  A
fork's child starts with nothing counted, as `chaos_process_config_after_fork`
leaves it.
-/

namespace ChaosLibs.Process.CallSequence

open ChaosLibs.Common.HitSlots
open ChaosLibs.Common.RuleFiring
open ChaosLibs.Process.Faults
open ChaosLibs.Process.ModesInTime
open ChaosLibs.Process.Rule

/-- A process call, with the clock readings and the draws that decide it. -/
structure ProcessCall where
  operation : ChaosProcessOperation
  latencyAt : Int
  failingAt : Int
  samples : Samples

section Calls

variable (state : ChaosProcessConfigState)

/-- The rule by which a wrapper fails the call, and what is counted then. -/
def libraryCall (call : ProcessCall) (counted : Counted) :
    Option ChaosProcessRule × Counted :=
  failingFault state call.failingAt call.samples call.operation
    (countedAfter counted
      (latencyFault state call.latencyAt call.samples call.operation counted))

/-- The rule by which the supervisor fails the call, and what is counted then. -/
def supervisedCall (call : ProcessCall) (counted : Counted) :
    Option ChaosProcessRule × Counted :=
  chaosInitProcessFailing state call.failingAt call.samples call.operation
    (countedAfter counted
      (chaosInitProcessLatency state call.latencyAt call.samples call.operation
        counted))

/-- Whether FAIL_AFTER fails the call. -/
def failsAfter (failing : Option ChaosProcessRule) : Bool :=
  failing.any fun rule => rule.effect == .failAfter

/-- The FAIL_AFTER decisions of the library on some calls, and what is counted then. -/
def decisions : Counted → List ProcessCall → List Bool × Counted
  | counted, [] => ([], counted)
  | counted, call :: rest =>
      let called := libraryCall state call counted
      let later := decisions called.2 rest
      (failsAfter called.1 :: later.1, later.2)

theorem decisions_concat
    (counted : Counted) (calls : List ProcessCall) (call : ProcessCall) :
    decisions state counted (calls ++ [call]) =
      ((decisions state counted calls).1 ++
          [failsAfter (libraryCall state call
            (decisions state counted calls).2).1],
        (libraryCall state call (decisions state counted calls).2).2) := by
  induction calls generalizing counted with
  | nil => rfl
  | cons head rest induction =>
      rw [List.cons_append]
      unfold decisions
      dsimp only
      rw [induction]
      rfl

end Calls

/-- `chaos_process_config_after_fork`, of what a decision changes. -/
def chaosProcessConfigAfterFork (state : ChaosProcessConfigState)
    (counted : Counted) : Counted where
  pool := chaosHitsPoolAfterFork counted.pool
    (state.rules.map fun rule => rule.hit)
  counters := fun _ => 0

/-! ## What a call leaves of the slots -/

/-- A pool that differs from another in counts and claims only. -/
def Worn (fresh pool : Pool chaosProcessMaxRules) : Prop :=
  ∀ slot, pool slot =
    { fresh slot with
      count := (pool slot).count
      claimed := (pool slot).claimed }

variable {state : ChaosProcessConfigState} {process : ProcessRules}
variable {fresh pool after : Pool chaosProcessMaxRules}
variable {call : ProcessCall} {counted : Counted}

theorem Worn.refl (pool : Pool chaosProcessMaxRules) : Worn pool pool :=
  fun _ => rfl

theorem worn_chaosPolicyFire
    {gates : Gates chaosProcessMaxRules} (worn : Worn fresh pool)
    (fires : chaosPolicyFire gates pool = some after) : Worn fresh after := by
  intro slot
  rw [slot_of_chaosPolicyFire fires slot, worn slot]

theorem worn_ruleShouldTrigger
    {gates : Gates chaosProcessMaxRules} {now : Int} {sample : UInt32}
    (worn : Worn fresh pool)
    (fires : ruleShouldTrigger gates now sample pool = some after) :
    Worn fresh after :=
  worn_chaosPolicyFire worn (chaosPolicyFire_of_ruleShouldTrigger fires)

theorem worn_latencyFault
    {now : Int} {samples : Samples} {operation : ChaosProcessOperation}
    {fired : ChaosProcessRule × Pool chaosProcessMaxRules}
    (worn : Worn fresh counted.pool)
    (fires : latencyFault state now samples operation counted = some fired) :
    Worn fresh fired.2 := by
  rcases Option.bind_eq_some_iff.mp fires with ⟨rule, -, applied⟩
  rcases Option.map_eq_some_iff.mp applied with ⟨left, triggered, rfl⟩
  unfold chaosProcessRuleApplyLatency at triggered
  split at triggered
  · cases triggered
  · exact worn_ruleShouldTrigger worn triggered

theorem worn_countedAfter
    {now : Int} {samples : Samples} {operation : ChaosProcessOperation}
    (worn : Worn fresh counted.pool) :
    Worn fresh (countedAfter counted
      (latencyFault state now samples operation counted)).pool := by
  cases fires : latencyFault state now samples operation counted with
  | none => exact worn
  | some fired => exact worn_latencyFault worn fires

theorem worn_chaosProcessRuleFailAfterError
    {rule : ChaosProcessRule} {operation : ChaosProcessOperation} {now : Int}
    {sample : UInt32} (worn : Worn fresh counted.pool) :
    Worn fresh (chaosProcessRuleFailAfterError rule operation now sample
      counted).2.pool := by
  unfold chaosProcessRuleFailAfterError
  split
  · exact worn
  · dsimp only
    split
    · exact worn
    · split
      · exact worn
      · cases fires : chaosPolicyFire rule.toGates counted.pool with
        | none => exact worn
        | some left => exact worn_chaosPolicyFire worn fires

theorem worn_failingFault
    {now : Int} {samples : Samples} {operation : ChaosProcessOperation}
    (worn : Worn fresh counted.pool) :
    Worn fresh (failingFault state now samples operation counted).2.pool := by
  unfold failingFault
  cases fires : errnoFault state now samples operation counted with
  | none =>
      unfold failAfterFault
      dsimp only
      split
      · exact worn
      · exact worn_chaosProcessRuleFailAfterError worn
  | some fired =>
      rcases Option.bind_eq_some_iff.mp fires with ⟨rule, -, applied⟩
      rcases Option.map_eq_some_iff.mp applied with ⟨left, triggered, rfl⟩
      unfold chaosProcessRuleErrorNumber at triggered
      split at triggered
      · cases triggered
      · exact worn_ruleShouldTrigger worn triggered

/-- A call counts hits and claims, and changes nothing else of a slot. -/
theorem worn_libraryCall (worn : Worn fresh counted.pool) :
    Worn fresh (libraryCall state call counted).2.pool :=
  worn_failingFault (worn_countedAfter worn)

theorem worn_decisions
    {calls : List ProcessCall} (worn : Worn fresh counted.pool) :
    Worn fresh (decisions state counted calls).2.pool := by
  induction calls generalizing counted with
  | nil => exact worn
  | cons call rest induction => exact induction (worn_libraryCall worn)

theorem Worn.slotsHeld
    (worn : Worn fresh pool) (held : process.SlotsHeld fresh) :
    process.SlotsHeld pool := by
  intro rule member
  rcases held rule member with ⟨slot, hit, generation⟩
  refine ⟨slot, hit, ?_⟩
  rw [worn slot]
  exact generation

/-- Both modes fail the call by the same rule, and count the same. -/
theorem supervisedCall_eq (slots : process.SlotsHeld counted.pool) :
    supervisedCall process.state call counted =
      libraryCall process.state call counted := by
  unfold supervisedCall libraryCall
  rw [chaosInitProcessLatency_eq slots,
    chaosInitProcessFailing_eq (slotsHeld_countedAfter slots)]

/-! ## A process that has counted nothing -/

/-- The slots of a process that has loaded the rules and made no call. -/
structure Fresh (process : ProcessRules) (pool : Pool chaosProcessMaxRules) :
    Prop where
  held : process.SlotsHeld pool
  count : ∀ slot, (pool slot).count = 0
  claimed : ∀ slot,
    (pool slot).claimed = chaosHitClaimsNone (pool slot).generation
  state : ∀ slot, (pool slot).state = 0
  used : ∀ slot, (pool slot).used = true →
    some slot ∈ process.state.rules.map fun rule => rule.hit

/-- The child of a fork has counted nothing, whatever its parent had. -/
theorem chaosProcessConfigAfterFork_eq
    (isFresh : Fresh process fresh) (worn : Worn fresh counted.pool) :
    chaosProcessConfigAfterFork process.state counted = ⟨fresh, fun _ => 0⟩ := by
  have same : ∀ slot,
      chaosHitsPoolAfterFork counted.pool
        (process.state.rules.map fun rule => rule.hit) slot = fresh slot := by
    intro slot
    have stays : leaves counted.pool
        (process.state.rules.map fun rule => rule.hit) slot = false := by
      unfold leaves
      cases used : (counted.pool slot).used with
      | false => rfl
      | true =>
          rw [worn slot] at used
          rw [List.contains_iff_mem.mpr (isFresh.used slot used)]
          rfl
    unfold chaosHitsPoolAfterFork chaosHitsRelease HitSlot.afterFork
    rw [stays, if_neg Bool.false_ne_true, worn slot]
    dsimp only
    rw [← isFresh.count slot, ← isFresh.claimed slot, isFresh.state slot,
      if_neg (by decide), ← isFresh.state slot]
  unfold chaosProcessConfigAfterFork
  rw [funext same]

end ChaosLibs.Process.CallSequence
