import ChaosLibs.Common.HitSlots
import ChaosLibs.Common.PolicyGates

/-!
# Whether a matched rule fires

The decision that `chaos_memory_rule_should_trigger` and
`chaos_process_rule_should_trigger` make on a rule copy: the window, the size
gate, one draw, and `chaos_policy_fire`, here run to its end by one thread.
What the draw returns is an argument.
-/

namespace ChaosLibs.Common.RuleFiring

open ChaosLibs.Common.HitSlots
open ChaosLibs.Common.PolicyGates
open ChaosLibs.Common.RulePolicy

/-- The fields of a rule copy that decide whether it fires. -/
structure Gates (limit : Nat) where
  probability : Probability
  policy : ChaosRulePolicy
  callSize : Nat
  hit : Option (SlotId limit)
  hitGeneration : Nat
deriving DecidableEq

variable {limit : Nat}

/--
`chaos_memory_probability_hit_sample` and its copy in libchaos-process; the
threshold is compared exactly.
-/
def probabilityHitSample (probability : Probability) (sample : UInt32) : Bool :=
  if probability.decimals = 0 then
    false
  else if probability.scale ≤ probability.decimals then
    true
  else
    sample.toNat * probability.scale < probability.decimals * 2 ^ 32

/-- Whether the claim loop of `chaos_policy_fire` returns 0. -/
def claimRefused (gates : Gates limit) (slot : HitSlot) : Bool :=
  chaosHitClaimsTag slot.claimed != chaosHitClaimsNone gates.hitGeneration ||
    gates.policy.first ≤ chaosHitClaims slot.claimed ||
    chaosHitClaims slot.claimed == 2 ^ 32 - 1

/-- One claim, and the hit it stands for. -/
def claimHit (slot : HitSlot) : HitSlot :=
  { slot with
    claimed := (slot.claimed + 1) % 2 ^ 64
    count := (slot.count + 1) % 2 ^ 64 }

/-- `chaos_hit_record`: a hit without a claim. -/
def recordHit (slot : HitSlot) : HitSlot :=
  { slot with count := (slot.count + 1) % 2 ^ 64 }

/-- `chaos_policy_fire`: the pool after a hit, `none` where it returns 0. -/
def chaosPolicyFire (gates : Gates limit) (pool : Pool limit) :
    Option (Pool limit) :=
  match gates.hit with
  | none => some pool
  | some slot =>
      if !chaosHitSlotCurrent (pool slot) gates.hitGeneration then
        none
      else if gates.policy.first = 0 then
        some (pool.modify slot recordHit)
      else if claimRefused gates (pool slot) then
        none
      else
        some (pool.modify slot claimHit)

/-- `chaos_<lib>_rule_should_trigger`: the pool after the hit when it fires. -/
def ruleShouldTrigger
    (gates : Gates limit) (now : Int) (sample : UInt32) (pool : Pool limit) :
    Option (Pool limit) :=
  if !chaosPolicyWindowOpen gates.policy now ||
      !chaosPolicySizeOk gates.policy gates.callSize then
    none
  else if !probabilityHitSample gates.probability sample then
    none
  else
    chaosPolicyFire gates pool

/-- Whether all gates but the window let the rule fire. -/
def ready (gates : Gates limit) (sample : UInt32) (pool : Pool limit) : Bool :=
  chaosPolicySizeOk gates.policy gates.callSize &&
    probabilityHitSample gates.probability sample &&
      (chaosPolicyFire gates pool).isSome

/-! ## What decides -/

theorem isSome_ruleShouldTrigger
    (gates : Gates limit) (now : Int) (sample : UInt32) (pool : Pool limit) :
    (ruleShouldTrigger gates now sample pool).isSome =
      (ready gates sample pool && chaosPolicyWindowOpen gates.policy now) := by
  unfold ruleShouldTrigger ready
  cases chaosPolicyWindowOpen gates.policy now with
  | false => rw [Bool.and_false]; rfl
  | true =>
      cases chaosPolicySizeOk gates.policy gates.callSize with
      | false => rfl
      | true =>
          cases probabilityHitSample gates.probability sample with
          | false => rfl
          | true => rw [Bool.and_true, Bool.true_and, Bool.true_and]; rfl

/-- A hit changes a slot in its count and its claims at most. -/
theorem slot_of_chaosPolicyFire
    {gates : Gates limit} {pool after : Pool limit}
    (fires : chaosPolicyFire gates pool = some after) (slot : SlotId limit) :
    after slot =
      { pool slot with
        count := (after slot).count
        claimed := (after slot).claimed } := by
  have kept : ∀ (target : SlotId limit) (change : HitSlot → HitSlot),
      (∀ held : HitSlot, change held =
        { held with count := (change held).count, claimed := (change held).claimed }) →
        pool.modify target change slot =
          { pool slot with
            count := (pool.modify target change slot).count
            claimed := (pool.modify target change slot).claimed } := by
    intro target change same
    rw [Pool.modify_apply]
    split
    · exact same _
    · rfl
  unfold chaosPolicyFire at fires
  split at fires
  · cases fires
    rfl
  · split at fires
    · cases fires
    · split at fires
      · cases fires
        exact kept _ _ fun _ => rfl
      · split at fires
        · cases fires
        · cases fires
          exact kept _ _ fun _ => rfl

/-- A hit leaves every slot with its rule. -/
theorem generation_of_chaosPolicyFire
    {gates : Gates limit} {pool after : Pool limit}
    (fires : chaosPolicyFire gates pool = some after) (slot : SlotId limit) :
    (after slot).generation = (pool slot).generation := by
  rw [slot_of_chaosPolicyFire fires slot]

theorem chaosPolicyFire_of_ruleShouldTrigger
    {gates : Gates limit} {now : Int} {sample : UInt32}
    {pool after : Pool limit}
    (fires : ruleShouldTrigger gates now sample pool = some after) :
    chaosPolicyFire gates pool = some after := by
  unfold ruleShouldTrigger at fires
  split at fires
  · cases fires
  · split at fires
    · cases fires
    · exact fires

end ChaosLibs.Common.RuleFiring
