import ChaosLibs.Common.RulePolicy

/-!
# The gates of a rule's qualifiers

The window test and the size test of `chaos_policy.h`, the first as a function
of the realtime clock reading it makes.
-/

namespace ChaosLibs.Common.PolicyGates

open ChaosLibs.Common.RulePolicy

/-- `chaos_policy_window_open`, the realtime clock reading `now` ms. -/
def chaosPolicyWindowOpen (policy : ChaosRulePolicy) (now : Int) : Bool :=
  if policy.fromMs = 0 ∧ policy.untilMs = 0 then
    true
  else
    (policy.fromMs == 0 || policy.fromMs ≤ now) &&
      (policy.untilMs == 0 || now < policy.untilMs)

/-- `chaos_policy_size_ok`; `CHAOS_POLICY_NO_SIZE` is `UINT64_MAX`. -/
def chaosPolicySizeOk (policy : ChaosRulePolicy) (size : Nat) : Bool :=
  if !policy.hasSizeAbove && !policy.hasSizeBelow then
    true
  else if size = 2 ^ 64 - 1 then
    false
  else
    (!policy.hasSizeAbove || policy.sizeAbove < size) &&
      (!policy.hasSizeBelow || size < policy.sizeBelow)

end ChaosLibs.Common.PolicyGates
