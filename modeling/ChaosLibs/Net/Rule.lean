import ChaosLibs.Common.HitSlots
import ChaosLibs.Common.RulePolicy

/-!
# Rules of libchaos-net

Operations, effects, endpoints and the rule record of `chaos_net_config.h`.
The members of an endpoint's address union are fields of their own; code reads
only the one that belongs to the kind.
-/

namespace ChaosLibs.Net.Rule

open ChaosLibs.Common.CString
open ChaosLibs.Common.HitSlots
open ChaosLibs.Common.RulePolicy

/-- `CHAOS_NET_MAX_RULES`. -/
abbrev chaosNetMaxRules : Nat := 256

/-- `CHAOS_POLICY_NO_SIZE`. -/
def chaosPolicyNoSize : Nat := 2 ^ 64 - 1

/-- `chaos_net_operation_t`, the parse failure left out. -/
inductive ChaosNetOperation where
  | bind
  | listen
  | connect
  | accept
  | socket
  | shutdown
  | poll
  | send
  | recv
  | close
deriving DecidableEq, Repr

/-- `chaos_net_effect_t`, the parse failure left out. -/
inductive ChaosNetEffect where
  | errno
  | latency
  | corrupt
  | timeout
  | reset
  | trickle
  | dup
deriving DecidableEq, Repr

/-- `chaos_net_endpoint_kind_t`. -/
inductive ChaosNetEndpointKind where
  | invalid
  | any
  | tcp4
  | tcp6
  | udp4
  | udp6
  | unix
deriving DecidableEq, Repr

/-- `chaos_net_endpoint_t`. -/
structure ChaosNetEndpoint where
  kind : ChaosNetEndpointKind
  selectorLen : Nat
  port : UInt16
  wildcardHost : Bool
  ipv4 : UInt32
  ipv6 : BitVec 128
  text : Bytes
deriving DecidableEq

/-- A zeroed endpoint of a kind. -/
def ChaosNetEndpoint.zeroed (kind : ChaosNetEndpointKind) : ChaosNetEndpoint :=
  ⟨kind, 0, 0, false, 0, 0, []⟩

/-- `chaos_net_rule_t`. -/
structure ChaosNetRule where
  selector : ChaosNetEndpoint
  operation : ChaosNetOperation
  effect : ChaosNetEffect
  errnum : Nat
  probability : Probability
  latencyMs : Nat
  chunkBytes : Nat
  policy : ChaosRulePolicy
  callSize : Nat
  hit : Option (SlotId chaosNetMaxRules)
  hitGeneration : Nat
deriving DecidableEq

/-- `chaos_net_config_state_t`, as a reader with a valid sequence sees it. -/
structure ChaosNetConfigState where
  parseOk : Bool
  rules : List ChaosNetRule

/-! ## Endpoints and selectors -/

/-- The rank of an IP selector of the endpoint's kind; both families share it. -/
def ipRank
    (selector endpoint : ChaosNetEndpoint) (sameAddress : Bool) : Option Nat :=
  if selector.port ≠ endpoint.port then none
  else if selector.wildcardHost then some 2
  else if !sameAddress then none
  else some 3

/--
`chaos_net_endpoint_matches`: the rank of a match; `none` where the source
returns 0.
-/
def chaosNetEndpointMatches
    (selector endpoint : ChaosNetEndpoint) : Option Nat :=
  if selector.kind = .any then
    some 1
  else if selector.kind = .unix ∧ endpoint.kind = .unix then
    if selector.text = bytes "*" then
      some 2
    else if selector.text ≠ endpoint.text then
      none
    else
      some 4
  else if selector.kind = endpoint.kind then
    match selector.kind with
    | .tcp4 | .udp4 =>
        ipRank selector endpoint (selector.ipv4 == endpoint.ipv4)
    | .tcp6 | .udp6 =>
        ipRank selector endpoint (selector.ipv6 == endpoint.ipv6)
    | .invalid | .any | .unix => none
  else
    none

/-- `chaos_net_endpoint_selector_rank`. -/
def chaosNetEndpointSelectorRank (selector : ChaosNetEndpoint) : Nat :=
  if selector.kind = .any then
    1
  else if selector.kind = .unix then
    if selector.text = bytes "*" then 2 else 4
  else
    if selector.wildcardHost then 2 else 3

theorem eq_of_ipRank
    {selector endpoint : ChaosNetEndpoint} {sameAddress : Bool} {rank : Nat}
    (matched : ipRank selector endpoint sameAddress = some rank) :
    (if selector.wildcardHost then 2 else 3) = rank := by
  unfold ipRank at matched
  split at matched
  · cases matched
  · split at matched
    · rename_i wild
      rw [if_pos wild]
      exact Option.some.inj matched
    · rename_i named
      rw [if_neg named]
      split at matched
      · cases matched
      · exact Option.some.inj matched

/-- The rank of a match is the rank of the selector, whatever the endpoint. -/
theorem selectorRank_of_matches
    {selector endpoint : ChaosNetEndpoint} {rank : Nat}
    (matched : chaosNetEndpointMatches selector endpoint = some rank) :
    chaosNetEndpointSelectorRank selector = rank := by
  unfold chaosNetEndpointMatches at matched
  unfold chaosNetEndpointSelectorRank
  by_cases isAny : selector.kind = .any
  · rw [if_pos isAny] at matched ⊢
    exact Option.some.inj matched
  · rw [if_neg isAny] at matched ⊢
    by_cases isUnix : selector.kind = .unix
    · rw [if_pos isUnix]
      by_cases both : selector.kind = .unix ∧ endpoint.kind = .unix
      · rw [if_pos both] at matched
        by_cases star : selector.text = bytes "*"
        · rw [if_pos star] at matched ⊢
          exact Option.some.inj matched
        · rw [if_neg star] at matched ⊢
          split at matched
          · cases matched
          · exact Option.some.inj matched
      · rw [if_neg both] at matched
        -- The kinds differ: a UNIX selector matches UNIX endpoints only.
        have different : ¬ selector.kind = endpoint.kind := by
          intro same
          exact both ⟨isUnix, same ▸ isUnix⟩
        rw [if_neg different] at matched
        cases matched
    · rw [if_neg isUnix]
      rw [if_neg fun both => isUnix both.1] at matched
      split at matched
      · cases kind : selector.kind with
        | tcp4 =>
            rw [kind] at matched
            exact eq_of_ipRank matched
        | tcp6 =>
            rw [kind] at matched
            exact eq_of_ipRank matched
        | udp4 =>
            rw [kind] at matched
            exact eq_of_ipRank matched
        | udp6 =>
            rw [kind] at matched
            exact eq_of_ipRank matched
        | _ =>
            rw [kind] at matched
            cases matched
      · cases matched

end ChaosLibs.Net.Rule
