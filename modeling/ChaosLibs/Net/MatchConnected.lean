import ChaosLibs.Net.Rule
import ChaosLibs.Search.FirstBest
import Mathlib.Data.Prod.Lex

/-!
# The rule of a connected socket

The searches of `chaos_net_config.c` over one rule snapshot and
`chaos_net_match_connected` over them.  The wrapper looks at the end that wins
ties first and resolves the other end only when a rule could still be more
specific there; the rule it takes is the first best of all rules that match
either end.
-/

namespace ChaosLibs.Net.MatchConnected

open ChaosLibs.Net.Rule
open ChaosLibs.Search

/-! ## The searches -/

/-- `chaos_net_best_rule_t` of a search that has found a rule, and the rule. -/
structure BestRule where
  rank : Nat
  length : Nat
  rule : ChaosNetRule

/-- Whether a rank and a selector length are more specific than what was found. -/
def BestRule.beatenBy (held : BestRule) (rank length : Nat) : Bool :=
  held.rank < rank || rank = held.rank && held.length < length

/-- One round of `chaos_net_config_select_better`. -/
def selectRound
    (operation : ChaosNetOperation) (endpoint : ChaosNetEndpoint)
    (best : Option BestRule) (rule : ChaosNetRule) : Option BestRule :=
  if rule.operation ≠ operation then
    best
  else
    match chaosNetEndpointMatches rule.selector endpoint with
    | none => best
    | some rank =>
        let found : BestRule := ⟨rank, rule.selector.selectorLen, rule⟩
        match best with
        | none => some found
        | some held =>
            if held.beatenBy rank rule.selector.selectorLen then
              some found
            else
              some held

/-- `chaos_net_config_select_better`. -/
def chaosNetConfigSelectBetter
    (rules : List ChaosNetRule) (operation : ChaosNetOperation)
    (endpoint : ChaosNetEndpoint) (best : Option BestRule) : Option BestRule :=
  rules.foldl (selectRound operation endpoint) best

/-- What `chaos_net_config_prepare` returns while the snapshot is active. -/
def chaosNetConfigPrepare (state : ChaosNetConfigState) : Bool :=
  !state.rules.isEmpty

/-- `chaos_net_config_targets_loaded`. -/
def chaosNetConfigTargetsLoaded
    (state : ChaosNetConfigState) (operation : ChaosNetOperation) : Bool :=
  state.parseOk && state.rules.any fun rule => rule.operation = operation

/-- `chaos_net_config_match_endpoint_loaded`. -/
def chaosNetConfigMatchEndpointLoaded
    (state : ChaosNetConfigState) (operation : ChaosNetOperation)
    (endpoint : ChaosNetEndpoint) : Option ChaosNetRule :=
  if !state.parseOk then
    none
  else
    (chaosNetConfigSelectBetter state.rules operation endpoint none).map
      BestRule.rule

/-- Whether a rule for the operation could beat a match on another endpoint. -/
def outranks
    (operation : ChaosNetOperation) (best : BestRule) (rule : ChaosNetRule) :
    Bool :=
  rule.operation = operation &&
    best.beatenBy (chaosNetEndpointSelectorRank rule.selector)
      rule.selector.selectorLen

/-- `chaos_net_config_match_final_loaded`. -/
def chaosNetConfigMatchFinalLoaded
    (state : ChaosNetConfigState) (operation : ChaosNetOperation)
    (endpoint : ChaosNetEndpoint) : Option ChaosNetRule :=
  if !state.parseOk then
    none
  else
    match chaosNetConfigSelectBetter state.rules operation endpoint none with
    | none => none
    | some best =>
        if state.rules.any (outranks operation best) then none
        else some best.rule

/-- The search of one end; nothing to do for an end that is not resolved. -/
def selectEnd
    (rules : List ChaosNetRule) (operation : ChaosNetOperation)
    (endpoint : Option ChaosNetEndpoint) (best : Option BestRule) :
    Option BestRule :=
  match endpoint with
  | none => best
  | some endpoint => chaosNetConfigSelectBetter rules operation endpoint best

/-- `chaos_net_config_match_either_loaded`. -/
def chaosNetConfigMatchEitherLoaded
    (state : ChaosNetConfigState) (operation : ChaosNetOperation)
    (first second : Option ChaosNetEndpoint) : Option ChaosNetRule :=
  if !state.parseOk then
    none
  else
    (selectEnd state.rules operation second
      (selectEnd state.rules operation first none)).map BestRule.rule

/-! ## The wrapper -/

/-- A descriptor: not open, not a socket, or a socket whose ends may resolve. -/
inductive Descriptor where
  | notOpen
  | notSocket
  | socket (own peer : Option ChaosNetEndpoint)

/--
`chaos_net_endpoint_from_end_fd`: the endpoint, and `not_socket`.  The name
calls fail with `EBADF` or `ENOTSOCK` on what is not a socket.
-/
def chaosNetEndpointFromEndFd :
    Descriptor → Bool → Option ChaosNetEndpoint × Bool
  | .notOpen, _ | .notSocket, _ => (none, true)
  | .socket own peer, wantsPeer => (if wantsPeer then peer else own, false)

/-- `chaos_net_match_connected`. -/
def chaosNetMatchConnected
    (state : ChaosNetConfigState) (descriptor : Descriptor)
    (operation : ChaosNetOperation) (peerFirst : Bool) :
    Option ChaosNetRule :=
  if !chaosNetConfigPrepare state ||
      !chaosNetConfigTargetsLoaded state operation then
    none
  else
    let (first, notSocket) := chaosNetEndpointFromEndFd descriptor peerFirst
    if notSocket then
      none
    else
      match first.bind (chaosNetConfigMatchFinalLoaded state operation) with
      | some rule => some rule
      | none =>
          let (second, _) := chaosNetEndpointFromEndFd descriptor !peerFirst
          chaosNetConfigMatchEitherLoaded state operation first second

/-! ## The best rule over both ends -/

/-- How specific a rule is: its selector's rank, then its selector's length. -/
def specificity (rule : ChaosNetRule) : Nat ×ₗ Nat :=
  toLex (chaosNetEndpointSelectorRank rule.selector, rule.selector.selectorLen)

/-- The rules for an operation that match an endpoint, in the file's order. -/
def matching
    (rules : List ChaosNetRule) (operation : ChaosNetOperation)
    (endpoint : ChaosNetEndpoint) : List ChaosNetRule :=
  rules.filter fun rule =>
    rule.operation = operation &&
      (chaosNetEndpointMatches rule.selector endpoint).isSome

/-- The rules that match an end of a connection. -/
def matchingEnd
    (rules : List ChaosNetRule) (operation : ChaosNetOperation) :
    Option ChaosNetEndpoint → List ChaosNetRule
  | none => []
  | some endpoint => matching rules operation endpoint

/--
The most specific of the rules that match either of two ends: the first end's
on a tie between the ends, the earlier one on a tie at one end.
-/
def bestOverEnds
    (state : ChaosNetConfigState) (operation : ChaosNetOperation)
    (first second : Option ChaosNetEndpoint) : Option ChaosNetRule :=
  if state.parseOk then
    firstBest specificity
      (matchingEnd state.rules operation first ++
        matchingEnd state.rules operation second)
  else
    none

/-- A rule as the search of `chaos_net_config_select_better` holds it. -/
def BestRule.of (rule : ChaosNetRule) : BestRule :=
  ⟨chaosNetEndpointSelectorRank rule.selector, rule.selector.selectorLen, rule⟩

section Search

variable {state : ChaosNetConfigState} {operation : ChaosNetOperation}
variable {endpoint : ChaosNetEndpoint}

/-- The comparison of the source is the comparison of specificity. -/
theorem beatenBy_iff {held rule : ChaosNetRule} :
    (BestRule.of held).beatenBy (chaosNetEndpointSelectorRank rule.selector)
        rule.selector.selectorLen = true ↔
      specificity held < specificity rule := by
  unfold specificity
  rw [Prod.Lex.toLex_lt_toLex, BestRule.beatenBy, Bool.or_eq_true,
    Bool.and_eq_true, decide_eq_true_eq, decide_eq_true_eq, decide_eq_true_eq]
  exact or_congr Iff.rfl (and_congr eq_comm Iff.rfl)

theorem selectRound_of_matches
    {best : Option ChaosNetRule} {rule : ChaosNetRule} {rank : Nat}
    (targeted : rule.operation = operation)
    (matched : chaosNetEndpointMatches rule.selector endpoint = some rank) :
    selectRound operation endpoint (best.map BestRule.of) rule =
      (keepBetter specificity best rule).map BestRule.of := by
  have selected := selectorRank_of_matches matched
  rw [selectRound, if_neg (not_not.mpr targeted), matched, ← selected]
  cases best with
  | none => rfl
  | some held =>
      change (if (BestRule.of held).beatenBy _ _ then some (BestRule.of rule)
        else some (BestRule.of held)) = _
      by_cases more : specificity held < specificity rule
      · rw [if_pos (beatenBy_iff.mpr more), keepBetter, if_pos more]
        rfl
      · rw [if_neg (mt beatenBy_iff.mp more), keepBetter, if_neg more]
        rfl

/-- The search of one endpoint is a scan of the rules that match it. -/
theorem selectBetter_eq_foldl
    (rules : List ChaosNetRule) (best : Option ChaosNetRule) :
    chaosNetConfigSelectBetter rules operation endpoint
        (best.map BestRule.of) =
      ((matching rules operation endpoint).foldl (keepBetter specificity)
        best).map BestRule.of := by
  induction rules generalizing best with
  | nil => rfl
  | cons rule rest induction =>
      have tail := @induction
      unfold chaosNetConfigSelectBetter matching at tail ⊢
      rw [List.foldl_cons]
      by_cases targeted : rule.operation = operation
      · cases matched : chaosNetEndpointMatches rule.selector endpoint with
        | none =>
            have skipped : selectRound operation endpoint
                (best.map BestRule.of) rule = best.map BestRule.of := by
              rw [selectRound, if_neg (not_not.mpr targeted), matched]
            rw [skipped, tail, List.filter_cons_of_neg]
            simp [matched]
        | some rank =>
            rw [selectRound_of_matches targeted matched, tail,
              List.filter_cons_of_pos, List.foldl_cons]
            simp [targeted, matched]
      · have skipped : selectRound operation endpoint
            (best.map BestRule.of) rule = best.map BestRule.of :=
          if_pos targeted
        rw [skipped, tail, List.filter_cons_of_neg]
        simp [targeted]

theorem selectEnd_eq_foldl
    (rules : List ChaosNetRule) (resolved : Option ChaosNetEndpoint)
    (best : Option ChaosNetRule) :
    selectEnd rules operation resolved (best.map BestRule.of) =
      ((matchingEnd rules operation resolved).foldl (keepBetter specificity)
        best).map BestRule.of := by
  cases resolved with
  | none => rfl
  | some endpoint => exact selectBetter_eq_foldl rules best

/-- The search over both ends finds the best rule over both ends. -/
theorem matchEither_eq_bestOverEnds (first second : Option ChaosNetEndpoint) :
    chaosNetConfigMatchEitherLoaded state operation first second =
      bestOverEnds state operation first second := by
  unfold chaosNetConfigMatchEitherLoaded bestOverEnds
  cases state.parseOk with
  | false => rfl
  | true =>
      have firstEnd : selectEnd state.rules operation first none = _ :=
        selectEnd_eq_foldl state.rules first none
      have back : ∀ found : Option ChaosNetRule,
          (found.map BestRule.of).map BestRule.rule = found := by
        intro found
        cases found with
        | none => rfl
        | some rule => rfl
      rw [firstEnd, selectEnd_eq_foldl, firstBest, List.foldl_append]
      exact back _

/-- The search of one endpoint finds the best rule that matches it. -/
theorem selectBetter_none
    (rules : List ChaosNetRule) :
    chaosNetConfigSelectBetter rules operation endpoint none =
      (firstBest specificity (matching rules operation endpoint)).map
        BestRule.of :=
  selectBetter_eq_foldl rules none

/-- A rule that matches an end is for the operation. -/
theorem mem_matchingEnd
    {rules : List ChaosNetRule} {resolved : Option ChaosNetEndpoint}
    {rule : ChaosNetRule} (member : rule ∈ matchingEnd rules operation resolved) :
    rule ∈ rules ∧ rule.operation = operation := by
  cases resolved with
  | none => cases member
  | some endpoint =>
      rcases List.mem_filter.mp member with ⟨loaded, matched⟩
      rw [Bool.and_eq_true, decide_eq_true_eq] at matched
      exact ⟨loaded, matched.1⟩

/-- A match that is final on one end is the best over both, whatever the other is. -/
theorem bestOverEnds_of_matchFinal
    {rule : ChaosNetRule} (second : Option ChaosNetEndpoint)
    (final : chaosNetConfigMatchFinalLoaded state operation endpoint =
      some rule) :
    bestOverEnds state operation (some endpoint) second = some rule := by
  unfold chaosNetConfigMatchFinalLoaded at final
  unfold bestOverEnds
  cases parsed : state.parseOk with
  | false =>
      rw [parsed] at final
      cases final
  | true =>
      rw [parsed, selectBetter_none] at final
      cases found : firstBest specificity
          (matching state.rules operation endpoint) with
      | none =>
          rw [found] at final
          cases final
      | some best =>
          rw [found] at final
          change (if state.rules.any (outranks operation (BestRule.of best)) then
            none else some best) = some rule at final
          split at final
          · cases final
          · rename_i unbeaten
            cases final
            apply firstBest_append_of_le found
            intro other member
            rcases mem_matchingEnd member with ⟨loaded, targeted⟩
            -- A rule of the operation that were better would outrank the match.
            by_contra better
            apply unbeaten
            rw [List.any_eq_true]
            refine ⟨other, loaded, ?_⟩
            rw [outranks, Bool.and_eq_true, decide_eq_true_eq]
            exact ⟨targeted, beatenBy_iff.mpr (not_le.mp better)⟩

/-- Without a rule for the operation nothing matches. -/
theorem bestOverEnds_of_untargeted
    (untargeted : ¬ chaosNetConfigTargetsLoaded state operation = true)
    (first second : Option ChaosNetEndpoint) :
    bestOverEnds state operation first second = none := by
  unfold bestOverEnds
  split
  · rename_i parsed
    have nothing : ∀ resolved : Option ChaosNetEndpoint,
        matchingEnd state.rules operation resolved = [] := by
      intro resolved
      rw [List.eq_nil_iff_forall_not_mem]
      intro rule member
      rcases mem_matchingEnd member with ⟨loaded, targeted⟩
      apply untargeted
      rw [chaosNetConfigTargetsLoaded, parsed, Bool.true_and, List.any_eq_true]
      exact ⟨rule, loaded, decide_eq_true targeted⟩
    rw [nothing, nothing]
    rfl
  · rfl

end Search

/-! ## The wrapper takes the best rule -/

/-- The end a wrapper looks at first, and the other one. -/
def ends (descriptor : Descriptor) (peerFirst : Bool) :
    Option ChaosNetEndpoint × Option ChaosNetEndpoint :=
  ((chaosNetEndpointFromEndFd descriptor peerFirst).1,
    (chaosNetEndpointFromEndFd descriptor !peerFirst).1)

/-- What is not a socket has no end. -/
theorem ends_of_notSocket
    {descriptor : Descriptor} {peerFirst : Bool}
    (notSocket : (chaosNetEndpointFromEndFd descriptor peerFirst).2 = true) :
    ends descriptor peerFirst = (none, none) := by
  cases descriptor with
  | notOpen => rfl
  | notSocket => rfl
  | socket own peer => cases notSocket

/-- The rule the wrapper takes is the best over both ends. -/
theorem matchConnected_eq_bestOverEnds
    (state : ChaosNetConfigState) (descriptor : Descriptor)
    (operation : ChaosNetOperation) (peerFirst : Bool) :
    chaosNetMatchConnected state descriptor operation peerFirst =
      bestOverEnds state operation (ends descriptor peerFirst).1
        (ends descriptor peerFirst).2 := by
  unfold chaosNetMatchConnected
  split
  · rename_i skipped
    have untargeted :
        ¬ chaosNetConfigTargetsLoaded state operation = true := by
      intro targeted
      rw [targeted, Bool.not_true, Bool.or_false, Bool.not_eq_true',
        chaosNetConfigPrepare, Bool.not_eq_false'] at skipped
      -- With no rule at all there is none for the operation either.
      rw [chaosNetConfigTargetsLoaded, List.isEmpty_iff.mp skipped,
        List.any_nil, Bool.and_false] at targeted
      cases targeted
    exact (bestOverEnds_of_untargeted untargeted _ _).symm
  · simp only
    split
    · rename_i notSocket
      rw [ends_of_notSocket notSocket]
      unfold bestOverEnds
      split
      · rfl
      · rfl
    · split
      · rename_i rule final
        rcases Option.bind_eq_some_iff.mp final with ⟨endpoint, resolved, final⟩
        have first : (ends descriptor peerFirst).1 = some endpoint :=
          resolved
        rw [first]
        exact (bestOverEnds_of_matchFinal _ final).symm
      · exact matchEither_eq_bestOverEnds _ _

/--
For every snapshot, descriptor and operation and either order of the ends, the
wrapper returns the rule that resolving both ends and searching them together
returns.  A rule it returns is the first of the most specific rules that match
either end, and it returns none only when no rule of a snapshot in force does.
-/
theorem matchConnected_eq_matchEither
    (state : ChaosNetConfigState) (descriptor : Descriptor)
    (operation : ChaosNetOperation) (peerFirst : Bool) :
    chaosNetMatchConnected state descriptor operation peerFirst =
        chaosNetConfigMatchEitherLoaded state operation
          (ends descriptor peerFirst).1 (ends descriptor peerFirst).2 ∧
      (∀ rule,
        chaosNetMatchConnected state descriptor operation peerFirst =
            some rule →
          ∃ before after, IsFirstBest specificity
            (matchingEnd state.rules operation (ends descriptor peerFirst).1 ++
              matchingEnd state.rules operation (ends descriptor peerFirst).2)
            rule before after) ∧
      (chaosNetMatchConnected state descriptor operation peerFirst = none →
        state.parseOk = true →
          matchingEnd state.rules operation (ends descriptor peerFirst).1 ++
            matchingEnd state.rules operation (ends descriptor peerFirst).2 =
              []) := by
  rw [matchConnected_eq_bestOverEnds, matchEither_eq_bestOverEnds]
  refine ⟨rfl, ?_, ?_⟩
  · intro rule found
    unfold bestOverEnds at found
    split at found
    · exact isFirstBest_of_firstBest found
    · cases found
  · intro nothing parsed
    rw [bestOverEnds, if_pos parsed] at nothing
    exact firstBest_eq_none.mp nothing

end ChaosLibs.Net.MatchConnected
