import ChaosLibs.Net.MatchConnected
import ChaosLibs.Search.FirstSight

/-!
# Rules as a load leaves them

What the parser of `chaos_net_config.c` makes sure of in every rule, and what
endpoints such rules can tell apart.  A rule file can name every address except
a few UNIX texts: no selector holds an empty text, a `#` or a newline, and none
ends in a blank.
-/

namespace ChaosLibs.Net.LoadedRules

open ChaosLibs.Common.CString
open ChaosLibs.Common.RulePolicy
open ChaosLibs.Net.Rule
open ChaosLibs.Net.MatchConnected
open ChaosLibs.Search

/-! ## Loaded rules -/

/-- `chaos_net_is_blank_char`. -/
def chaosNetIsBlankChar (ch : UInt8) : Bool :=
  ch == byte ' ' || ch == byte '\t' || ch == byte '\r' || ch == byte '\n'

/-- A text that can follow `unix://` in the selector field of a rule line. -/
def IsUnixText (text : Bytes) : Prop :=
  text ≠ [] ∧ text.length < 256 ∧
    (∀ ch ∈ text, ch ≠ 0 ∧ ch ≠ byte '\n' ∧ ch ≠ byte '#') ∧
      (text.getLast?.map chaosNetIsBlankChar) ≠ some true

instance (text : Bytes) : Decidable (IsUnixText text) :=
  inferInstanceAs (Decidable (_ ∧ _ ∧ _ ∧ _))

/-- `chaos_net_selector_allowed`. -/
def chaosNetSelectorAllowed
    (operation : ChaosNetOperation) (selector : ChaosNetEndpoint) : Bool :=
  match selector.kind with
  | .any => true
  | .invalid => false
  | .tcp4 | .tcp6 | .udp4 | .udp6 =>
      operation != .socket || selector.wildcardHost && selector.port == 0
  | .unix => operation != .socket || selector.text == bytes "*"

/-- `chaos_net_effect_allowed`. -/
def chaosNetEffectAllowed :
    ChaosNetOperation → ChaosNetEffect → Bool
  | _, .latency | _, .errno => true
  | operation, .corrupt | operation, .trickle | operation, .dup =>
      operation == .recv
  | operation, .timeout => operation == .poll
  | operation, .reset => operation == .close

/-- `chaos_init_net_supported`: what both modes load. -/
def chaosInitNetSupported
    (operation : ChaosNetOperation) (effect : ChaosNetEffect) : Bool :=
  effect == .errno && operation != .close || effect == .latency ||
    effect == .timeout

/-- What a load makes sure of. -/
structure Loaded (rule : ChaosNetRule) : Prop where
  allowed : chaosNetSelectorAllowed rule.operation rule.selector = true
  text : rule.selector.kind = .unix → IsUnixText rule.selector.text
  effect : chaosNetEffectAllowed rule.operation rule.effect = true
  supported : chaosInitNetSupported rule.operation rule.effect = true
  unmeasured : rule.callSize = chaosPolicyNoSize

/-- A snapshot that both modes have loaded. -/
structure Snapshot where
  state : ChaosNetConfigState
  loaded : ∀ rule ∈ state.rules, Loaded rule

/-! ## The selector of an endpoint -/

/-- The most specific selector a rule file has for an endpoint. -/
def addressSelector (endpoint : ChaosNetEndpoint) : ChaosNetEndpoint :=
  match endpoint.kind with
  | .tcp4 | .udp4 =>
      { ChaosNetEndpoint.zeroed endpoint.kind with
        port := endpoint.port
        ipv4 := endpoint.ipv4 }
  | .tcp6 | .udp6 =>
      { ChaosNetEndpoint.zeroed endpoint.kind with
        port := endpoint.port
        ipv6 := endpoint.ipv6 }
  | .unix =>
      { ChaosNetEndpoint.zeroed .unix with
        text :=
          if IsUnixText endpoint.text then endpoint.text else bytes "*" }
  | .invalid | .any => ChaosNetEndpoint.zeroed .any

/-- Whether a selector matches an endpoint. -/
def Matches (selector endpoint : ChaosNetEndpoint) : Prop :=
  (chaosNetEndpointMatches selector endpoint).isSome = true

instance (selector endpoint : ChaosNetEndpoint) :
    Decidable (Matches selector endpoint) :=
  inferInstanceAs (Decidable (_ = true))

/--
Whether an endpoint of a name hides another one: every rule that matches the
latter matches the former.
-/
def hidesEndpoint (earlier later : ChaosNetEndpoint) : Bool :=
  (chaosNetEndpointMatches (addressSelector later) earlier).isSome

theorem isUnixText_star : IsUnixText (bytes "*") := by
  decide +kernel

/-- What a selector asks of an endpoint. -/
theorem matches_iff {selector endpoint : ChaosNetEndpoint} :
    Matches selector endpoint ↔
      match selector.kind with
      | .any => True
      | .invalid => False
      | .unix =>
          endpoint.kind = .unix ∧
            (selector.text = bytes "*" ∨ selector.text = endpoint.text)
      | .tcp4 | .udp4 =>
          endpoint.kind = selector.kind ∧ selector.port = endpoint.port ∧
            (selector.wildcardHost = true ∨ selector.ipv4 = endpoint.ipv4)
      | .tcp6 | .udp6 =>
          endpoint.kind = selector.kind ∧ selector.port = endpoint.port ∧
            (selector.wildcardHost = true ∨ selector.ipv6 = endpoint.ipv6) := by
  have address : ∀ same : Bool,
      (ipRank selector endpoint same).isSome = true ↔
        selector.port = endpoint.port ∧
          (selector.wildcardHost = true ∨ same = true) := by
    intro same
    unfold ipRank
    by_cases port : selector.port = endpoint.port
    · cases selector.wildcardHost <;> cases same <;> simp [port]
    · simp [port]
  unfold Matches chaosNetEndpointMatches
  cases kind : selector.kind with
  | any => simp
  | invalid =>
      rw [if_neg nofun, if_neg (fun both => nomatch both.1)]
      split <;> simp
  | unix =>
      by_cases same : endpoint.kind = .unix
      · rw [if_neg nofun, if_pos ⟨rfl, same⟩]
        by_cases star : selector.text = bytes "*"
        · simp [star, same]
        · rw [if_neg star]
          by_cases equal : selector.text = endpoint.text
          · simp [equal, same]
          · simp [star, equal]
      · rw [if_neg nofun, if_neg fun both => same both.2,
          if_neg fun equal => same equal.symm]
        simp [same]
  | tcp4 | udp4 | tcp6 | udp6 =>
      rw [if_neg nofun, if_neg (fun both => nomatch both.1)]
      by_cases same : endpoint.kind = selector.kind
      · rw [if_pos (kind ▸ same.symm)]
        simp only [address, beq_iff_eq]
        rw [← kind]
        exact (and_iff_right same).symm
      · rw [if_neg fun equal => same (kind.trans equal).symm]
        rw [kind] at same
        simp [same]

/-- The rank of a match says no more than that there is one. -/
theorem chaosNetEndpointMatches_congr
    {selector left right : ChaosNetEndpoint}
    (same : Matches selector left ↔ Matches selector right) :
    chaosNetEndpointMatches selector left =
      chaosNetEndpointMatches selector right := by
  unfold Matches at same
  cases first : chaosNetEndpointMatches selector left with
  | none =>
      cases second : chaosNetEndpointMatches selector right with
      | none => rfl
      | some rank =>
          rw [first, second] at same
          exact absurd (same.mpr rfl) nofun
  | some rank =>
      cases second : chaosNetEndpointMatches selector right with
      | none =>
          rw [first, second] at same
          exact absurd (same.mp rfl) nofun
      | some other =>
          rw [← selectorRank_of_matches first, ← selectorRank_of_matches second]

/-- A loaded selector cannot tell an endpoint from its own selector. -/
theorem matches_addressSelector
    {selector : ChaosNetEndpoint} (endpoint : ChaosNetEndpoint)
    (text : selector.kind = .unix → IsUnixText selector.text) :
    Matches selector (addressSelector endpoint) ↔
      Matches selector endpoint := by
  rw [matches_iff, matches_iff]
  rcases endpoint with ⟨kind, length, port, wildcard, ipv4, ipv6, name⟩
  cases kind with
  | unix =>
      cases unix : selector.kind with
      | unix =>
          by_cases named : IsUnixText name
          · simp [addressSelector, ChaosNetEndpoint.zeroed, named]
          · -- No loaded selector holds this text, so only `unix://*` is left.
            have other : selector.text ≠ name := by
              intro same
              exact named (same ▸ text unix)
            simp [addressSelector, ChaosNetEndpoint.zeroed, named, other]
      | _ => simp [addressSelector, ChaosNetEndpoint.zeroed]
  | _ => cases selector.kind <;> simp [addressSelector, ChaosNetEndpoint.zeroed]

/-- The selector of an endpoint is one that a rule can have. -/
theorem isUnixText_addressSelector
    {endpoint : ChaosNetEndpoint}
    (unix : (addressSelector endpoint).kind = .unix) :
    IsUnixText (addressSelector endpoint).text := by
  rcases endpoint with ⟨kind, length, port, wildcard, ipv4, ipv6, name⟩
  cases kind with
  | unix =>
      change IsUnixText (if IsUnixText name then name else bytes "*")
      split
      · assumption
      · exact isUnixText_star
  | _ => cases unix

/-- What an endpoint of a name hides depends on the name only. -/
theorem hidesEndpoint_addressSelector {earlier later : ChaosNetEndpoint} :
    hidesEndpoint (addressSelector earlier) later = true ↔
      Matches (addressSelector later) earlier :=
  matches_addressSelector earlier isUnixText_addressSelector

theorem matches_self (endpoint : ChaosNetEndpoint) :
    Matches (addressSelector endpoint) endpoint := by
  rw [matches_iff]
  rcases endpoint with ⟨kind, length, port, wildcard, ipv4, ipv6, name⟩
  cases kind with
  | unix =>
      refine ⟨rfl, ?_⟩
      change (if IsUnixText name then name else bytes "*") = bytes "*" ∨
        (if IsUnixText name then name else bytes "*") = name
      split
      · exact Or.inr rfl
      · exact Or.inl rfl
  | tcp4 | udp4 | tcp6 | udp6 => exact ⟨rfl, rfl, Or.inr rfl⟩
  | invalid | any => trivial

/-- Every rule that matches a hidden endpoint matches the one that hides it. -/
theorem matches_of_hides
    {selector earlier later : ChaosNetEndpoint}
    (text : selector.kind = .unix → IsUnixText selector.text)
    (hidden : Matches (addressSelector later) earlier)
    (matched : Matches selector later) :
    Matches selector earlier := by
  rw [matches_iff] at hidden matched ⊢
  rcases later with ⟨kind, length, port, wildcard, ipv4, ipv6, name⟩
  cases kind with
  | unix =>
      cases unix : selector.kind with
      | unix =>
          simp only [unix] at matched
          rcases hidden with ⟨isUnix, covered⟩
          refine ⟨isUnix, ?_⟩
          rcases matched.2 with star | same
          · exact Or.inl star
          · have named : IsUnixText name := same ▸ text unix
            change (if IsUnixText name then name else bytes "*") = bytes "*" ∨
              (if IsUnixText name then name else bytes "*") =
                earlier.text at covered
            rw [if_pos named] at covered
            rw [same]
            exact covered
      | any => trivial
      | _ => simp [unix] at matched
  | tcp4 | udp4 | tcp6 | udp6 =>
      rcases hidden with ⟨sameKind, samePort, wild | sameAddress⟩
      · cases wild
      · change earlier.kind = _ at sameKind
        change port = earlier.port at samePort
        cases kind : selector.kind with
        | any => trivial
        | _ => simp_all [addressSelector, ChaosNetEndpoint.zeroed]
  | invalid | any =>
      cases kind : selector.kind with
      | any => trivial
      | _ => simp_all

/-- Endpoints that hide each other have one name. -/
theorem addressSelector_eq_of_hides
    {left right : ChaosNetEndpoint}
    (first : Matches (addressSelector left) right)
    (second : Matches (addressSelector right) left) :
    addressSelector left = addressSelector right := by
  rw [matches_iff] at first second
  rcases left with ⟨kind, length, port, wildcard, ipv4, ipv6, name⟩
  rcases right with ⟨kind', length', port', wildcard', ipv4', ipv6', name'⟩
  cases kind with
  | unix =>
      cases kind' with
      | unix =>
          by_cases named : IsUnixText name
          · by_cases named' : IsUnixText name'
            · simp_all [addressSelector, ChaosNetEndpoint.zeroed]
              grind
            · have other : name ≠ name' := fun same => named' (same ▸ named)
              simp_all [addressSelector, ChaosNetEndpoint.zeroed]
          · by_cases named' : IsUnixText name'
            · have other : name' ≠ name := fun same => named (same ▸ named')
              simp_all [addressSelector, ChaosNetEndpoint.zeroed]
            · simp_all [addressSelector, ChaosNetEndpoint.zeroed]
      | _ => simp [addressSelector, ChaosNetEndpoint.zeroed] at first
  | _ =>
      cases kind' <;>
        simp_all [addressSelector, ChaosNetEndpoint.zeroed]

theorem one_le_selectorRank (selector : ChaosNetEndpoint) :
    1 ≤ chaosNetEndpointSelectorRank selector := by
  unfold chaosNetEndpointSelectorRank
  split_ifs <;> decide

/-- The text of a UNIX endpoint's selector. -/
theorem text_addressSelector
    {endpoint : ChaosNetEndpoint} (unix : endpoint.kind = .unix) :
    (addressSelector endpoint).kind = .unix ∧
      (addressSelector endpoint).text =
        if IsUnixText endpoint.text then endpoint.text else bytes "*" := by
  rcases endpoint with ⟨kind, length, port, wildcard, ipv4, ipv6, name⟩
  cases unix
  exact ⟨rfl, rfl⟩

/-- The selector of an IP endpoint names one address. -/
theorem selectorRank_of_ip
    {endpoint : ChaosNetEndpoint} (notAny : endpoint.kind ≠ .any)
    (notInvalid : endpoint.kind ≠ .invalid) (notUnix : endpoint.kind ≠ .unix) :
    chaosNetEndpointSelectorRank (addressSelector endpoint) = 3 := by
  rcases endpoint with ⟨kind, length, port, wildcard, ipv4, ipv6, name⟩
  cases kind with
  | any => exact absurd rfl notAny
  | invalid => exact absurd rfl notInvalid
  | unix => exact absurd rfl notUnix
  | _ => rfl

/--
The selector of a hidden endpoint is no more specific than the one of the
endpoint that hides it.
-/
theorem selectorRank_le_of_hides
    {earlier later : ChaosNetEndpoint}
    (hidden : Matches (addressSelector later) earlier) :
    chaosNetEndpointSelectorRank (addressSelector later) ≤
      chaosNetEndpointSelectorRank (addressSelector earlier) := by
  have text : (addressSelector later).kind = .unix →
      IsUnixText (addressSelector later).text := isUnixText_addressSelector
  rw [matches_iff] at hidden
  cases kind : (addressSelector later).kind with
  | any =>
      have lowest : chaosNetEndpointSelectorRank (addressSelector later) = 1 :=
        if_pos kind
      rw [lowest]
      exact one_le_selectorRank _
  | invalid =>
      rw [kind] at hidden
      exact hidden.elim
  | unix =>
      rw [kind] at hidden
      rcases hidden with ⟨isUnix, covered⟩
      rcases text_addressSelector isUnix with ⟨isSelector, named⟩
      unfold chaosNetEndpointSelectorRank
      rw [kind, isSelector]
      simp only [reduceCtorEq, if_false, if_true]
      rcases covered with star | same
      · rw [if_pos star]
        split_ifs <;> decide
      · rw [if_pos (same ▸ text kind)] at named
        rw [named, same]
  | tcp4 | tcp6 | udp4 | udp6 =>
      rw [kind] at hidden
      have earlierRank :
          chaosNetEndpointSelectorRank (addressSelector earlier) = 3 := by
        apply selectorRank_of_ip
        · rw [hidden.1]
          nofun
        · rw [hidden.1]
          nofun
        · rw [hidden.1]
          nofun
      rw [earlierRank]
      unfold chaosNetEndpointSelectorRank
      rw [kind]
      simp only [reduceCtorEq, if_false]
      split
      · decide
      · decide

/-! ## The rule of one endpoint -/

theorem matchEndpointLoaded_eq
    (state : ChaosNetConfigState) (operation : ChaosNetOperation)
    (endpoint : ChaosNetEndpoint) :
    chaosNetConfigMatchEndpointLoaded state operation endpoint =
      bestOverEnds state operation (some endpoint) none := by
  rw [← matchEither_eq_bestOverEnds]
  rfl

theorem bestOverEnds_of_parsed
    {state : ChaosNetConfigState} (parsed : state.parseOk = true)
    (operation : ChaosNetOperation) (first second : Option ChaosNetEndpoint) :
    bestOverEnds state operation first second =
      firstBest specificity
        (matchingEnd state.rules operation first ++
          matchingEnd state.rules operation second) :=
  if_pos parsed

theorem mem_matching
    {rules : List ChaosNetRule} {operation : ChaosNetOperation}
    {endpoint : ChaosNetEndpoint} {rule : ChaosNetRule} :
    rule ∈ matching rules operation endpoint ↔
      rule ∈ rules ∧ rule.operation = operation ∧
        Matches rule.selector endpoint := by
  unfold matching Matches
  rw [List.mem_filter, Bool.and_eq_true, decide_eq_true_eq]

theorem matching_addressSelector
    (snapshot : Snapshot) (operation : ChaosNetOperation)
    (endpoint : ChaosNetEndpoint) :
    matching snapshot.state.rules operation (addressSelector endpoint) =
      matching snapshot.state.rules operation endpoint := by
  unfold matching
  apply List.filter_congr
  intro rule member
  rw [chaosNetEndpointMatches_congr
    (matches_addressSelector endpoint (snapshot.loaded rule member).text)]

/-- A snapshot's rules are told an endpoint by its name. -/
theorem matchEndpointLoaded_addressSelector
    (snapshot : Snapshot) (operation : ChaosNetOperation)
    (endpoint : ChaosNetEndpoint) :
    chaosNetConfigMatchEndpointLoaded snapshot.state operation
        (addressSelector endpoint) =
      chaosNetConfigMatchEndpointLoaded snapshot.state operation endpoint := by
  rw [matchEndpointLoaded_eq, matchEndpointLoaded_eq]
  have same := matching_addressSelector snapshot operation endpoint
  unfold bestOverEnds
  exact congrArg
    (fun rules => if snapshot.state.parseOk then
      firstBest specificity (rules ++ []) else none) same

/-- The rules that match a hidden endpoint match the one that hides it. -/
theorem matching_subset_of_hides
    (snapshot : Snapshot) (operation : ChaosNetOperation)
    {earlier later : ChaosNetEndpoint}
    (hidden : Matches (addressSelector later) earlier) :
    matching snapshot.state.rules operation later ⊆
      matching snapshot.state.rules operation earlier := by
  intro rule member
  rcases mem_matching.mp member with ⟨loaded, targeted, matched⟩
  have covered := matches_of_hides (snapshot.loaded rule loaded).text hidden
    matched
  exact mem_matching.mpr ⟨loaded, targeted, covered⟩

/-! ## Snapshots that tell endpoints apart -/

/-- A rule on the address of an endpoint. -/
def namingRule
    (operation : ChaosNetOperation) (endpoint : ChaosNetEndpoint) :
    ChaosNetRule where
  selector := addressSelector endpoint
  operation := operation
  effect := .latency
  errnum := 0
  probability := ⟨0, 1⟩
  latencyMs := 1
  chunkBytes := 0
  policy := {}
  callSize := chaosPolicyNoSize
  hit := none
  hitGeneration := 0

theorem loaded_namingRule
    {operation : ChaosNetOperation} (addressed : operation ≠ .socket)
    (endpoint : ChaosNetEndpoint) :
    Loaded (namingRule operation endpoint) where
  allowed := by
    have other : (operation != .socket) = true := bne_iff_ne.mpr addressed
    change chaosNetSelectorAllowed operation (addressSelector endpoint) = true
    unfold chaosNetSelectorAllowed
    rw [other]
    rcases endpoint with ⟨kind, length, port, wildcard, ipv4, ipv6, name⟩
    cases kind <;> rfl
  text := isUnixText_addressSelector
  effect := by
    cases operation <;> rfl
  supported := by
    cases operation <;> rfl
  unmeasured := rfl

/-- A snapshot with a rule on the address of each endpoint. -/
def naming
    {operation : ChaosNetOperation} (addressed : operation ≠ .socket)
    (endpoints : List ChaosNetEndpoint) : Snapshot where
  state := ⟨true, endpoints.map (namingRule operation)⟩
  loaded := by
    intro rule member
    rcases List.mem_map.mp member with ⟨endpoint, -, rfl⟩
    exact loaded_namingRule addressed endpoint

section Naming

variable {operation : ChaosNetOperation} (addressed : operation ≠ .socket)

theorem matching_naming
    (endpoints : List ChaosNetEndpoint) (endpoint : ChaosNetEndpoint) :
    matching (naming addressed endpoints).state.rules operation endpoint =
      (endpoints.filter fun named =>
        Matches (addressSelector named) endpoint).map (namingRule operation) := by
  unfold matching
  change (endpoints.map (namingRule operation)).filter _ = _
  rw [List.filter_map]
  congr 1
  apply List.filter_congr
  intro named _
  change (decide (operation = operation) && _) = _
  rw [decide_eq_true rfl, Bool.true_and]
  exact (Bool.decide_eq_true).symm

theorem match_naming
    (endpoints : List ChaosNetEndpoint) (endpoint : ChaosNetEndpoint) :
    chaosNetConfigMatchEndpointLoaded (naming addressed endpoints).state
        operation endpoint =
      firstBest specificity
        ((endpoints.filter fun named =>
          Matches (addressSelector named) endpoint).map
            (namingRule operation)) := by
  rw [matchEndpointLoaded_eq, bestOverEnds_of_parsed rfl]
  change firstBest specificity (matching _ operation endpoint ++ []) = _
  rw [List.append_nil, matching_naming]

/-- A snapshot of one rule matches what hides the endpoint the rule is on. -/
theorem isSome_match_naming_singleton
    {named endpoint : ChaosNetEndpoint} :
    (chaosNetConfigMatchEndpointLoaded (naming addressed [named]).state
        operation endpoint).isSome = true ↔
      Matches (addressSelector named) endpoint := by
  rw [match_naming]
  by_cases matched : Matches (addressSelector named) endpoint
  · rw [List.filter_cons_of_pos (by simpa using matched)]
    exact iff_of_true rfl matched
  · rw [List.filter_cons_of_neg (by simpa using matched)]
    exact iff_of_false nofun matched

/-- A snapshot of two rules tells apart two endpoints, neither hidden by the other's name. -/
theorem match_naming_pair
    {first second : ChaosNetEndpoint}
    (apart : ¬ Matches (addressSelector first) second) :
    chaosNetConfigMatchEndpointLoaded (naming addressed [first, second]).state
        operation first = some (namingRule operation first) ∧
      chaosNetConfigMatchEndpointLoaded
          (naming addressed [first, second]).state operation second =
        some (namingRule operation second) := by
  rw [match_naming, match_naming]
  constructor
  · rw [List.filter_cons_of_pos (by simpa using matches_self first)]
    by_cases both : Matches (addressSelector second) first
    · rw [List.filter_cons_of_pos (by simpa using both)]
      -- The rule on the hidden endpoint is the less specific of the two.
      have notBetter : ¬ specificity (namingRule operation first) <
          specificity (namingRule operation second) := by
        have length : ∀ endpoint, (addressSelector endpoint).selectorLen = 0 := by
          rintro ⟨kind, length, port, wildcard, ipv4, ipv6, name⟩
          cases kind <;> rfl
        unfold specificity
        rw [Prod.Lex.toLex_lt_toLex]
        rintro (higher | ⟨-, longer⟩)
        · exact absurd higher (not_lt.mpr (selectorRank_le_of_hides both))
        · change (addressSelector first).selectorLen <
            (addressSelector second).selectorLen at longer
          rw [length, length] at longer
          exact absurd longer (lt_irrefl 0)
      exact if_neg notBetter
    · rw [List.filter_cons_of_neg (by simpa using both)]
      rfl
  · rw [List.filter_cons_of_neg (by simpa using apart),
      List.filter_cons_of_pos (by simpa using matches_self second)]
    rfl

/-- The searches that loaded snapshots make of one endpoint. -/
def endpointSearches (operation : ChaosNetOperation) :
    Set (ChaosNetEndpoint → Option ChaosNetRule) :=
  {search | ∃ snapshot : Snapshot,
    search = chaosNetConfigMatchEndpointLoaded snapshot.state operation}

include addressed

theorem exists_blind_search
    {seen : List ChaosNetEndpoint} {endpoints : List ChaosNetEndpoint}
    (unhidden : ∀ endpoint ∈ endpoints, Unhidden hidesEndpoint seen endpoint) :
    Blind addressSelector seen
      (chaosNetConfigMatchEndpointLoaded (naming addressed endpoints).state
        operation) := by
  intro endpoint came
  rw [match_naming, firstBest_eq_none, List.map_eq_nil_iff,
    List.filter_eq_nil_iff]
  intro named member matched
  have shownFirst := unhidden named member (addressSelector endpoint) came
  exact Bool.eq_false_iff.mp shownFirst
    (hidesEndpoint_addressSelector.mpr (of_decide_eq_true matched))

/-- Loaded snapshots tell endpoints of different names apart. -/
theorem separates_endpointSearches :
    Separates addressSelector hidesEndpoint (endpointSearches operation) where
  reflexive endpoint :=
    hidesEndpoint_addressSelector.mpr (matches_self endpoint)
  factors := by
    rintro search ⟨snapshot, rfl⟩ left right same
    rw [← matchEndpointLoaded_addressSelector snapshot operation left, same,
      matchEndpointLoaded_addressSelector]
  respects := by
    rintro search ⟨snapshot, rfl⟩ earlier later hidden nothing
    rw [hidesEndpoint_addressSelector] at hidden
    have fewer := matching_subset_of_hides snapshot operation hidden
    rw [matchEndpointLoaded_eq] at nothing ⊢
    unfold bestOverEnds at nothing ⊢
    split
    · rename_i parsed
      rw [if_pos parsed, firstBest_eq_none] at nothing
      rw [firstBest_eq_none]
      apply List.append_eq_nil_iff.mpr
      refine ⟨?_, rfl⟩
      exact List.subset_nil.mp
        ((List.append_eq_nil_iff.mp nothing).1 ▸ fewer)
    · rfl
  detects seen endpoint unhidden := by
    refine ⟨_, ⟨naming addressed [endpoint], rfl⟩, ?_, ?_⟩
    · apply exists_blind_search
      intro named member
      rw [List.mem_singleton.mp member]
      exact unhidden
    · exact (isSome_match_naming_singleton addressed).mpr (matches_self endpoint)
  tells seen left right unhidden unhidden' different := by
    have apart : ¬ Matches (addressSelector left) right ∨
        ¬ Matches (addressSelector right) left := by
      by_contra both
      rw [not_or, not_not, not_not] at both
      exact different (addressSelector_eq_of_hides both.1 both.2)
    have tell : ∀ {first second : ChaosNetEndpoint},
        Unhidden hidesEndpoint seen first →
        Unhidden hidesEndpoint seen second →
        addressSelector first ≠ addressSelector second →
        ¬ Matches (addressSelector first) second →
          ∃ search ∈ endpointSearches operation,
            Blind addressSelector seen search ∧ (search first).isSome ∧
              (search second).isSome ∧ search first ≠ search second := by
      intro first second shownFirst shownSecond other unmatched
      rcases match_naming_pair addressed unmatched with ⟨one, two⟩
      refine ⟨_, ⟨naming addressed [first, second], rfl⟩, ?_, ?_, ?_, ?_⟩
      · apply exists_blind_search
        intro named member
        rcases List.mem_cons.mp member with rfl | member
        · exact shownFirst
        · rw [List.mem_singleton.mp member]
          exact shownSecond
      · rw [one]
        rfl
      · rw [two]
        rfl
      · rw [one, two]
        intro same
        exact other (congrArg ChaosNetRule.selector (Option.some.inj same))
    rcases apart with unmatched | unmatched
    · exact tell unhidden unhidden' different unmatched
    · rcases tell unhidden' unhidden different.symm unmatched with
        ⟨search, member, blind, second, first, other⟩
      exact ⟨search, member, blind, first, second, other.symm⟩

/-- Some rule of some snapshot matches the end of a connection that resolves. -/
theorem exists_bestOverEnds_iff
    {first second : Option ChaosNetEndpoint} :
    (∃ snapshot : Snapshot,
        bestOverEnds snapshot.state operation first second ≠ none) ↔
      first ≠ none ∨ second ≠ none := by
  constructor
  · rintro ⟨snapshot, found⟩
    by_contra neither
    rw [not_or, not_not, not_not] at neither
    rw [neither.1, neither.2] at found
    unfold bestOverEnds at found
    split at found
    · exact found rfl
    · exact found rfl
  · intro resolved
    have one : ∃ endpoint, first = some endpoint ∨ second = some endpoint := by
      rcases resolved with there | there
      · rcases Option.ne_none_iff_exists'.mp there with ⟨endpoint, rfl⟩
        exact ⟨endpoint, Or.inl rfl⟩
      · rcases Option.ne_none_iff_exists'.mp there with ⟨endpoint, rfl⟩
        exact ⟨endpoint, Or.inr rfl⟩
    rcases one with ⟨endpoint, found⟩
    refine ⟨naming addressed [endpoint], ?_⟩
    rw [bestOverEnds_of_parsed rfl, ne_eq, firstBest_eq_none]
    intro empty
    have member : namingRule operation endpoint ∈
        matching (naming addressed [endpoint]).state.rules operation
          endpoint :=
      mem_matching.mpr ⟨List.mem_singleton.mpr rfl, rfl, matches_self endpoint⟩
    rcases List.append_eq_nil_iff.mp empty with ⟨noFirst, noSecond⟩
    rcases found with rfl | rfl
    · rw [matchingEnd] at noFirst
      rw [noFirst] at member
      cases member
    · rw [matchingEnd] at noSecond
      rw [noSecond] at member
      cases member

/--
Looking at a second end never changes the rule exactly when the first end is
one that hides it.
-/
theorem bestOverEnds_second_iff
    {first : Option ChaosNetEndpoint} {second : ChaosNetEndpoint} :
    (∀ snapshot : Snapshot,
        bestOverEnds snapshot.state operation first (some second) =
          bestOverEnds snapshot.state operation first none) ↔
      ∃ endpoint, first = some endpoint ∧
        Matches (addressSelector second) endpoint := by
  constructor
  · intro agree
    -- The rule on the second end alone has to match the first end, too.
    have same := agree (naming addressed [second])
    rw [bestOverEnds_of_parsed rfl, bestOverEnds_of_parsed rfl] at same
    have found : firstBest specificity
        (matchingEnd (naming addressed [second]).state.rules operation first ++
          matching (naming addressed [second]).state.rules operation second) ≠
            none := by
      intro nothing
      have member : namingRule operation second ∈
          matching (naming addressed [second]).state.rules operation second :=
        mem_matching.mpr ⟨List.mem_singleton.mpr rfl, rfl, matches_self second⟩
      rw [(List.append_eq_nil_iff.mp (firstBest_eq_none.mp nothing)).2] at member
      cases member
    cases first with
    | none => exact absurd same found
    | some endpoint =>
        refine ⟨endpoint, rfl, ?_⟩
        by_contra unmatched
        have nothing : matchingEnd (naming addressed [second]).state.rules
            operation (some endpoint) = [] := by
          change matching _ operation endpoint = []
          rw [matching_naming, List.filter_cons_of_neg (by simpa using unmatched)]
          rfl
        rw [nothing] at same found
        exact found same
  · rintro ⟨endpoint, rfl, hidden⟩ snapshot
    unfold bestOverEnds
    split
    · have fewer := matching_subset_of_hides snapshot operation hidden
      change firstBest specificity
        (matching snapshot.state.rules operation endpoint ++
          matching snapshot.state.rules operation second) =
        firstBest specificity
          (matching snapshot.state.rules operation endpoint ++ [])
      rw [List.append_nil]
      cases found : firstBest specificity
          (matching snapshot.state.rules operation endpoint) with
      | none =>
          rw [firstBest_eq_none] at found
          rw [found] at fewer ⊢
          rw [List.subset_nil.mp fewer]
          rfl
      | some best =>
          apply firstBest_append_of_le found
          intro other member
          rcases isFirstBest_of_firstBest found with
            ⟨before, after, split, worse, notBetter⟩
          have listed := fewer member
          rw [split, List.mem_append, List.mem_cons] at listed
          rcases listed with earlier | rfl | later
          · exact le_of_lt (worse other earlier)
          · exact le_refl _
          · exact notBetter other later
    · rfl

end Naming

/-- A rule that is matched is one of the snapshot's. -/
theorem loaded_of_bestOverEnds
    {snapshot : Snapshot} {operation : ChaosNetOperation}
    {first second : Option ChaosNetEndpoint} {rule : ChaosNetRule}
    (found : bestOverEnds snapshot.state operation first second = some rule) :
    Loaded rule := by
  unfold bestOverEnds at found
  split at found
  · rcases isFirstBest_of_firstBest found with ⟨before, after, split, -, -⟩
    have listed : rule ∈ matchingEnd snapshot.state.rules operation first ++
        matchingEnd snapshot.state.rules operation second := by
      rw [split]
      exact List.mem_append_right _ List.mem_cons_self
    rcases List.mem_append.mp listed with member | member
    · exact snapshot.loaded rule (mem_matchingEnd member).1
    · exact snapshot.loaded rule (mem_matchingEnd member).1
  · cases found

end ChaosLibs.Net.LoadedRules
