import ChaosLibs.Common.RuleSelection
import ChaosLibs.Dns.ConfigParser

/-!
# The rule for a host name

`chaos_dns_config_select_rule_domain` against what it is for: of the rules of an effect and
a domain whose selector matches a name, the first of the most specific ones.  Names and
host texts are compared without regard to ASCII case, as `tolower` of the C locale folds it.
-/

namespace ChaosLibs.Dns.SelectRule

open ChaosLibs.Common.CString
open ChaosLibs.Common.RuleSelection
open ChaosLibs.Dns.ConfigParser
open ChaosLibs.Search

/-! ## The code -/

/-- `chaos_dns_ascii_case_equal`. -/
def chaosDnsAsciiCaseEqual : Bytes → Bytes → Bool
  | left :: lefts, right :: rights =>
      if toLower left != toLower right then false
      else chaosDnsAsciiCaseEqual lefts rights
  | [], [] => true
  | _, _ => false

/-- `chaos_dns_ascii_case_ends_with`. -/
def chaosDnsAsciiCaseEndsWith (text suffix : Bytes) : Bool :=
  if text.length < suffix.length then false
  else chaosDnsAsciiCaseEqual (text.drop (text.length - suffix.length)) suffix

/-- `chaos_dns_selector_matches_domain`: the rank of a match. -/
def chaosDnsSelectorMatchesDomain (selector : ChaosDnsSelector)
    (domain : ChaosDnsSelectorDomain) (name : Bytes) : Option Nat :=
  if name = [] ∨ selector.domain ≠ domain then none
  else if selector.kind = .any then some 1
  else if selector.kind = .exact then
    if chaosDnsAsciiCaseEqual selector.text name then some 3 else none
  else if domain ≠ .lookup ∨ selector.kind ≠ .suffix then none
  else if name.length ≤ selector.text.length then none
  else if !chaosDnsAsciiCaseEndsWith name selector.text then none
  -- A dot must come right before the suffix.
  else if name[name.length - selector.text.length - 1]? ≠ some (byte '.') then none
  else some 2

/-- The rank with which a rule of an effect matches. -/
def matchRank (effect : ChaosDnsEffect) (domain : ChaosDnsSelectorDomain) (name : Bytes)
    (rule : ChaosDnsRule) : Option Nat :=
  if rule.effect ≠ effect then none
  else chaosDnsSelectorMatchesDomain rule.selector domain name

/-- `chaos_dns_config_select_rule_domain`. -/
def chaosDnsConfigSelectRuleDomain (rules : List ChaosDnsRule) (effect : ChaosDnsEffect)
    (domain : ChaosDnsSelectorDomain) (name : Bytes) : Option ChaosDnsRule :=
  selectRule (matchRank effect domain name) (fun rule => rule.selector.selectorLen) rules

/-! ## What a selector matches -/

/-- Texts that differ in the case of ASCII letters only. -/
def SameCase (left right : Bytes) : Prop :=
  left.map toLower = right.map toLower

/-- A name that is asked for. -/
structure QueryName where
  text : Bytes
  ne_nil : text ≠ []

/-- A selector matches a name: `*` every name, `*.s` the names that end with `.s`. -/
def Matches (selector : ChaosDnsSelector) (name : Bytes) : Prop :=
  match selector.kind with
  | .any => True
  | .exact => SameCase name selector.text
  | .suffix =>
      selector.domain = .lookup ∧
        ∃ front, SameCase name (front ++ byte '.' :: selector.text)

/-- The rules of an effect and a domain that match a name. -/
def Applies (effect : ChaosDnsEffect) (domain : ChaosDnsSelectorDomain) (name : Bytes)
    (rule : ChaosDnsRule) : Prop :=
  rule.effect = effect ∧ rule.selector.domain = domain ∧ Matches rule.selector name

/-- A host before a suffix before every name. -/
def kindRank : ChaosDnsSelectorKind → Nat
  | .any => 1
  | .suffix => 2
  | .exact => 3

/-- The order of rules: the kind, then the length of the selector as written. -/
def precedence (rule : ChaosDnsRule) : Nat ×ₗ Nat :=
  toLex (kindRank rule.selector.kind, rule.selector.selectorLen)

/-- A rule whose host text is written in another case. -/
def Recased (rule other : ChaosDnsRule) : Prop :=
  ∃ text, SameCase rule.selector.text text ∧
    other = { rule with selector := { rule.selector with text := text } }

/-! ## The comparisons -/

theorem chaosDnsAsciiCaseEqual_iff (left right : Bytes) :
    chaosDnsAsciiCaseEqual left right = true ↔ SameCase left right := by
  induction left generalizing right with
  | nil =>
      cases right with
      | nil => exact iff_of_true rfl rfl
      | cons ch rest => exact iff_of_false Bool.false_ne_true (List.cons_ne_nil _ _).symm
  | cons first lefts induction =>
      cases right with
      | nil => exact iff_of_false Bool.false_ne_true (List.cons_ne_nil _ _)
      | cons second rights =>
          rw [chaosDnsAsciiCaseEqual, SameCase, List.map_cons, List.map_cons,
            List.cons_eq_cons, ← SameCase, ← induction rights]
          split
          · next differ =>
              exact iff_of_false Bool.false_ne_true fun same => bne_iff_ne.mp differ same.1
          · next same =>
              rw [bne_iff_ne, not_not] at same
              exact (and_iff_right same).symm

theorem SameCase.length {left right : Bytes} (same : SameCase left right) :
    left.length = right.length := by
  have := congrArg List.length same
  rwa [List.length_map, List.length_map] at this

theorem toLower_eq_dot {ch : UInt8} : toLower ch = byte '.' ↔ ch = byte '.' := by
  rw [toLower]
  split
  · next upper =>
      obtain ⟨lower, -⟩ := Bool.and_eq_true_iff.mp upper
      have letter : byte 'A' ≤ ch := of_decide_eq_true lower
      refine iff_of_false (fun same => ?_) (fun same => ?_)
      · have dot : ch = byte '.' - 32 := by rw [← same, UInt8.add_sub_cancel]
        exact absurd letter (dot ▸ by decide)
      · exact absurd letter (same ▸ by decide)
  · exact Iff.rfl

/-- The test of a suffix on offsets from the ends, and the name in three parts. -/
theorem suffixTest_iff (name suffix : Bytes) :
    (suffix.length < name.length ∧ chaosDnsAsciiCaseEndsWith name suffix = true ∧
        name[name.length - suffix.length - 1]? = some (byte '.')) ↔
      ∃ front, SameCase name (front ++ byte '.' :: suffix) := by
  constructor
  · rintro ⟨longer, ends, dot⟩
    obtain ⟨start, next⟩ : ∃ start, name.length - suffix.length = start + 1 :=
      ⟨name.length - suffix.length - 1, by omega⟩
    rw [chaosDnsAsciiCaseEndsWith, if_neg (Nat.not_lt.mpr longer.le),
      chaosDnsAsciiCaseEqual_iff, next] at ends
    rw [next, Nat.add_sub_cancel] at dot
    obtain ⟨inside, here⟩ := List.getElem?_eq_some_iff.mp dot
    have parts : name.take start ++ byte '.' :: name.drop (start + 1) = name := by
      rw [← here, ← List.drop_eq_getElem_cons inside, List.take_append_drop]
    refine ⟨name.take start, ?_⟩
    calc
      name.map toLower
          = (name.take start).map toLower ++
              toLower (byte '.') :: (name.drop (start + 1)).map toLower := by
            rw [← List.map_cons, ← List.map_append, parts]
      _ = _ := by rw [ends, List.map_append, List.map_cons]
  · rintro ⟨front, same⟩
    have length := same.length
    rw [List.length_append, List.length_cons] at length
    have start : name.length - suffix.length = front.length + 1 := by omega
    rw [SameCase, List.map_append, List.map_cons] at same
    refine ⟨by omega, ?_, ?_⟩
    · rw [chaosDnsAsciiCaseEndsWith, if_neg (by omega), chaosDnsAsciiCaseEqual_iff, start,
        SameCase, List.map_drop, same, ← List.drop_drop, List.drop_left' (List.length_map _)]
      rfl
    · have folded : (name.map toLower)[front.length]? = some (byte '.') := by
        rw [same, List.getElem?_append_right (List.length_map _).le, List.length_map,
          Nat.sub_self]
        rfl
      rw [List.getElem?_map] at folded
      obtain ⟨ch, here, dot⟩ := Option.map_eq_some_iff.mp folded
      rw [start, Nat.add_sub_cancel, here, toLower_eq_dot.mp dot]

/-! ## The rank of a match -/

/-- A selector matches with the rank of its kind. -/
theorem matchesDomain_iff (selector : ChaosDnsSelector) (domain : ChaosDnsSelectorDomain)
    (name : QueryName) (rank : Nat) :
    chaosDnsSelectorMatchesDomain selector domain name.text = some rank ↔
      selector.domain = domain ∧ Matches selector name.text ∧ rank = kindRank selector.kind := by
  rw [chaosDnsSelectorMatchesDomain]
  by_cases same : selector.domain = domain
  · rw [if_neg (by simp [same, name.ne_nil]), Matches]
    cases kind : selector.kind with
    | any => simp [same, kindRank, eq_comm]
    | exact =>
        rw [if_neg (by decide), if_pos rfl]
        by_cases equal : SameCase name.text selector.text
        · rw [if_pos ((chaosDnsAsciiCaseEqual_iff _ _).mpr equal.symm)]
          simp [same, equal, kindRank, eq_comm]
        · rw [if_neg (mt (chaosDnsAsciiCaseEqual_iff _ _).mp fun equal' => equal equal'.symm)]
          simp [equal]
    | suffix =>
        rw [if_neg (by decide), if_neg (by decide)]
        change _ ↔ selector.domain = domain ∧
          (selector.domain = .lookup ∧
            ∃ front, SameCase name.text (front ++ byte '.' :: selector.text)) ∧ rank = 2
        rw [← suffixTest_iff, same]
        by_cases lookup : domain = .lookup
        · rw [if_neg (by simp [lookup])]
          by_cases longer : selector.text.length < name.text.length
          · rw [if_neg (Nat.not_le.mpr longer)]
            cases chaosDnsAsciiCaseEndsWith name.text selector.text with
            | false => simp
            | true => simp [lookup, longer, eq_comm]
          · rw [if_pos (Nat.not_lt.mp longer)]
            simp [longer]
        · rw [if_pos (.inl lookup)]
          simp [lookup]
  · rw [if_pos (.inr same)]
    exact iff_of_false (by simp) fun matched => same matched.1

variable {effect : ChaosDnsEffect} {domain : ChaosDnsSelectorDomain}

theorem matchRank_iff (name : QueryName) (rule : ChaosDnsRule) (rank : Nat) :
    matchRank effect domain name.text rule = some rank ↔
      Applies effect domain name.text rule ∧ rank = kindRank rule.selector.kind := by
  rw [matchRank, Applies]
  by_cases same : rule.effect = effect
  · rw [if_neg (not_not.mpr same), matchesDomain_iff]
    simp only [same, true_and, and_assoc]
  · rw [if_pos same]
    exact iff_of_false (by simp) fun applies => same applies.1.1

theorem ranked_iff (name : QueryName) (rule : ChaosDnsRule) :
    Ranked (matchRank effect domain name.text) rule ↔ Applies effect domain name.text rule := by
  rw [Ranked, Option.isSome_iff_exists]
  constructor
  · rintro ⟨rank, matched⟩
    exact ((matchRank_iff name rule rank).mp matched).1
  · exact fun applies => ⟨_, (matchRank_iff name rule _).mpr ⟨applies, rfl⟩⟩

/-- The loop compares the rules that match by their precedence. -/
theorem specificity_eq (name : QueryName) {rule : ChaosDnsRule}
    (applies : Applies effect domain name.text rule) :
    specificity (matchRank effect domain name.text) (fun rule => rule.selector.selectorLen) rule =
      precedence rule := by
  rw [specificity, (matchRank_iff name rule _).mpr ⟨applies, rfl⟩]
  rfl

theorem isFirstBestAmong_iff (name : QueryName) {rules : List ChaosDnsRule} {rule : ChaosDnsRule}
    {before after : List ChaosDnsRule} :
    IsFirstBestAmong (Ranked (matchRank effect domain name.text))
        (specificity (matchRank effect domain name.text) fun rule => rule.selector.selectorLen)
        rules rule before after ↔
      IsFirstBestAmong (Applies effect domain name.text) precedence rules rule before after := by
  constructor
  · intro first
    exact first.congr (fun other _ => ranked_iff name other)
      fun other _ ranked => specificity_eq name ((ranked_iff name other).mp ranked)
  · intro first
    exact first.congr (fun other _ => (ranked_iff name other).symm)
      fun other _ applies => (specificity_eq name applies).symm

/-! ## The case of letters -/

theorem Recased.symm {rule other : ChaosDnsRule} (recased : Recased rule other) :
    Recased other rule := by
  rcases recased with ⟨text, same, rfl⟩
  exact ⟨rule.selector.text, same.symm, rfl⟩

theorem precedence_of_recased {rule other : ChaosDnsRule} (recased : Recased rule other) :
    precedence rule = precedence other := by
  rcases recased with ⟨text, same, rfl⟩
  rfl

theorem matches_of_recased {rule other : ChaosDnsRule} (recased : Recased rule other)
    {name asked : Bytes} (same : SameCase name asked) (matched : Matches rule.selector name) :
    Matches other.selector asked := by
  rcases recased with ⟨text, sameText, rfl⟩
  rw [Matches] at matched ⊢
  cases kind : rule.selector.kind with
  | any => trivial
  | exact =>
      rw [kind] at matched
      exact same.symm.trans (matched.trans sameText)
  | suffix =>
      rw [kind] at matched
      rcases matched with ⟨lookup, front, split⟩
      refine ⟨lookup, front, same.symm.trans (split.trans ?_)⟩
      rw [List.map_append, List.map_append, List.map_cons, List.map_cons, sameText]

theorem applies_iff_of_recased {rule other : ChaosDnsRule} (recased : Recased rule other)
    {name asked : Bytes} (same : SameCase name asked) :
    Applies effect domain name rule ↔ Applies effect domain asked other := by
  have matches_iff : Matches rule.selector name ↔ Matches other.selector asked :=
    ⟨matches_of_recased recased same, matches_of_recased recased.symm same.symm⟩
  rw [Applies, Applies, matches_iff]
  rcases recased with ⟨text, -, rfl⟩
  exact Iff.rfl

/-- The place in a list of the rule that is chosen. -/
def ChosenAt (effect : ChaosDnsEffect) (domain : ChaosDnsSelectorDomain) (name : Bytes)
    (rules : List ChaosDnsRule) (index : Nat) : Prop :=
  ∃ rule before after,
    IsFirstBestAmong (Applies effect domain name) precedence rules rule before after ∧
      before.length = index

theorem chosenAt_of_recased {rules others : List ChaosDnsRule}
    (recased : List.Forall₂ Recased rules others) {name asked : Bytes}
    (same : SameCase name asked) {index : Nat} (chosen : ChosenAt effect domain name rules index) :
    ChosenAt effect domain asked others index := by
  rcases chosen with ⟨rule, before, after, first, rfl⟩
  rcases first.of_forall₂ recased (fun _ _ pair => applies_iff_of_recased pair same)
      (fun _ _ pair => precedence_of_recased pair) with
    ⟨other, before', after', first', -, length⟩
  exact ⟨other, before', after', first', length⟩

/-! ## The rule that is selected -/

theorem select_eq_some (rules : List ChaosDnsRule) (name : QueryName) (rule : ChaosDnsRule) :
    chaosDnsConfigSelectRuleDomain rules effect domain name.text = some rule ↔
      ∃ before after,
        IsFirstBestAmong (Applies effect domain name.text) precedence rules rule before after := by
  rw [chaosDnsConfigSelectRuleDomain, selectRule_eq_firstBest, firstBest_filter_eq_some]
  exact exists_congr fun before => exists_congr fun after => isFirstBestAmong_iff name

theorem select_eq_none (rules : List ChaosDnsRule) (name : QueryName) :
    chaosDnsConfigSelectRuleDomain rules effect domain name.text = none ↔
      ∀ rule ∈ rules, ¬ Applies effect domain name.text rule := by
  rw [chaosDnsConfigSelectRuleDomain, selectRule_eq_firstBest, firstBest_filter_eq_none]
  exact forall_congr' fun rule => imp_congr_right fun _ => not_congr (ranked_iff name rule)

/-- Rules in another case select the same rule, in that case. -/
theorem select_of_recased {rules others : List ChaosDnsRule}
    (recased : List.Forall₂ Recased rules others) {name asked : QueryName}
    (same : SameCase name.text asked.text) :
    Option.Rel Recased (chaosDnsConfigSelectRuleDomain rules effect domain name.text)
      (chaosDnsConfigSelectRuleDomain others effect domain asked.text) := by
  cases selected : chaosDnsConfigSelectRuleDomain rules effect domain name.text with
  | some rule =>
      rcases (select_eq_some rules name rule).mp selected with ⟨before, after, first⟩
      rcases first.of_forall₂ recased (fun _ _ pair => applies_iff_of_recased pair same)
          (fun _ _ pair => precedence_of_recased pair) with
        ⟨other, before', after', first', pair, -⟩
      rw [(select_eq_some others asked other).mpr ⟨before', after', first'⟩]
      exact .some pair
  | none =>
      have nothing := (select_eq_none rules name).mp selected
      have nothing' : ∀ other ∈ others, ¬ Applies effect domain asked.text other := by
        intro other member applies
        rcases exists_alike_of_mem recased other member with ⟨rule, inside, pair⟩
        exact nothing rule inside ((applies_iff_of_recased pair same).mpr applies)
      rw [(select_eq_none others asked).mpr nothing']
      exact .none

/-! ## Selectors that are read -/

/-- No selector of addresses is a suffix. -/
theorem kind_of_reverseBody {inetNtop : InetNtop} {body text : Bytes}
    {kind : ChaosDnsSelectorKind}
    (parsed : chaosDnsParseReverseSelectorBody inetNtop body = some (kind, text)) :
    kind ≠ .suffix := by
  rw [chaosDnsParseReverseSelectorBody] at parsed
  have literal (source : Bytes)
      (read :
        (reverseLiteral inetNtop source).map (fun text => (ChaosDnsSelectorKind.exact, text)) =
          some (kind, text)) : kind ≠ .suffix := by
    rcases Option.map_eq_some_iff.mp read with ⟨address, -, same⟩
    cases same
    decide
  split at parsed
  · cases parsed
  · split at parsed
    · cases parsed
      decide
    · split at parsed
      · split at parsed
        · cases parsed
        · split at parsed
          · cases parsed
          · exact literal _ parsed
      · split at parsed
        · cases parsed
        · exact literal _ parsed

/-- A `*.s` that is read is a selector of lookups. -/
theorem lookup_of_suffix {inetNtop : InetNtop} {text : Bytes} {selector : ChaosDnsSelector}
    (parsed : chaosDnsSelectorParse inetNtop text = some selector)
    (suffix : selector.kind = .suffix) : selector.domain = .lookup := by
  rw [chaosDnsSelectorParse] at parsed
  split at parsed
  · cases parsed
  · split at parsed
    · cases parsed
      rfl
    · split at parsed
      · extract_lets body beginsSuffix host at parsed
        split at parsed
        · cases parsed
        · split at parsed
          · cases parsed
            rfl
          · split at parsed
            · cases parsed
            · cases parsed
              rfl
      · split at parsed
        · rcases Option.map_eq_some_iff.mp parsed with ⟨⟨kind, name⟩, body, rfl⟩
          exact absurd suffix (kind_of_reverseBody body)
        · cases parsed

/-! ## The whole selection -/

/--
The rule that is selected is the first, in file order, of the rules that match with the
highest precedence; none is selected exactly when none matches; and the case of ASCII
letters, in the name and in the host texts, changes nothing.
-/
theorem selectRuleDomain_spec (rules : List ChaosDnsRule) (effect : ChaosDnsEffect)
    (domain : ChaosDnsSelectorDomain) (name : QueryName) :
    (∀ rule,
        chaosDnsConfigSelectRuleDomain rules effect domain name.text = some rule ↔
          ∃ before after, IsFirstBestAmong (Applies effect domain name.text) precedence rules
            rule before after) ∧
      (chaosDnsConfigSelectRuleDomain rules effect domain name.text = none ↔
        ∀ rule ∈ rules, ¬ Applies effect domain name.text rule) ∧
      (∀ (others : List ChaosDnsRule) (asked : QueryName),
        List.Forall₂ Recased rules others → SameCase name.text asked.text →
          Option.Rel Recased (chaosDnsConfigSelectRuleDomain rules effect domain name.text)
              (chaosDnsConfigSelectRuleDomain others effect domain asked.text) ∧
            ∀ index, ChosenAt effect domain name.text rules index ↔
              ChosenAt effect domain asked.text others index) ∧
      ∀ (inetNtop : InetNtop) (text : Bytes) (selector : ChaosDnsSelector),
        chaosDnsSelectorParse inetNtop text = some selector → selector.kind = .suffix →
          selector.domain = .lookup := by
  refine ⟨select_eq_some rules name, select_eq_none rules name, ?_,
    fun inetNtop text selector => lookup_of_suffix⟩
  intro others asked recased same
  have recased' : List.Forall₂ Recased others rules :=
    (recased.imp fun _ _ pair => pair.symm).flip
  exact ⟨select_of_recased recased same, fun index =>
    ⟨chosenAt_of_recased recased same, chosenAt_of_recased recased' same.symm⟩⟩

end ChaosLibs.Dns.SelectRule
