import ChaosLibs.Io.ConfigParser
import ChaosLibs.Io.MatchLoaded
import ChaosLibs.Io.PathText
import Mathlib.Data.List.GetD
import Mathlib.Data.List.TakeWhile

/-!
# Rules as a load leaves them

What is true of every rule of a loaded snapshot, from the parser through
`chaos_io_config_resolve_rules`, and the paths such rules cover.  The path
field of a rule ends at the first `:`, so no rule covers the names the kernel
gives pipes, sockets and anonymous inodes; a rule on `/` covers every absolute
path.

`realpath` is outside the sources: what it found for a rule is an argument.
-/

namespace ChaosLibs.Io.LoadedRules

open ChaosLibs.Common.CString
open ChaosLibs.Common.StatusText
open ChaosLibs.Common.RulePolicy
open ChaosLibs.Io.Rule
open ChaosLibs.Io.PathText
open ChaosLibs.Io.ConfigParser
open ChaosLibs.Io.MatchLoaded

/-! ## Kinds of names -/

/-- `pipe:[4]`, `anon_inode:[eventfd]`: a `:` before any `/`. -/
def IsPseudoName (text : Bytes) : Prop :=
  ∃ kind rest, text = kind ++ byte ':' :: rest ∧
    byte '/' ∉ kind ∧ (0 : UInt8) ∉ kind

theorem isAbsolute_iff {text : Bytes} :
    IsAbsolute text ↔ ∃ rest, text = byte '/' :: rest := by
  cases text with
  | nil => simp [IsAbsolute]
  | cons ch rest => simp [IsAbsolute]

theorem IsPseudoName.not_isAbsolute
    {text : Bytes} (pseudo : IsPseudoName text) : ¬ IsAbsolute text := by
  rcases pseudo with ⟨kind, rest, rfl, noSlash, -⟩
  intro absolute
  cases kind with
  | nil =>
      have same : byte ':' = byte '/' := Option.some.inj absolute
      exact absurd same (by decide)
  | cons ch kind =>
      have same : ch = byte '/' := Option.some.inj absolute
      exact noSlash (same ▸ List.mem_cons_self)

/-! ## Loaded rules -/

/-- `chaos_init_io_supported`: what both modes load. -/
def chaosInitIoSupported (operation : ChaosIoOperation) (effect : ChaosIoEffect) :
    Bool :=
  effect == .errno && operation != .close || effect == .latency

/-- What a load makes sure of, the resolved texts in `resolved`. -/
structure Loaded (resolved : Nat → Bytes) (rule : StoredRule) : Prop where
  length : rule.pathLen = rule.pathPrefix.length
  noColon : byte ':' ∉ rule.pathPrefix
  link : ∀ index, rule.resolvedPrefix = some index →
    IsAbsolute (resolved index) ∧ rule.resolvedLen = (resolved index).length
  unmeasured : rule.callSize = chaosPolicyNoSize
  supported : chaosInitIoSupported rule.operation rule.effect = true

/-- A snapshot that both modes have loaded. -/
structure Snapshot where
  resolved : Nat → Bytes
  rules : List StoredRule
  loaded : ∀ rule ∈ rules, Loaded resolved rule

/-- `chaos_io_config_prepare`, as far as its result goes. -/
def chaosIoConfigPrepare (snapshot : Snapshot) : Bool :=
  !snapshot.rules.isEmpty

/-- `chaos_io_config_match_loaded` of a snapshot that holds still. -/
def matchLoaded (snapshot : Snapshot) (operation : ChaosIoOperation)
    (path : Bytes) : Option StoredRule :=
  chaosIoConfigSelectRule snapshot.resolved snapshot.rules ⟨operation, path⟩

theorem matchLoaded_of_unprepared
    {snapshot : Snapshot} (unprepared : chaosIoConfigPrepare snapshot = false)
    (operation : ChaosIoOperation) (path : Bytes) :
    matchLoaded snapshot operation path = none := by
  have empty : snapshot.rules = [] := by
    simpa [chaosIoConfigPrepare] using unprepared
  rw [matchLoaded, empty]
  rfl

/-! ## The rule that is matched -/

/-- A round of the loop keeps a rule of the call's operation that covers its path. -/
theorem covers_of_selectStep
    {resolved : Nat → Bytes} {call : Call} {best : Option StoredRule}
    {candidate rule : StoredRule}
    (picked : selectStep resolved call best candidate = some rule)
    (before : ∀ other, best = some other →
      other.operation = call.operation ∧
        chaosIoRulePrefixMatches resolved other call.path = true) :
    rule.operation = call.operation ∧
      chaosIoRulePrefixMatches resolved rule call.path = true := by
  unfold selectStep at picked
  split at picked
  · exact before rule picked
  · rename_i same
    have operation : candidate.operation = call.operation := not_not.mp same
    split at picked
    · rename_i covers
      split at picked
      · cases picked
        exact ⟨operation, covers⟩
      · split at picked
        · cases picked
          exact ⟨operation, covers⟩
        · exact before rule picked
    · exact before rule picked

theorem covers_of_select
    {resolved : Nat → Bytes} {call : Call} {rules : List StoredRule}
    {best : Option StoredRule} {rule : StoredRule}
    (picked : rules.foldl (selectStep resolved call) best = some rule)
    (before : ∀ other, best = some other →
      other.operation = call.operation ∧
        chaosIoRulePrefixMatches resolved other call.path = true) :
    rule.operation = call.operation ∧
      chaosIoRulePrefixMatches resolved rule call.path = true := by
  induction rules generalizing best with
  | nil => exact before rule picked
  | cons candidate rest induction =>
      refine induction picked ?_
      intro other kept
      exact covers_of_selectStep kept before

/-- What is matched is a loaded rule that covers the path. -/
theorem matchLoaded_eq_some
    {snapshot : Snapshot} {operation : ChaosIoOperation} {path : Bytes}
    {rule : StoredRule}
    (picked : matchLoaded snapshot operation path = some rule) :
    Loaded snapshot.resolved rule ∧ rule.operation = operation ∧
      chaosIoRulePrefixMatches snapshot.resolved rule path = true := by
  rcases mem_of_select picked with none | member
  · cases none
  · have covers := covers_of_select picked (fun _ none => nomatch none)
    exact ⟨snapshot.loaded rule member, covers⟩

/-! ## Paths no rule covers -/

theorem getD_pseudo
    {kind rest : Bytes} {length : Nat} (within : length ≤ kind.length) :
    (kind ++ byte ':' :: rest).getD length 0 = byte ':' ∨
      (kind ++ byte ':' :: rest).getD length 0 ∈ kind := by
  rcases Nat.lt_or_eq_of_le within with inside | atEnd
  · right
    rw [List.getD_append _ _ _ _ inside, List.getD_eq_getElem _ _ inside]
    exact List.getElem_mem inside
  · left
    rw [List.getD_append_right _ _ _ _ (Nat.le_of_eq atEnd.symm), atEnd,
      Nat.sub_self]
    rfl

/-- A text without a `:` does not cover a pseudo name. -/
theorem not_prefixCovers_of_isPseudoName
    {text path : Bytes} (noColon : byte ':' ∉ text)
    (pseudo : IsPseudoName path) :
    chaosIoPrefixCovers text text.length path = false := by
  rcases pseudo with ⟨kind, rest, rfl, noSlash, noNul⟩
  unfold chaosIoPrefixCovers
  rw [List.take_length]
  split
  · rfl
  · rename_i same
    have same := not_not.mp same
    have within : text.length ≤ kind.length := by
      by_contra longer
      apply noColon
      rw [← same]
      apply List.mem_take_iff_getElem.mpr
      refine ⟨kind.length, ?_, ?_⟩
      · simp only [List.length_append, List.length_cons]
        omega
      · rw [List.getElem_append_right (Nat.le_refl _)]
        simp
    have next := @getD_pseudo kind rest _ within
    have taken : text = kind.take text.length := by
      conv_lhs => rw [← same]
      exact List.take_append_of_le_length within
    have notEnd : (kind ++ byte ':' :: rest).getD text.length 0 ≠ 0 := by
      intro nul
      rw [nul] at next
      rcases next with colon | member
      · exact absurd colon (by decide)
      · exact noNul member
    have notSlash :
        (kind ++ byte ':' :: rest).getD text.length 0 ≠ byte '/' := by
      intro slash
      rw [slash] at next
      rcases next with colon | member
      · exact absurd colon (by decide)
      · exact noSlash member
    have notClosed :
        ¬ (0 < text.length ∧ text.getD (text.length - 1) 0 = byte '/') := by
      rintro ⟨positive, last⟩
      have inside : text.length - 1 < text.length := by omega
      rw [List.getD_eq_getElem _ _ inside] at last
      have member : byte '/' ∈ text := last ▸ List.getElem_mem inside
      rw [taken] at member
      exact noSlash (List.mem_of_mem_take member)
    simp only [notEnd, notSlash, notClosed, decide_false, Bool.or_false,
      ← Bool.decide_and]

/-- An absolute text does not cover a path that is not. -/
theorem not_prefixCovers_of_isAbsolute
    {text path : Bytes} (absolute : IsAbsolute text)
    (relative : ¬ IsAbsolute path) :
    chaosIoPrefixCovers text text.length path = false := by
  rcases isAbsolute_iff.mp absolute with ⟨rest, rfl⟩
  unfold chaosIoPrefixCovers
  rw [List.take_length]
  split
  · rfl
  · rename_i same
    have same := not_not.mp same
    cases path with
    | nil => cases same
    | cons ch path =>
        rw [List.length_cons, List.take_succ_cons, List.cons.injEq] at same
        exact absurd (isAbsolute_iff.mpr ⟨path, same.1 ▸ rfl⟩) relative

theorem not_coveredByStar {path : Bytes} (relative : ¬ IsAbsolute path) :
    coveredByStar path = false := by
  cases path with
  | nil => rfl
  | cons ch path =>
      have other : ch ≠ byte '/' := by
        intro slash
        exact relative (isAbsolute_iff.mpr ⟨path, slash ▸ rfl⟩)
      simp [coveredByStar, other]

/-- What of a rule its coverage test reads. -/
structure Measured (resolved : Nat → Bytes) (rule : StoredRule) : Prop where
  length : rule.pathLen = rule.pathPrefix.length
  noColon : byte ':' ∉ rule.pathPrefix
  link : ∀ index, rule.resolvedPrefix = some index →
    IsAbsolute (resolved index) ∧ rule.resolvedLen = (resolved index).length

theorem Loaded.measured
    {resolved : Nat → Bytes} {rule : StoredRule} (loaded : Loaded resolved rule) :
    Measured resolved rule :=
  ⟨loaded.length, loaded.noColon, loaded.link⟩

theorem Measured.not_prefixMatches
    {resolved : Nat → Bytes} {rule : StoredRule} (measured : Measured resolved rule)
    {path : Bytes} (pseudo : IsPseudoName path) :
    chaosIoRulePrefixMatches resolved rule path = false := by
  unfold chaosIoRulePrefixMatches
  split
  · exact not_coveredByStar pseudo.not_isAbsolute
  · rw [measured.length, not_prefixCovers_of_isPseudoName measured.noColon pseudo,
      Bool.false_or]
    split
    · rfl
    · rename_i index linked
      rcases measured.link index linked with ⟨absolute, length⟩
      rw [length]
      exact not_prefixCovers_of_isAbsolute absolute pseudo.not_isAbsolute

/-- No loaded rule covers a pseudo name. -/
theorem not_prefixMatches_of_isPseudoName
    {resolved : Nat → Bytes} {rule : StoredRule} (loaded : Loaded resolved rule)
    {path : Bytes} (pseudo : IsPseudoName path) :
    chaosIoRulePrefixMatches resolved rule path = false :=
  loaded.measured.not_prefixMatches pseudo

theorem matchLoaded_of_isPseudoName
    {path : Bytes} (pseudo : IsPseudoName path) (snapshot : Snapshot)
    (operation : ChaosIoOperation) :
    matchLoaded snapshot operation path = none := by
  cases picked : matchLoaded snapshot operation path with
  | none => rfl
  | some rule =>
      rcases matchLoaded_eq_some picked with ⟨loaded, -, covers⟩
      rw [not_prefixMatches_of_isPseudoName loaded pseudo] at covers
      cases covers

/-! ## The rule that covers every absolute path -/

/-- `/:<operation>:LATENCY:1`. -/
def rootRule (operation : ChaosIoOperation) : StoredRule where
  pathPrefix := bytes "/"
  pathLen := 1
  resolvedPrefix := none
  resolvedLen := 0
  operation := operation
  effect := .latency
  errnum := 0
  probability := ⟨0, 1⟩
  latencyMs := 1
  policy := {}
  callSize := chaosPolicyNoSize
  hit := none
  hitGeneration := 0

/-- The snapshot of a file with that one rule. -/
def rootSnapshot (operation : ChaosIoOperation) : Snapshot where
  resolved := fun _ => []
  rules := [rootRule operation]
  loaded := by
    intro rule member
    rw [List.mem_singleton.mp member]
    exact {
      length := rfl
      noColon := show byte ':' ∉ bytes "/" by decide
      link := fun _ linked => nomatch linked
      unmeasured := rfl
      supported := by cases operation <;> rfl }

theorem prefixCovers_root {path : Bytes} (absolute : IsAbsolute path) :
    chaosIoPrefixCovers (bytes "/") 1 path = true := by
  rcases isAbsolute_iff.mp absolute with ⟨rest, rfl⟩
  have same : (byte '/' :: rest).take 1 = (bytes "/").take 1 := rfl
  unfold chaosIoPrefixCovers
  rw [if_neg (not_not.mpr same)]
  simp only [show (bytes "/").getD (1 - 1) 0 = byte '/' from rfl,
    decide_true, Nat.zero_lt_one, Bool.and_true, Bool.or_true, Bool.true_or]

theorem matchLoaded_rootSnapshot
    {path : Bytes} (absolute : IsAbsolute path)
    (operation : ChaosIoOperation) :
    matchLoaded (rootSnapshot operation) operation path =
      some (rootRule operation) := by
  have notStar : (rootRule operation).pathPrefix ≠ bytes "*" :=
    show bytes "/" ≠ bytes "*" by decide
  have covers :
      chaosIoRulePrefixMatches (rootSnapshot operation).resolved
        (rootRule operation) path = true := by
    unfold chaosIoRulePrefixMatches
    rw [if_neg notStar]
    exact Bool.or_eq_true_iff.mpr (Or.inl (prefixCovers_root absolute))
  have same : ¬ (rootRule operation).operation ≠ operation :=
    not_not.mpr rfl
  change selectStep _ ⟨operation, path⟩ none (rootRule operation) = _
  unfold selectStep
  simp only
  rw [if_neg same, if_pos covers]

theorem matchLoaded_rootSnapshot_of_ne
    {operation other : ChaosIoOperation} (different : operation ≠ other)
    (path : Bytes) : matchLoaded (rootSnapshot operation) other path = none := by
  change selectStep _ ⟨other, path⟩ none (rootRule operation) = _
  unfold selectStep
  rw [if_pos]
  exact different

/-! ## From the parser to a loaded snapshot -/

/-- What the parser makes sure of. -/
structure Parsed (rule : ChaosIoRule) : Prop where
  noColon : byte ':' ∉ rule.pathPrefix
  length : rule.pathLen = rule.pathPrefix.length

theorem mem_chaosIoTrim {text : Bytes} {ch : UInt8}
    (member : ch ∈ chaosIoTrim text) : ch ∈ text := by
  unfold chaosIoTrim at member
  rw [List.mem_reverse] at member
  have inner := List.mem_reverse.mp ((List.dropWhile_sublist _).mem member)
  exact (List.dropWhile_sublist _).mem inner

theorem not_mem_cutAt (stop : UInt8) (text : Bytes) : stop ∉ cutAt stop text := by
  intro member
  have kept := List.mem_takeWhile_imp member
  simp at kept

theorem noColon_of_splitFields
    {text path operation effect parameter : Bytes}
    (split : splitFields text = some (path, operation, effect, parameter)) :
    byte ':' ∉ path := by
  unfold splitFields at split
  rcases Option.bind_eq_some_iff.mp split with ⟨⟨first, rest⟩, atFirst, later⟩
  rcases Option.bind_eq_some_iff.mp later with ⟨⟨second, rest'⟩, -, last⟩
  rcases Option.map_eq_some_iff.mp last with ⟨⟨third, rest''⟩, -, fields⟩
  simp only [Prod.mk.injEq] at fields
  rw [← fields.1]
  unfold splitAtColon at atFirst
  split at atFirst
  · cases atFirst
  · simp only [Option.some.injEq, Prod.mk.injEq] at atFirst
    rw [← atFirst.1]
    exact not_mem_cutAt _ _

theorem parsed_of_chaosIoConfigParseLine
    {line : Bytes} {rule : ChaosIoRule}
    (parse : chaosIoConfigParseLine line = .rule rule) : Parsed rule := by
  unfold chaosIoConfigParseLine at parse
  simp only at parse
  split at parse
  · cases parse
  · split at parse
    · cases parse
    · rename_i first second third fourth fields
      split at parse
      · cases parse
      · split at parse
        · cases parse
        · split at parse
          · split at parse
            · cases parse
              refine ⟨?_, rfl⟩
              intro colon
              exact noColon_of_splitFields fields (mem_chaosIoTrim colon)
            · cases parse
          · cases parse

theorem parsed_of_parseLines
    {lines : List Bytes} {number : Nat} {before after : List ParsedRule}
    (parse : parseLines lines number before = .ok after)
    (parsed : ∀ entry ∈ before,
      Parsed entry.rule ∧ entry.rule.callSize = chaosPolicyNoSize) :
    ∀ entry ∈ after,
      Parsed entry.rule ∧ entry.rule.callSize = chaosPolicyNoSize := by
  induction lines generalizing number before with
  | nil =>
      cases parse
      exact parsed
  | cons line rest induction =>
      unfold parseLines at parse
      simp only at parse
      split at parse
      · cases parse
      · split at parse
        · cases parse
        · split at parse
          · exact induction parse parsed
          · cases parse
        · rename_i rule read
          split at parse
          · cases parse
          · split at parse
            · cases parse
            · refine induction parse ?_
              intro entry member
              rcases List.mem_append.mp member with earlier | here
              · exact parsed entry earlier
              · rw [List.mem_singleton.mp here]
                have fields := parsed_of_chaosIoConfigParseLine read
                exact ⟨⟨fields.noColon, fields.length⟩, rfl⟩

theorem parsed_of_accepted
    {file : Bytes} {entries : List ParsedRule}
    (accepted : chaosIoConfigLoad file = .ok entries) :
    ∀ entry ∈ entries, Parsed entry.rule ∧ entry.rule.callSize = chaosPolicyNoSize :=
  parsed_of_parseLines (parseLines_of_accepted accepted) (List.forall_mem_nil _)

/-! ## Resolution -/

theorem mem_dropComponent {written : Bytes} {ch : UInt8}
    (member : ch ∈ dropComponent written) : ch ∈ written ∨ ch = byte '/' := by
  unfold dropComponent at member
  simp only at member
  split at member
  · exact Or.inr (List.mem_singleton.mp member)
  · have kept := List.mem_of_mem_tail (List.mem_reverse.mp member)
    exact Or.inl (List.mem_reverse.mp ((List.dropWhile_sublist _).mem kept))

theorem mem_writeComponent {written component : Bytes} {ch : UInt8}
    (member : ch ∈ writeComponent written component) :
    ch ∈ written ∨ ch ∈ component ∨ ch = byte '/' := by
  unfold writeComponent at member
  split at member
  · exact Or.inl member
  · split at member
    · rcases mem_dropComponent member with earlier | slash
      · exact Or.inl earlier
      · exact Or.inr (Or.inr slash)
    · split at member
      · rcases List.mem_append.mp member with earlier | added
        · exact Or.inl earlier
        · rcases List.mem_cons.mp added with slash | here
          · exact Or.inr (Or.inr slash)
          · exact Or.inr (Or.inl here)
      · rcases List.mem_append.mp member with earlier | here
        · exact Or.inl earlier
        · exact Or.inr (Or.inl here)

theorem mem_components {path component : Bytes} {ch : UInt8}
    (listed : component ∈ components path) (member : ch ∈ component) :
    ch ∈ path := by
  induction path generalizing component with
  | nil =>
      rw [components, List.mem_singleton] at listed
      rw [listed] at member
      exact member
  | cons head rest induction =>
      unfold components at listed
      split at listed
      · rcases List.mem_cons.mp listed with empty | later
        · rw [empty] at member
          cases member
        · exact List.mem_cons_of_mem _ (induction later member)
      · split at listed
        · rw [List.mem_singleton] at listed
          rw [listed] at member
          exact List.mem_cons.mpr (Or.inl (List.mem_singleton.mp member))
        · rename_i first others split
          rcases List.mem_cons.mp listed with here | later
          · rw [here] at member
            rcases List.mem_cons.mp member with same | inside
            · exact same ▸ List.mem_cons_self
            · have inRest : first ∈ components rest :=
                split ▸ List.mem_cons_self
              exact List.mem_cons_of_mem _ (induction inRest inside)
          · have inRest : component ∈ components rest :=
              split ▸ List.mem_cons_of_mem _ later
            exact List.mem_cons_of_mem _ (induction inRest member)

theorem mem_writeComponents {written : Bytes} {list : List Bytes} {ch : UInt8}
    (member : ch ∈ list.foldl writeComponent written) :
    ch ∈ written ∨ (∃ component ∈ list, ch ∈ component) ∨ ch = byte '/' := by
  induction list generalizing written with
  | nil => exact Or.inl member
  | cons component rest induction =>
      rcases induction member with first | ⟨other, listed, inside⟩ | slash
      · rcases mem_writeComponent first with earlier | here | slash
        · exact Or.inl earlier
        · exact Or.inr (Or.inl ⟨component, List.mem_cons_self, here⟩)
        · exact Or.inr (Or.inr slash)
      · exact Or.inr (Or.inl ⟨other, List.mem_cons_of_mem _ listed, inside⟩)
      · exact Or.inr (Or.inr slash)

/-- Normalising a path adds no byte but `/`. -/
theorem mem_chaosIoNormalizePath {path : Bytes} {ch : UInt8}
    (member : ch ∈ chaosIoNormalizePath path) : ch ∈ path ∨ ch = byte '/' := by
  unfold chaosIoNormalizePath at member
  split at member
  · exact Or.inl member
  · split at member
    · rcases mem_writeComponents member with start | ⟨component, listed, inside⟩ | slash
      · exact Or.inr (List.mem_singleton.mp start)
      · exact Or.inl (List.mem_cons_of_mem _ (mem_components listed inside))
      · exact Or.inr slash
    · exact Or.inl member

/-- A result of `realpath`, with what `chaos_io_config_resolve_path` appends to it. -/
structure RealName where
  text : Bytes
  absolute : IsAbsolute text

/-- The resolved name `chaos_io_config_resolve_rules` keeps for a normalised prefix. -/
def keptName (pathPrefix : Bytes) (found : Option RealName) : Option RealName :=
  found.filter fun name =>
    name.text != pathPrefix && decide (name.text.length < chaosIoMaxRulePath)

/--
A rule as it lies in the snapshot after `chaos_io_config_resolve_rules`, its
resolved text in the entry of its own index.
-/
def resolvedRule (index : Nat) (rule : ChaosIoRule) (found : Option RealName) :
    StoredRule :=
  let pathPrefix :=
    if IsAbsolute rule.pathPrefix then chaosIoNormalizePath rule.pathPrefix
    else rule.pathPrefix
  let kept :=
    if IsAbsolute rule.pathPrefix then keptName pathPrefix found else none
  { pathPrefix := pathPrefix
    pathLen := if IsAbsolute rule.pathPrefix then pathPrefix.length else rule.pathLen
    resolvedPrefix := kept.map fun _ => index
    resolvedLen := (kept.map fun name => name.text.length).getD 0
    operation := rule.operation
    effect := rule.effect
    errnum := rule.errnum
    probability := rule.probability
    latencyMs := rule.latencyMs
    policy := rule.policy
    callSize := rule.callSize
    hit := rule.hit
    hitGeneration := rule.hitGeneration }

/-- The texts in `resolved`. -/
def resolvedText (rules : List ChaosIoRule) (found : Nat → Option RealName)
    (index : Nat) : Bytes :=
  match rules[index]? with
  | none => []
  | some rule =>
      ((keptName (chaosIoNormalizePath rule.pathPrefix) (found index)).map
        RealName.text).getD []

theorem measured_resolvedRule
    {rules : List ChaosIoRule} {found : Nat → Option RealName} {index : Nat}
    {rule : ChaosIoRule} (there : rules[index]? = some rule) (parsed : Parsed rule) :
    Measured (resolvedText rules found)
      (resolvedRule index rule (found index)) := by
  by_cases absolute : IsAbsolute rule.pathPrefix
  · refine ⟨?_, ?_, ?_⟩
    · simp only [resolvedRule, if_pos absolute]
    · simp only [resolvedRule, if_pos absolute]
      intro colon
      rcases mem_chaosIoNormalizePath colon with inside | slash
      · exact parsed.noColon inside
      · exact absurd slash (by decide)
    · intro target linked
      simp only [resolvedRule, if_pos absolute] at linked ⊢
      rcases Option.map_eq_some_iff.mp linked with ⟨name, kept, rfl⟩
      have text : resolvedText rules found index = name.text := by
        rw [resolvedText, there]
        simp only [kept, Option.map_some, Option.getD_some]
      rw [text, kept]
      exact ⟨name.absolute, rfl⟩
  · refine ⟨?_, ?_, ?_⟩
    · simp only [resolvedRule, if_neg absolute]
      exact parsed.length
    · simp only [resolvedRule, if_neg absolute]
      exact parsed.noColon
    · intro target linked
      simp only [resolvedRule, if_neg absolute, Option.map_none] at linked
      cases linked

theorem loaded_resolvedRule
    {rules : List ChaosIoRule} {found : Nat → Option RealName} {index : Nat}
    {rule : ChaosIoRule} (there : rules[index]? = some rule)
    (parsed : Parsed rule) (unmeasured : rule.callSize = chaosPolicyNoSize)
    (supported : chaosInitIoSupported rule.operation rule.effect = true) :
    Loaded (resolvedText rules found)
      (resolvedRule index rule (found index)) :=
  have measured := measured_resolvedRule there parsed
  ⟨measured.length, measured.noColon, measured.link, unmeasured, supported⟩

/-- The snapshot of a file that both modes accept. -/
def Snapshot.ofFile
    {file : Bytes} {entries : List ParsedRule}
    (accepted : chaosIoConfigLoad file = .ok entries)
    (supported : ∀ entry ∈ entries,
      chaosInitIoSupported entry.rule.operation entry.rule.effect = true)
    (found : Nat → Option RealName) : Snapshot where
  resolved := resolvedText (entries.map ParsedRule.rule) found
  rules := entries.mapIdx fun index entry =>
    resolvedRule index entry.rule (found index)
  loaded := by
    intro rule member
    rcases List.mem_mapIdx.mp member with ⟨index, inside, rfl⟩
    have entry := parsed_of_accepted accepted entries[index] (List.getElem_mem inside)
    refine loaded_resolvedRule ?_ entry.1 entry.2
      (supported _ (List.getElem_mem inside))
    rw [List.getElem?_map, List.getElem?_eq_getElem inside]
    rfl

end ChaosLibs.Io.LoadedRules
