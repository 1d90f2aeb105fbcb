import ChaosLibs.Io.LoadedRules
import ChaosLibs.Search.FirstBest

/-!
# The longest prefix that covers a path

`chaos_io_config_select_rule` against what it is for: of the rules of an operation whose
prefix covers a path, as written or as its links resolve, the first one with the longest
written prefix.
-/

namespace ChaosLibs.Io.SelectRule

open ChaosLibs.Common.CString
open ChaosLibs.Io.ConfigParser
open ChaosLibs.Io.LoadedRules
open ChaosLibs.Io.MatchLoaded
open ChaosLibs.Io.PathText
open ChaosLibs.Io.Rule
open ChaosLibs.Search

/-! ## Coverage -/

/-- A path as C strings hold them. -/
structure PathName where
  text : Bytes
  clean : (0 : UInt8) ∉ text

/-- A prefix covers a path that goes on at a component boundary, or not at all. -/
def CoversText (shorter path : Bytes) : Prop :=
  ∃ rest, path = shorter ++ rest ∧
    (rest = [] ∨ rest.head? = some (byte '/') ∨ shorter.getLast? = some (byte '/'))

/-- The path is that of a file: absolute, and no memfd. -/
def IsFilePath (path : Bytes) : Prop :=
  IsAbsolute path ∧ ¬ bytes "/memfd:" <+: path

/-- The prefix of a rule covers a path: `*` every file, others as written or resolved. -/
def Covers (resolved : Nat → Bytes) (rule : StoredRule) (path : Bytes) : Prop :=
  if rule.pathPrefix = bytes "*" then IsFilePath path
  else
    CoversText rule.pathPrefix path ∨
      ∃ index, rule.resolvedPrefix = some index ∧ CoversText (resolved index) path

/-- A snapshot whose lengths are those of its texts. -/
structure MeasuredSnapshot where
  resolved : Nat → Bytes
  rules : List StoredRule
  written : ∀ rule ∈ rules, rule.pathLen = rule.pathPrefix.length
  linked : ∀ rule ∈ rules, ∀ index, rule.resolvedPrefix = some index →
    rule.resolvedLen = (resolved index).length

/-- The rules of an operation that cover a path. -/
def Applies (snapshot : MeasuredSnapshot) (operation : ChaosIoOperation) (path : PathName)
    (rule : StoredRule) : Prop :=
  rule.operation = operation ∧ Covers snapshot.resolved rule path.text

/-! ## The tests of the code -/

theorem getD_eq_zero_iff {path : Bytes} (clean : (0 : UInt8) ∉ path) (position : Nat) :
    path.getD position 0 = 0 ↔ path.length ≤ position := by
  constructor
  · intro nul
    by_contra inside
    rw [List.getD_eq_getElem _ _ (Nat.lt_of_not_le inside)] at nul
    exact clean (nul ▸ List.getElem_mem _)
  · exact List.getD_eq_default _ _

/-- The last byte of a prefix, as the code looks at it. -/
theorem getD_last_iff {shorter : Bytes} {ch : UInt8} :
    0 < shorter.length ∧ shorter.getD (shorter.length - 1) 0 = ch ↔
      shorter.getLast? = some ch := by
  cases shorter using List.reverseRecOn with
  | nil => simp
  | append_singleton front last => simp

theorem coversText_append {shorter rest : Bytes} :
    CoversText shorter (shorter ++ rest) ↔
      rest = [] ∨ rest.head? = some (byte '/') ∨ shorter.getLast? = some (byte '/') := by
  constructor
  · rintro ⟨other, same, boundary⟩
    rw [List.append_cancel_left same]
    exact boundary
  · exact fun boundary => ⟨rest, rfl, boundary⟩

theorem chaosIoPrefixCovers_iff {shorter path : Bytes} (clean : (0 : UInt8) ∉ path) :
    chaosIoPrefixCovers shorter shorter.length path = true ↔ CoversText shorter path := by
  rw [chaosIoPrefixCovers, List.take_length]
  by_cases starts : shorter <+: path
  · rcases starts with ⟨rest, rfl⟩
    have taken : (shorter ++ rest).take shorter.length = shorter := List.take_left
    have next : (shorter ++ rest).getD shorter.length 0 = rest.getD 0 0 := by
      rw [List.getD_append_right _ _ _ _ (Nat.le_refl _), Nat.sub_self]
    have cleanRest : (0 : UInt8) ∉ rest := fun nul => clean (List.mem_append_right _ nul)
    have ended : rest.getD 0 0 = 0 ↔ rest = [] := by
      rw [getD_eq_zero_iff cleanRest, Nat.le_zero, List.length_eq_zero_iff]
    have slash : rest.getD 0 0 = byte '/' ↔ rest.head? = some (byte '/') := by
      cases rest with
      | nil => exact iff_of_false (by decide) (Option.some_ne_none _).symm
      | cons first others => exact ⟨fun same => congrArg some same, Option.some.inj⟩
    rw [if_neg (not_not.mpr taken), coversText_append, Bool.or_eq_true, Bool.or_eq_true,
      Bool.and_eq_true, decide_eq_true_iff, decide_eq_true_iff, decide_eq_true_iff,
      decide_eq_true_iff, next, ended, slash, getD_last_iff, or_assoc,
      or_comm (a := shorter.getLast? = _)]
  · have other : path.take shorter.length ≠ shorter := fun same =>
      starts (same ▸ List.take_prefix _ _)
    rw [if_pos other]
    refine iff_of_false Bool.false_ne_true ?_
    rintro ⟨rest, rfl, -⟩
    exact starts (List.prefix_append _ _)

theorem coveredByStar_iff (path : Bytes) : coveredByStar path = true ↔ IsFilePath path := by
  rw [coveredByStar, Bool.and_eq_true, Bool.not_eq_true', IsFilePath, IsAbsolute,
    beq_iff_eq, startsWith, ← Bool.not_eq_true, List.isPrefixOf_iff_prefix]
  refine and_congr_left' ?_
  cases path with
  | nil => exact iff_of_false (by decide) (Option.some_ne_none _).symm
  | cons first others => exact ⟨fun same => congrArg some same, Option.some.inj⟩

/-- The test of a rule's prefixes. -/
theorem prefixMatches_iff (snapshot : MeasuredSnapshot) (path : PathName)
    {rule : StoredRule} (member : rule ∈ snapshot.rules) :
    chaosIoRulePrefixMatches snapshot.resolved rule path.text = true ↔
      Covers snapshot.resolved rule path.text := by
  rw [chaosIoRulePrefixMatches, Covers]
  by_cases star : rule.pathPrefix = bytes "*"
  · rw [if_pos star, if_pos star]
    exact coveredByStar_iff path.text
  · rw [if_neg star, if_neg star, Bool.or_eq_true, snapshot.written rule member,
      chaosIoPrefixCovers_iff path.clean]
    refine or_congr_right ?_
    cases link : rule.resolvedPrefix with
    | none => exact iff_of_false Bool.false_ne_true (by rintro ⟨index, none, -⟩; cases none)
    | some index =>
        rw [snapshot.linked rule member index link, chaosIoPrefixCovers_iff path.clean]
        constructor
        · exact fun covers => ⟨index, rfl, covers⟩
        · rintro ⟨other, same, covers⟩
          cases same
          exact covers

/-! ## The loop -/

/-- The rules that the loop does not pass over. -/
def Considered (resolved : Nat → Bytes) (call : Call) (rule : StoredRule) : Prop :=
  rule.operation = call.operation ∧
    chaosIoRulePrefixMatches resolved rule call.path = true

instance (resolved : Nat → Bytes) (call : Call) : DecidablePred (Considered resolved call) :=
  fun _ => inferInstanceAs (Decidable (_ ∧ _))

/-- The loop is the scan for the first best of the rules that it considers. -/
theorem foldl_selectStep (resolved : Nat → Bytes) (call : Call) (rules : List StoredRule)
    (best : Option StoredRule) :
    rules.foldl (selectStep resolved call) best =
      (rules.filter fun rule => Considered resolved call rule).foldl
        (keepBetter StoredRule.pathLen) best := by
  induction rules generalizing best with
  | nil => rfl
  | cons rule rest induction =>
      rw [List.foldl_cons, induction, List.filter_cons]
      by_cases considered : Considered resolved call rule
      · have kept : selectStep resolved call best rule =
            keepBetter StoredRule.pathLen best rule := by
          unfold selectStep
          rw [if_neg (not_not.mpr considered.1), if_pos considered.2]
          cases best with
          | none => rfl
          | some other => rfl
        rw [decide_eq_true considered, if_pos rfl, List.foldl_cons, kept]
      · have passed : selectStep resolved call best rule = best := by
          unfold selectStep
          by_cases same : rule.operation = call.operation
          · rw [if_neg (not_not.mpr same), if_neg fun covers => considered ⟨same, covers⟩]
          · rw [if_pos same]
        rw [decide_eq_false considered, if_neg Bool.false_ne_true, passed]

theorem chaosIoConfigSelectRule_eq (resolved : Nat → Bytes) (rules : List StoredRule)
    (call : Call) :
    chaosIoConfigSelectRule resolved rules call =
      firstBest StoredRule.pathLen
        (rules.filter fun rule => Considered resolved call rule) :=
  foldl_selectStep resolved call rules none

/-- In a measured snapshot, what the loop considers applies. -/
theorem considered_iff (snapshot : MeasuredSnapshot) (operation : ChaosIoOperation)
    (path : PathName) {rule : StoredRule} (member : rule ∈ snapshot.rules) :
    Considered snapshot.resolved ⟨operation, path.text⟩ rule ↔
      Applies snapshot operation path rule :=
  and_congr_right fun _ => prefixMatches_iff snapshot path member

/--
The rule that is selected is the first, in file order, of the rules that apply with the
longest written prefix; none is selected exactly when none applies.
-/
theorem selectRule_spec (snapshot : MeasuredSnapshot) (path : PathName)
    (operation : ChaosIoOperation) :
    (∀ rule,
        chaosIoConfigSelectRule snapshot.resolved snapshot.rules ⟨operation, path.text⟩ =
            some rule ↔
          ∃ before after, IsFirstBestAmong (Applies snapshot operation path)
            (fun rule => rule.pathPrefix.length) snapshot.rules rule before after) ∧
      (chaosIoConfigSelectRule snapshot.resolved snapshot.rules ⟨operation, path.text⟩ =
          none ↔
        ∀ rule ∈ snapshot.rules, ¬ Applies snapshot operation path rule) := by
  rw [chaosIoConfigSelectRule_eq]
  constructor
  · intro rule
    rw [firstBest_filter_eq_some]
    refine exists_congr fun before => exists_congr fun after => ⟨fun first => ?_, fun first => ?_⟩
    · exact first.congr (fun other member => considered_iff snapshot operation path member)
        fun other member _ => snapshot.written other member
    · exact first.congr (fun other member => (considered_iff snapshot operation path member).symm)
        fun other member _ => (snapshot.written other member).symm
  · rw [firstBest_filter_eq_none]
    refine forall_congr' fun rule => imp_congr_right fun member => not_congr ?_
    exact considered_iff snapshot operation path member

/-! ## Snapshots of files -/

theorem measured_of_accepted {file : Bytes} {entries : List ParsedRule}
    (accepted : chaosIoConfigLoad file = .ok entries) (found : Nat → Option RealName) :
    ∀ rule ∈ entries.mapIdx fun index entry => resolvedRule index entry.rule (found index),
      Measured (resolvedText (entries.map ParsedRule.rule) found) rule := by
  intro rule member
  rcases List.mem_mapIdx.mp member with ⟨index, inside, rfl⟩
  have entry := parsed_of_accepted accepted entries[index] (List.getElem_mem inside)
  refine measured_resolvedRule ?_ entry.1
  rw [List.getElem?_map, List.getElem?_eq_getElem inside]
  rfl

/-- The snapshot that a load of an accepted file leaves. -/
def MeasuredSnapshot.ofFile {file : Bytes} {entries : List ParsedRule}
    (accepted : chaosIoConfigLoad file = .ok entries) (found : Nat → Option RealName) :
    MeasuredSnapshot where
  resolved := resolvedText (entries.map ParsedRule.rule) found
  rules := entries.mapIdx fun index entry => resolvedRule index entry.rule (found index)
  written := by
    intro rule member
    exact (measured_of_accepted accepted found rule member).length
  linked := by
    intro rule member index linked
    exact ((measured_of_accepted accepted found rule member).link index linked).2

end ChaosLibs.Io.SelectRule
