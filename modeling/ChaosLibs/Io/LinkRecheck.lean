import ChaosLibs.Io.LoadedRules
import ChaosLibs.Machine.LabelledRun

/-!
# The re-check of links

`chaos_io_config_resolve_path`, `chaos_io_config_resolve_rules` and
`chaos_io_config_links_moved`, and the runs in which the directory tree changes between
the re-checks.

A re-check that is due compares the stored resolution of every rule with a new one.  It
passes over a rule that no longer resolves, and it takes a rule whose resolution did not
fit its entry for one that has moved.
-/

namespace ChaosLibs.Io.LinkRecheck

open ChaosLibs.Machine
open ChaosLibs.Common.CString
open ChaosLibs.Io.Rule
open ChaosLibs.Io.PathText
open ChaosLibs.Io.ConfigParser
open ChaosLibs.Io.MatchLoaded
open ChaosLibs.Io.LoadedRules

/-! ## Normalised paths -/

theorem isAbsolute_append {path rest : Bytes} (absolute : IsAbsolute path) :
    IsAbsolute (path ++ rest) := by
  rcases isAbsolute_iff.mp absolute with ⟨tail, rfl⟩
  rfl

theorem isAbsolute_of_prefix {start path : Bytes} (absolute : IsAbsolute path)
    (begins : start <+: path) (some : start ≠ []) : IsAbsolute start := by
  rcases begins with ⟨rest, rfl⟩
  cases start with
  | nil => exact absurd rfl some
  | cons first tail => exact absolute

theorem isAbsolute_dropComponent {written : Bytes} (absolute : IsAbsolute written) :
    IsAbsolute (dropComponent written) := by
  unfold dropComponent
  dsimp only
  split
  · rfl
  · rename_i long
    refine isAbsolute_of_prefix absolute ?_ ?_
    · rw [← List.reverse_reverse written, List.reverse_prefix, List.reverse_reverse]
      exact (List.tail_suffix _).trans (List.dropWhile_suffix _)
    · intro none
      have short := congrArg List.length none
      rw [List.length_reverse, List.length_tail, List.length_nil] at short
      omega

theorem isAbsolute_writeComponent {written : Bytes} (component : Bytes)
    (absolute : IsAbsolute written) : IsAbsolute (writeComponent written component) := by
  unfold writeComponent
  split
  · exact absolute
  · split
    · exact isAbsolute_dropComponent absolute
    · split <;> exact isAbsolute_append absolute

/-- Normalising an absolute path leaves it absolute. -/
theorem isAbsolute_chaosIoNormalizePath {path : Bytes} (absolute : IsAbsolute path) :
    IsAbsolute (chaosIoNormalizePath path) := by
  have writes : ∀ (list : List Bytes) (written : Bytes), IsAbsolute written →
      IsAbsolute (list.foldl writeComponent written) := by
    intro list
    induction list with
    | nil => exact fun _ start => start
    | cons component rest induction =>
        exact fun written start =>
          induction _ (isAbsolute_writeComponent component start)
  rcases isAbsolute_iff.mp absolute with ⟨rest, rfl⟩
  exact writes _ _ rfl

/-! ## Resolution -/

/-- The directory tree, as far as `realpath` tells it. -/
structure Tree where
  realpath : Bytes → Option RealName

/--
The loop of `chaos_io_config_resolve_path`: of the slashes before `length`, the last one
after the first byte at which what precedes it resolves.
-/
def resolveAncestor (tree : Tree) (path : Bytes) : Nat → Option RealName
  | 0 => none
  | length + 1 =>
      if length ≠ 0 ∧ path[length]? = some (byte '/') then
        match tree.realpath (path.take length) with
        | some name =>
            if chaosIoMaxPath ≤ name.text.length + (path.drop length).length then none
            else
              some
                ⟨chaosIoNormalizePath (name.text ++ path.drop length),
                  isAbsolute_chaosIoNormalizePath (isAbsolute_append name.absolute)⟩
        | none => resolveAncestor tree path length
      else resolveAncestor tree path length

/-- `chaos_io_config_resolve_path`: the name, and whether the path resolved whole. -/
def chaosIoConfigResolvePath (tree : Tree) (path : Bytes) : Option (RealName × Bool) :=
  match tree.realpath path with
  | some name => some (name, true)
  | none => (resolveAncestor tree path path.length).map fun name => (name, false)

/-- The name a path resolves to. -/
def resolution (tree : Tree) (path : Bytes) : Option RealName :=
  (chaosIoConfigResolvePath tree path).map Prod.fst

/-- The snapshot's part in the re-checks: `rules`, `resolved`, `links`, `resolved_ms`. -/
structure Active where
  rules : List StoredRule
  resolved : Nat → Bytes
  links : Bool
  resolvedMs : UInt64

/-- Whether a prefix went through a link or did not fully exist. -/
def wentThroughLink (tree : Tree) (pathPrefix : Bytes) : Bool :=
  match chaosIoConfigResolvePath tree pathPrefix with
  | none => true
  | some (name, whole) => !whole || name.text != pathPrefix

/-- `chaos_io_config_resolve_rules`, the monotonic clock reading `now` ms. -/
def chaosIoConfigResolveRules (tree : Tree) (now : UInt64) (rules : List ChaosIoRule) :
    Active :=
  let found := fun index =>
    (rules[index]?).bind fun rule =>
      resolution tree (chaosIoNormalizePath rule.pathPrefix)
  { rules := rules.mapIdx fun index rule => resolvedRule index rule (found index)
    resolved := resolvedText rules found
    links := rules.any fun rule =>
      decide (IsAbsolute rule.pathPrefix) &&
        wentThroughLink tree (chaosIoNormalizePath rule.pathPrefix)
    resolvedMs := now }

/-- `chaos_io_config_links_due`. -/
def chaosIoConfigLinksDue (active : Active) (now : UInt64) : Bool :=
  active.links && 1000 ≤ now - active.resolvedMs

/-- The resolved prefix of a rule, `none` for `NULL`. -/
def Active.resolvedPrefix (active : Active) (rule : StoredRule) : Option Bytes :=
  rule.resolvedPrefix.map active.resolved

/-- A rule resolves to another name than the one it has. -/
def Active.moved (active : Active) (tree : Tree) (rule : StoredRule) : Bool :=
  decide (IsAbsolute rule.pathPrefix) &&
    match resolution tree rule.pathPrefix with
    | none => false
    | some name => name.text != (active.resolvedPrefix rule).getD rule.pathPrefix

/-- `chaos_io_config_links_moved`, with the active snapshot as it leaves it. -/
def chaosIoConfigLinksMoved (tree : Tree) (now : UInt64) (active : Active) :
    Bool × Active :=
  if !chaosIoConfigLinksDue active now then (false, active)
  else if active.rules.any (active.moved tree) then (true, active)
  else (false, { active with resolvedMs := now })

/-! ## Runs -/

/-- What the last step has come to. -/
inductive Outcome where
  | other
  /-- A re-check that was due has kept the snapshot. -/
  | kept
  /-- A re-check that was due has reloaded it, the tree having changed or not. -/
  | reloaded (changed : Bool)
deriving DecidableEq, Repr

/--
The tree and the active snapshot; `changed` tells whether the tree has changed since the
rules were resolved.
-/
structure World where
  tree : Tree
  source : List ChaosIoRule
  active : Active
  changed : Bool
  outcome : Outcome

/-- No rules have been loaded. -/
def World.initial (tree : Tree) : World :=
  ⟨tree, [], ⟨[], fun _ => [], false, 0⟩, false, .other⟩

/-- What can happen next. -/
inductive Label where
  /-- A link or a directory is created, retargeted or removed. -/
  | change (tree : Tree)
  /-- Other rules are loaded. -/
  | load (rules : List ChaosIoRule) (now : UInt64)
  /-- The rule file is read again and has the same bytes. -/
  | check (now : UInt64)

/-- The rules are resolved. -/
def World.resolve (world : World) (rules : List ChaosIoRule) (now : UInt64)
    (outcome : Outcome) : World :=
  { world with
    source := rules
    active := chaosIoConfigResolveRules world.tree now rules
    changed := false
    outcome := outcome }

/-- One step. -/
def step (world : World) : Label → Option World
  | .change tree => some { world with tree := tree, changed := true, outcome := .other }
  | .load rules now => some (world.resolve rules now .other)
  | .check now =>
      let moved := chaosIoConfigLinksMoved world.tree now world.active
      if moved.1 then some (world.resolve world.source now (.reloaded world.changed))
      else
        some
          { world with
            active := moved.2
            outcome := if chaosIoConfigLinksDue world.active now then .kept else .other }

/-- The resolved prefix that `chaos_io_config_resolve_rules` would give a rule now. -/
def freshResolution (tree : Tree) (rule : StoredRule) : Option Bytes :=
  if IsAbsolute rule.pathPrefix then
    (keptName rule.pathPrefix (resolution tree rule.pathPrefix)).map RealName.text
  else none

/-- Every rule is resolved as it would be now. -/
def Active.Fresh (active : Active) (tree : Tree) : Prop :=
  ∀ rule ∈ active.rules, active.resolvedPrefix rule = freshResolution tree rule

/--
A re-check that keeps the snapshot leaves every rule resolved as it would be now, and no
re-check reloads it while the tree has not changed.
-/
structure Rechecked (world : World) : Prop where
  fresh : world.outcome = .kept → world.active.Fresh world.tree
  quiet : world.outcome ≠ .reloaded false

/-- The name of a rule is its prefix, or short enough to be stored. -/
def Fits (tree : Tree) (rule : StoredRule) : Prop :=
  IsAbsolute rule.pathPrefix → ∀ name, resolution tree rule.pathPrefix = some name →
    name.text = rule.pathPrefix ∨ name.text.length < chaosIoMaxRulePath

/--
At a re-check that is due, every rule that has been resolved to another name still
resolves, unless one now resolves to yet another; and every name fits when the tree has
not changed.
-/
def Resolves (world : World) : Label → Prop
  | .check now =>
      chaosIoConfigLinksDue world.active now = true →
        ((∃ rule ∈ world.active.rules, world.active.moved world.tree rule = true) ∨
          ∀ rule ∈ world.active.rules, world.active.resolvedPrefix rule ≠ none →
            resolution world.tree rule.pathPrefix ≠ none) ∧
        (world.changed = false → ∀ rule ∈ world.active.rules, Fits world.tree rule)
  | _ => True

/-! ## One rule -/

variable {tree before : Tree} {active : Active} {rule : StoredRule}

theorem freshResolution_eq_some {text : Bytes}
    (fresh : freshResolution tree rule = some text) :
    text ≠ rule.pathPrefix ∧ text.length < chaosIoMaxRulePath := by
  unfold freshResolution at fresh
  split at fresh
  · rcases Option.map_eq_some_iff.mp fresh with ⟨name, kept, rfl⟩
    rcases Option.filter_eq_some_iff.mp kept with ⟨-, passes⟩
    rcases (Bool.and_eq_true _ _).mp passes with ⟨other, short⟩
    exact ⟨bne_iff_ne.mp other, of_decide_eq_true short⟩
  · cases fresh

theorem freshResolution_of_resolution {name : RealName}
    (absolute : IsAbsolute rule.pathPrefix)
    (found : resolution tree rule.pathPrefix = some name) :
    freshResolution tree rule =
      if name.text ≠ rule.pathPrefix ∧ name.text.length < chaosIoMaxRulePath then
        some name.text
      else none := by
  rw [freshResolution, if_pos absolute, found, keptName, Option.filter_some]
  by_cases kept : name.text ≠ rule.pathPrefix ∧ name.text.length < chaosIoMaxRulePath
  · rw [if_pos kept, if_pos]
    · rfl
    · exact (Bool.and_eq_true _ _).mpr ⟨bne_iff_ne.mpr kept.1, decide_eq_true kept.2⟩
  · rw [if_neg kept, if_neg]
    · rfl
    · intro passes
      rcases (Bool.and_eq_true _ _).mp passes with ⟨other, short⟩
      exact kept ⟨bne_iff_ne.mp other, of_decide_eq_true short⟩

theorem freshResolution_of_none (none : resolution tree rule.pathPrefix = none) :
    freshResolution tree rule = Option.none := by
  rw [freshResolution, none]
  split <;> rfl

theorem moved_of_resolution {name : RealName} (absolute : IsAbsolute rule.pathPrefix)
    (found : resolution tree rule.pathPrefix = some name) :
    active.moved tree rule =
      (name.text != (active.resolvedPrefix rule).getD rule.pathPrefix) := by
  rw [Active.moved, found, decide_eq_true absolute]
  rfl

/-- A rule that has not moved and still resolves is resolved as it would be now. -/
theorem fresh_of_not_moved
    (stored : active.resolvedPrefix rule = freshResolution before rule)
    (resolves : active.resolvedPrefix rule ≠ none → resolution tree rule.pathPrefix ≠ none)
    (still : active.moved tree rule = false) :
    active.resolvedPrefix rule = freshResolution tree rule := by
  by_cases absolute : IsAbsolute rule.pathPrefix
  · cases found : resolution tree rule.pathPrefix with
    | none =>
        rw [freshResolution_of_none found]
        by_contra kept
        exact resolves kept found
    | some name =>
        rw [moved_of_resolution absolute found, bne_eq_false_iff_eq] at still
        rw [freshResolution_of_resolution absolute found]
        cases kept : active.resolvedPrefix rule with
        | none =>
            rw [kept, Option.getD_none] at still
            rw [if_neg fun other => other.1 still]
        | some text =>
            rw [kept, Option.getD_some] at still
            rw [kept] at stored
            rw [still, if_pos (freshResolution_eq_some stored.symm)]
  · rw [stored, freshResolution, freshResolution, if_neg absolute, if_neg absolute]

/-- While the tree has not changed, only a name that does not fit has moved. -/
theorem moved_iff_not_fits
    (stored : active.resolvedPrefix rule = freshResolution tree rule) :
    active.moved tree rule = true ↔ ¬ Fits tree rule := by
  by_cases absolute : IsAbsolute rule.pathPrefix
  · cases found : resolution tree rule.pathPrefix with
    | none =>
        refine iff_of_false ?_ (not_not_intro ?_)
        · rw [Active.moved, found, Bool.and_false]
          exact Bool.false_ne_true
        · intro _ name here
          rw [found] at here
          cases here
    | some name =>
        have fits : Fits tree rule ↔
            name.text = rule.pathPrefix ∨ name.text.length < chaosIoMaxRulePath := by
          constructor
          · exact fun fits => fits absolute name found
          · intro short _ other here
            rw [found] at here
            cases here
            exact short
        rw [moved_of_resolution absolute found, bne_iff_ne, stored,
          freshResolution_of_resolution absolute found, fits]
        split
        · rename_i kept
          rw [Option.getD_some]
          exact iff_of_false (not_not_intro rfl) (not_not_intro (Or.inr kept.2))
        · rename_i dropped
          rw [Option.getD_none, not_or]
          constructor
          · exact fun other => ⟨other, fun short => dropped ⟨other, short⟩⟩
          · exact fun long => long.1
  · refine iff_of_false ?_ (not_not_intro fun here => absurd here absolute)
    rw [Active.moved, decide_eq_false absolute, Bool.false_and]
    exact Bool.false_ne_true

/-! ## Resolved snapshots -/

/-- A prefix is absolute after it has been normalised if it was before. -/
theorem pathPrefix_resolvedRule {written : ChaosIoRule} {index : Nat}
    {found : Option RealName} (absolute : IsAbsolute written.pathPrefix) :
    (resolvedRule index written found).pathPrefix =
      chaosIoNormalizePath written.pathPrefix :=
  if_pos absolute

/-- `chaos_io_config_resolve_rules` resolves every rule as it would be now. -/
theorem fresh_chaosIoConfigResolveRules (tree : Tree) (now : UInt64)
    (rules : List ChaosIoRule) : (chaosIoConfigResolveRules tree now rules).Fresh tree := by
  intro rule member
  rcases List.mem_mapIdx.mp member with ⟨index, inside, rfl⟩
  have there : rules[index]? = some rules[index] := List.getElem?_eq_getElem inside
  dsimp only
  rw [there, Option.bind_some]
  by_cases absolute : IsAbsolute rules[index].pathPrefix
  · have prefixAbsolute := isAbsolute_chaosIoNormalizePath absolute
    have stored : ∀ found, (resolvedRule index rules[index] found).resolvedPrefix =
        (keptName (chaosIoNormalizePath rules[index].pathPrefix) found).map fun _ => index := by
      intro found
      simp only [resolvedRule, if_pos absolute]
    rw [freshResolution, pathPrefix_resolvedRule absolute, if_pos prefixAbsolute,
      Active.resolvedPrefix, stored]
    cases kept : keptName (chaosIoNormalizePath rules[index].pathPrefix)
        (resolution tree (chaosIoNormalizePath rules[index].pathPrefix)) with
    | none => rfl
    | some name =>
        have text : resolvedText rules (fun index => (rules[index]?).bind fun rule =>
            resolution tree (chaosIoNormalizePath rule.pathPrefix)) index = name.text := by
          rw [resolvedText, there]
          dsimp only
          rw [Option.bind_some, kept]
          rfl
        exact congrArg some text
  · have relative : (resolvedRule index rules[index]
        (resolution tree (chaosIoNormalizePath rules[index].pathPrefix))).pathPrefix =
        rules[index].pathPrefix := if_neg absolute
    rw [freshResolution, relative, if_neg absolute, Active.resolvedPrefix]
    simp only [resolvedRule, if_neg absolute, Option.map_none]

/-! ## Invariant -/

/-- The rules are resolved as they were in some tree; in this one if it has not changed. -/
structure Resolved (world : World) : Prop where
  once : ∃ tree, world.active.Fresh tree
  now : world.changed = false → world.active.Fresh world.tree

theorem resolved_resolve (world : World) (rules : List ChaosIoRule) (now : UInt64)
    (outcome : Outcome) : Resolved (world.resolve rules now outcome) where
  once := ⟨world.tree, fresh_chaosIoConfigResolveRules world.tree now rules⟩
  now _ := fresh_chaosIoConfigResolveRules world.tree now rules

/-- What a re-check does. -/
theorem step_check {world after : World} {now : UInt64}
    (stepped : step world (.check now) = some after) :
    (chaosIoConfigLinksDue world.active now = false ∧
      after = { world with outcome := .other }) ∨
    (chaosIoConfigLinksDue world.active now = true ∧
      world.active.rules.any (world.active.moved world.tree) = true ∧
      after = world.resolve world.source now (.reloaded world.changed)) ∨
    (chaosIoConfigLinksDue world.active now = true ∧
      world.active.rules.any (world.active.moved world.tree) = false ∧
      after =
        { world with active := { world.active with resolvedMs := now }, outcome := .kept }) := by
  cases due : chaosIoConfigLinksDue world.active now with
  | false =>
      have result : chaosIoConfigLinksMoved world.tree now world.active =
          (false, world.active) := by
        rw [chaosIoConfigLinksMoved, due]
        rfl
      simp only [step, result, due] at stepped
      cases stepped
      exact Or.inl ⟨rfl, rfl⟩
  | true =>
      cases moved : world.active.rules.any (world.active.moved world.tree) with
      | false =>
          have result : chaosIoConfigLinksMoved world.tree now world.active =
              (false, { world.active with resolvedMs := now }) := by
            rw [chaosIoConfigLinksMoved, due, moved]
            rfl
          simp only [step, result, due] at stepped
          cases stepped
          exact Or.inr (Or.inr ⟨rfl, rfl, rfl⟩)
      | true =>
          have result : chaosIoConfigLinksMoved world.tree now world.active =
              (true, world.active) := by
            rw [chaosIoConfigLinksMoved, due, moved]
            rfl
          simp only [step, result] at stepped
          cases stepped
          exact Or.inr (Or.inl ⟨rfl, rfl, rfl⟩)

theorem resolved_step {world after : World} {label : Label} (resolved : Resolved world)
    (stepped : step world label = some after) : Resolved after := by
  cases label with
  | change tree =>
      cases stepped
      exact ⟨resolved.once, nofun⟩
  | load rules now =>
      cases stepped
      exact resolved_resolve world rules now .other
  | check now =>
      rcases step_check stepped with ⟨-, rfl⟩ | ⟨-, -, rfl⟩ | ⟨-, -, rfl⟩
      · exact ⟨resolved.once, resolved.now⟩
      · exact resolved_resolve world world.source now _
      · exact ⟨resolved.once, resolved.now⟩

theorem rechecked_step {world after : World} {label : Label} (resolved : Resolved world)
    (resolves : Resolves world label) (stepped : step world label = some after) :
    Rechecked after := by
  cases label with
  | change tree =>
      cases stepped
      exact ⟨nofun, nofun⟩
  | load rules now =>
      cases stepped
      exact ⟨nofun, nofun⟩
  | check now =>
      rcases step_check stepped with ⟨-, rfl⟩ | ⟨due, moved, rfl⟩ | ⟨due, still, rfl⟩
      · exact ⟨nofun, nofun⟩
      · refine ⟨nofun, fun quiet => ?_⟩
        have unchanged : world.changed = false := Outcome.reloaded.inj quiet
        rcases List.any_eq_true.mp moved with ⟨rule, member, here⟩
        have stored := resolved.now unchanged rule member
        exact (moved_iff_not_fits stored).mp here ((resolves due).2 unchanged rule member)
      · refine ⟨fun _ rule member => ?_, nofun⟩
        have unmoved : ∀ rule ∈ world.active.rules,
            world.active.moved world.tree rule = false := by
          intro rule member
          by_contra moves
          have some := List.any_eq_true.mpr
            ⟨rule, member, Bool.eq_true_of_not_eq_false moves⟩
          rw [still] at some
          cases some
        rcases resolved.once with ⟨before, stored⟩
        rcases (resolves due).1 with ⟨other, inside, moves⟩ | all
        · rw [unmoved other inside] at moves
          cases moves
        · exact @fresh_of_not_moved _ _ world.active rule (stored rule member)
            (all rule member) (unmoved rule member)

/-- A step that does not meet the condition leaves a rule wrong, or reloads for nothing. -/
theorem not_rechecked_step {world after : World} {label : Label} (resolved : Resolved world)
    (unmet : ¬ Resolves world label) (stepped : step world label = some after) :
    ¬ Rechecked after := by
  intro rechecked
  cases label with
  | change tree => exact unmet trivial
  | load rules now => exact unmet trivial
  | check now =>
      refine unmet fun due => ?_
      rcases step_check stepped with ⟨notDue, -⟩ | ⟨-, moved, rfl⟩ | ⟨-, still, rfl⟩
      · rw [due] at notDue
        cases notDue
      · refine ⟨Or.inl (List.any_eq_true.mp moved), fun unchanged => ?_⟩
        exact absurd (congrArg Outcome.reloaded unchanged) rechecked.quiet
      · refine ⟨Or.inr fun rule member linked gone => ?_, fun unchanged rule member => ?_⟩
        · have fresh := rechecked.fresh rfl rule member
          rw [freshResolution_of_none gone] at fresh
          exact linked fresh
        · by_contra long
          have moves := (moved_iff_not_fits (resolved.now unchanged rule member)).mpr long
          have some := List.any_eq_true.mpr ⟨rule, member, moves⟩
          rw [still] at some
          cases some

/--
In every run, a re-check that keeps the snapshot leaves every rule resolved as it would be
now and none reloads it while the tree has not changed, exactly as long as the rules with
a link still resolve and the names fit.
-/
theorem rechecked_throughout_iff (tree : Tree) (labels : List Label) :
    Throughout step Rechecked (World.initial tree) labels ↔
      Meets step Resolves (World.initial tree) labels :=
  @throughout_iff_meets _ _ step (fun _ => True) Resolves
    (fun world => Resolved world ∧ Rechecked world) Rechecked
    (fun _ _ _ _ holds resolves stepped =>
      ⟨resolved_step holds.1 stepped, rechecked_step holds.1 resolves stepped⟩)
    (fun _ holds => holds.2)
    (fun _ _ _ _ holds unmet stepped => not_rechecked_step holds.1 unmet stepped)
    _ labels (fun _ _ => trivial)
    ⟨⟨⟨tree, fun _ member => nomatch member⟩, fun _ _ member => nomatch member⟩,
      nofun, nofun⟩

/-! ## A link that is removed, and a name that does not fit -/

/-- `/data:read:LATENCY:1`. -/
def dataRule : ChaosIoRule where
  pathPrefix := bytes "/data"
  pathLen := 5
  resolvedPrefix := none
  resolvedLen := 0
  operation := .read
  effect := .latency
  errnum := 0
  probability := ⟨0, 1⟩
  latencyMs := 1
  policy := {}
  callSize := chaosPolicyNoSize
  hit := none
  hitGeneration := 0

/-- A tree with a directory, which `/data` may be a link to. -/
def treeOf (directory : RealName) (linked : Bool) : Tree where
  realpath path :=
    if path = directory.text then some directory
    else if linked && path == bytes "/data" then some directory
    else none

/-- The directory `/mnt`. -/
def mnt : RealName :=
  ⟨bytes "/mnt", by decide⟩

/-- A directory whose name is 1024 bytes long. -/
def longName : RealName :=
  ⟨byte '/' :: List.replicate 1023 (byte 'd'), rfl⟩

/-- The link is removed before the re-check. -/
def linkRemoved : List Label :=
  [.load [dataRule] 0, .change (treeOf mnt false), .check 1000]

/-- Nothing changes before the re-check. -/
def nothingChanged : List Label :=
  [.load [dataRule] 0, .check 1000]

theorem linkRemoved_isSome :
    (run step (World.initial (treeOf mnt true)) linkRemoved).isSome = true := by
  decide +kernel

theorem nothingChanged_isSome :
    (run step (World.initial (treeOf longName true)) nothingChanged).isSome = true := by
  decide +kernel

/-- The rule still covers `/mnt`. -/
def World.afterRemoved : World :=
  (run step (World.initial (treeOf mnt true)) linkRemoved).get linkRemoved_isSome

/-- The rules have been loaded again. -/
def World.afterNothing : World :=
  (run step (World.initial (treeOf longName true)) nothingChanged).get
    nothingChanged_isSome

/-- A re-check keeps the resolution of a link that is gone; another one reloads for nothing. -/
theorem rechecks_not_faithful :
    ¬ Throughout step Rechecked (World.initial (treeOf mnt true)) linkRemoved ∧
      ¬ Throughout step Rechecked (World.initial (treeOf longName true)) nothingChanged := by
  constructor
  · intro throughout
    have kept : World.afterRemoved.outcome = .kept := by decide +kernel
    have stale : World.afterRemoved.active.rules.any (fun rule =>
        World.afterRemoved.active.resolvedPrefix rule !=
          freshResolution World.afterRemoved.tree rule) = true := by
      decide +kernel
    have last : Rechecked World.afterRemoved :=
      throughout.final (Option.some_get linkRemoved_isSome).symm
    rcases List.any_eq_true.mp stale with ⟨rule, member, different⟩
    exact bne_iff_ne.mp different (last.fresh kept rule member)
  · intro throughout
    have last : Rechecked World.afterNothing :=
      throughout.final (Option.some_get nothingChanged_isSome).symm
    exact last.quiet (by decide +kernel)

/-- A link that is retargeted is found. -/
example :
    (run step (World.initial (treeOf mnt true))
      [.load [dataRule] 0, .change (treeOf ⟨bytes "/opt", by decide⟩ true),
        .check 1000]).map World.outcome = some (.reloaded true) := by
  decide +kernel

end ChaosLibs.Io.LinkRecheck
