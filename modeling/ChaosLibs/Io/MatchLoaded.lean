import ChaosLibs.Common.SnapshotSeqlock
import ChaosLibs.Io.Rule

/-!
# Matching against the loaded snapshot

`chaos_io_config_match_loaded` and `chaos_io_config_select_rule`, twice: as the
function of a snapshot that holds still, and as the reads a thread makes of a
snapshot that a reload may be clearing.  A cell is a member of the snapshot or
of one of its rules; character arrays are one cell each.
-/

namespace ChaosLibs.Io.MatchLoaded

open ChaosLibs.Machine
open ChaosLibs.Common.CString
open ChaosLibs.Common.HitSlots
open ChaosLibs.Common.RulePolicy
open ChaosLibs.Common.SnapshotSeqlock
open ChaosLibs.Io.Rule

/-! ## The snapshot in memory -/

/-- The members of `chaos_io_rule_t`, those of its policy included. -/
inductive Member where
  | pathPrefix
  | pathLen
  | resolvedPrefix
  | resolvedLen
  | operation
  | effect
  | errnum
  | probability
  | latencyMs
  | first
  | fromMs
  | untilMs
  | sizeAbove
  | sizeBelow
  | hasSizeAbove
  | hasSizeBelow
  | callSize
  | hit
  | hitGeneration
deriving DecidableEq, Repr

/-- The pointer to a resolved prefix is the index of its text in `resolved`. -/
abbrev Member.Value : Member → Type
  | .pathPrefix => Bytes
  | .resolvedPrefix => Option Nat
  | .operation => ChaosIoOperation
  | .effect => ChaosIoEffect
  | .probability => Probability
  | .hasSizeAbove | .hasSizeBelow => Bool
  | .hit => Option (SlotId chaosIoMaxRules)
  | .pathLen | .resolvedLen | .errnum | .latencyMs | .first | .fromMs
  | .untilMs | .sizeAbove | .sizeBelow | .callSize | .hitGeneration => Nat

/-- The members of `chaos_io_config_state_t` that a match or a reset names. -/
inductive Cell where
  | rule (index : Nat) (member : Member)
  | ruleCount
  | parseOk
  | resolved (index : Nat)
deriving DecidableEq, Repr

abbrev Cell.Value : Cell → Type
  | .rule _ member => member.Value
  | .ruleCount => Nat
  | .parseOk => Bool
  | .resolved _ => Bytes

/-- A snapshot's members. -/
abbrev Memory : Type :=
  ∀ cell : Cell, cell.Value

/-- All bytes 0. -/
def Memory.cleared : Memory
  | .rule _ member =>
      match member with
      | .pathPrefix => []
      | .resolvedPrefix => none
      | .operation => .read
      | .effect => .errno
      | .probability => ⟨0, 1⟩
      | .hasSizeAbove | .hasSizeBelow => false
      | .hit => none
      | .pathLen | .resolvedLen | .errnum | .latencyMs | .first | .fromMs
      | .untilMs | .sizeAbove | .sizeBelow | .callSize | .hitGeneration =>
          (0 : Nat)
  | .ruleCount => (0 : Nat)
  | .parseOk => false
  | .resolved _ => []

/-- `chaos_io_rule_t` as it lies in a snapshot and as it is copied out. -/
structure StoredRule where
  pathPrefix : Bytes
  pathLen : Nat
  resolvedPrefix : Option Nat
  resolvedLen : Nat
  operation : ChaosIoOperation
  effect : ChaosIoEffect
  errnum : Nat
  probability : Probability
  latencyMs : Nat
  policy : ChaosRulePolicy
  callSize : Nat
  hit : Option (SlotId chaosIoMaxRules)
  hitGeneration : Nat
deriving DecidableEq, Repr

/-- The rule at an index of a snapshot that holds still. -/
def Memory.rule (memory : Memory) (index : Nat) : StoredRule where
  pathPrefix := memory (.rule index .pathPrefix)
  pathLen := memory (.rule index .pathLen)
  resolvedPrefix := memory (.rule index .resolvedPrefix)
  resolvedLen := memory (.rule index .resolvedLen)
  operation := memory (.rule index .operation)
  effect := memory (.rule index .effect)
  errnum := memory (.rule index .errnum)
  probability := memory (.rule index .probability)
  latencyMs := memory (.rule index .latencyMs)
  policy :=
    { first := memory (.rule index .first)
      fromMs := memory (.rule index .fromMs)
      untilMs := memory (.rule index .untilMs)
      sizeAbove := memory (.rule index .sizeAbove)
      sizeBelow := memory (.rule index .sizeBelow)
      hasSizeAbove := memory (.rule index .hasSizeAbove)
      hasSizeBelow := memory (.rule index .hasSizeBelow) }
  callSize := memory (.rule index .callSize)
  hit := memory (.rule index .hit)
  hitGeneration := memory (.rule index .hitGeneration)

/-- The valid entries of `rules`. -/
def Memory.rules (memory : Memory) : List StoredRule :=
  (List.range (memory .ruleCount)).map memory.rule

/-! ## Selection in a snapshot that holds still -/

/-- What a match is asked for. -/
structure Call where
  operation : ChaosIoOperation
  path : Bytes
deriving DecidableEq, Repr

/-- `chaos_io_prefix_covers`. -/
def chaosIoPrefixCovers (text : Bytes) (length : Nat) (path : Bytes) : Bool :=
  if path.take length ≠ text.take length then
    false
  else
    path.getD length 0 = 0 ||
      (0 < length && text.getD (length - 1) 0 = byte '/') ||
        path.getD length 0 = byte '/'

/-- The paths that `*` covers. -/
def coveredByStar (path : Bytes) : Bool :=
  path.getD 0 0 == byte '/' && !startsWith (bytes "/memfd:") path

/-- `chaos_io_rule_prefix_matches`, the texts behind the pointers in `resolved`. -/
def chaosIoRulePrefixMatches
    (resolved : Nat → Bytes) (rule : StoredRule) (path : Bytes) : Bool :=
  if rule.pathPrefix = bytes "*" then
    coveredByStar path
  else
    chaosIoPrefixCovers rule.pathPrefix rule.pathLen path ||
      match rule.resolvedPrefix with
      | none => false
      | some index =>
          chaosIoPrefixCovers (resolved index) rule.resolvedLen path

/-- The loop body of `chaos_io_config_select_rule`. -/
def selectStep
    (resolved : Nat → Bytes) (call : Call) (best : Option StoredRule)
    (candidate : StoredRule) : Option StoredRule :=
  if candidate.operation ≠ call.operation then
    best
  else if chaosIoRulePrefixMatches resolved candidate call.path then
    match best with
    | none => some candidate
    | some other =>
        if other.pathLen < candidate.pathLen then some candidate else best
  else
    best

/-- `chaos_io_config_select_rule`. -/
def chaosIoConfigSelectRule
    (resolved : Nat → Bytes) (rules : List StoredRule) (call : Call) :
    Option StoredRule :=
  rules.foldl (selectStep resolved call) none

/-- The rule a whole snapshot holds for a call. -/
def Memory.select (memory : Memory) (call : Call) : Option StoredRule :=
  chaosIoConfigSelectRule (fun index => memory (.resolved index)) memory.rules
    call

/-! ## Selection by single reads -/

/-- A computation over a snapshot that may change. -/
abbrev Reads (Result : Type) : Type :=
  ReadProgram Cell Cell.Value Result

/-! One read of each member that the selection looks at. -/

def loadPathPrefix (index : Nat) : Reads Bytes :=
  ReadProgram.load (Cell.rule index .pathPrefix)

def loadPathLen (index : Nat) : Reads Nat :=
  ReadProgram.load (Cell.rule index .pathLen)

def loadResolvedPrefix (index : Nat) : Reads (Option Nat) :=
  ReadProgram.load (Cell.rule index .resolvedPrefix)

def loadResolvedLen (index : Nat) : Reads Nat :=
  ReadProgram.load (Cell.rule index .resolvedLen)

def loadOperation (index : Nat) : Reads ChaosIoOperation :=
  ReadProgram.load (Cell.rule index .operation)

def loadRuleCount : Reads Nat :=
  ReadProgram.load Cell.ruleCount

def loadResolved (target : Nat) : Reads Bytes :=
  ReadProgram.load (Cell.resolved target)

def load (cell : Cell) : Reads cell.Value :=
  ReadProgram.load cell

/-- `chaos_io_prefix_covers`, the text being read from the snapshot. -/
def readPrefixCovers (text : Reads Bytes) (length : Nat) (path : Bytes) :
    Reads Bool := do
  let compared ← text
  if path.take length ≠ compared.take length then
    return false
  if path.getD length 0 = 0 then
    return true
  if 0 < length then
    let again ← text
    if again.getD (length - 1) 0 = byte '/' then
      return true
  return path.getD length 0 = byte '/'

/-- `chaos_io_rule_prefix_matches` of the rule at an index. -/
def readPrefixMatches (index : Nat) (path : Bytes) : Reads Bool := do
  let text ← loadPathPrefix index
  if text = bytes "*" then
    return coveredByStar path
  let length ← loadPathLen index
  if ← readPrefixCovers (loadPathPrefix index) length path then
    return true
  let pointer ← loadResolvedPrefix index
  match pointer with
  | none => return false
  | some target =>
      let length ← loadResolvedLen index
      readPrefixCovers (loadResolved target) length path

/-- The loop body of `chaos_io_config_select_rule`; `best` is an index. -/
def readSelectStep (call : Call) (best : Option Nat) (index : Nat) :
    Reads (Option Nat) := do
  let operation ← loadOperation index
  if operation ≠ call.operation then
    return best
  if ← readPrefixMatches index call.path then
    match best with
    | none => return some index
    | some other =>
        let length ← loadPathLen index
        let otherLength ← loadPathLen other
        return if otherLength < length then some index else best
  else
    return best

/-- `*rule = *best`. -/
def readRule (index : Nat) : Reads StoredRule := do
  let pathPrefix ← loadPathPrefix index
  let pathLen ← loadPathLen index
  let resolvedPrefix ← loadResolvedPrefix index
  let resolvedLen ← loadResolvedLen index
  let operation ← loadOperation index
  let effect : ChaosIoEffect ← load (.rule index .effect)
  let errnum : Nat ← load (.rule index .errnum)
  let probability : Probability ← load (.rule index .probability)
  let latencyMs : Nat ← load (.rule index .latencyMs)
  let first : Nat ← load (.rule index .first)
  let fromMs : Nat ← load (.rule index .fromMs)
  let untilMs : Nat ← load (.rule index .untilMs)
  let sizeAbove : Nat ← load (.rule index .sizeAbove)
  let sizeBelow : Nat ← load (.rule index .sizeBelow)
  let hasSizeAbove : Bool ← load (.rule index .hasSizeAbove)
  let hasSizeBelow : Bool ← load (.rule index .hasSizeBelow)
  let callSize : Nat ← load (.rule index .callSize)
  let hit : Option (SlotId chaosIoMaxRules) ← load (.rule index .hit)
  let hitGeneration : Nat ← load (.rule index .hitGeneration)
  return {
    pathPrefix, pathLen, resolvedPrefix, resolvedLen, operation, effect,
    errnum, probability, latencyMs, callSize, hit, hitGeneration
    policy := {
      first, fromMs, untilMs, sizeAbove, sizeBelow, hasSizeAbove, hasSizeBelow
    }
  }

/--
The reads of `chaos_io_config_match_loaded` between its two looks at the
sequence word.
-/
def chaosIoConfigMatchLoaded (call : Call) : Reads (Option StoredRule) := do
  let loaded ← loadRuleCount
  if loaded = 0 then
    return none
  let ruleCount ← loadRuleCount
  let best ← (List.range ruleCount).foldlM (readSelectStep call) none
  match best with
  | none => return none
  | some index => some <$> readRule index

/-! ## The reads of a snapshot that holds still -/

section

variable (memory : Memory)

@[simp]
theorem eval_loadPathPrefix (index : Nat) :
    (loadPathPrefix index).eval memory = (memory.rule index).pathPrefix :=
  rfl

@[simp]
theorem eval_loadPathLen (index : Nat) :
    (loadPathLen index).eval memory = (memory.rule index).pathLen :=
  rfl

@[simp]
theorem eval_loadResolvedPrefix (index : Nat) :
    (loadResolvedPrefix index).eval memory =
      (memory.rule index).resolvedPrefix :=
  rfl

@[simp]
theorem eval_loadResolvedLen (index : Nat) :
    (loadResolvedLen index).eval memory = (memory.rule index).resolvedLen :=
  rfl

@[simp]
theorem eval_loadOperation (index : Nat) :
    (loadOperation index).eval memory = (memory.rule index).operation :=
  rfl

@[simp]
theorem eval_loadRuleCount :
    loadRuleCount.eval memory = memory .ruleCount :=
  rfl

@[simp]
theorem eval_loadResolved (target : Nat) :
    (loadResolved target).eval memory = memory (.resolved target) :=
  rfl

@[simp]
theorem eval_readRule (index : Nat) :
    (readRule index).eval memory = memory.rule index :=
  rfl

@[simp]
theorem eval_readPrefixCovers
    (text : Reads Bytes) (length : Nat) (path : Bytes) :
    (readPrefixCovers text length path).eval memory =
      chaosIoPrefixCovers (text.eval memory) length path := by
  unfold readPrefixCovers chaosIoPrefixCovers
  simp only [ReadProgram.eval_bind, ReadProgram.eval_ite, ReadProgram.eval_pure]
  split
  · rfl
  · by_cases ended : path.getD length 0 = 0
    · simp only [ended]; simp
    · by_cases some : 0 < length
      · by_cases slash : (text.eval memory).getD (length - 1) 0 = byte '/'
        · simp only [ended, slash, some]; simp
        · simp only [ended, slash, some]; simp
      · simp only [ended, some]; simp

@[simp]
theorem eval_readPrefixMatches (index : Nat) (path : Bytes) :
    (readPrefixMatches index path).eval memory =
      chaosIoRulePrefixMatches (fun target => memory (.resolved target))
        (memory.rule index) path := by
  unfold readPrefixMatches chaosIoRulePrefixMatches
  rw [ReadProgram.eval_bind, eval_loadPathPrefix]
  by_cases star : (memory.rule index).pathPrefix = bytes "*"
  · rw [if_pos star, if_pos star]
    rfl
  · rw [if_neg star, if_neg star]
    simp only [ReadProgram.eval_bind, eval_loadPathLen, eval_loadPathPrefix,
      eval_readPrefixCovers]
    cases covers : chaosIoPrefixCovers (memory.rule index).pathPrefix
        (memory.rule index).pathLen path with
    | true => rfl
    | false =>
        simp only [Bool.false_eq_true, if_false, Bool.false_or,
          ReadProgram.eval_bind, eval_loadResolvedPrefix]
        cases pointer : (memory.rule index).resolvedPrefix with
        | none => rfl
        | some target =>
            simp only [ReadProgram.eval_bind, eval_loadResolvedLen,
              eval_readPrefixCovers, eval_loadResolved]

/-- One round of the loop, the best rule so far being that at `best`. -/
theorem eval_readSelectStep (call : Call) (best : Option Nat) (index : Nat) :
    ((readSelectStep call best index).eval memory).map memory.rule =
      selectStep (fun target => memory (.resolved target)) call
        (best.map memory.rule) (memory.rule index) := by
  unfold readSelectStep selectStep
  rw [ReadProgram.eval_bind, eval_loadOperation]
  by_cases other : (memory.rule index).operation ≠ call.operation
  · rw [if_pos other, if_pos other]
    rfl
  · rw [if_neg other, if_neg other, ReadProgram.eval_bind,
      eval_readPrefixMatches]
    split
    · cases best with
      | none => rfl
      | some other =>
          simp only [ReadProgram.eval_bind, ReadProgram.eval_pure,
            eval_loadPathLen, Option.map_some]
          exact apply_ite (Option.map memory.rule) _ _ _
    · rfl

/-- The whole loop. -/
theorem eval_readSelect (call : Call) (indices : List Nat) (best : Option Nat) :
    ((indices.foldlM (readSelectStep call) best).eval memory).map memory.rule =
      (indices.map memory.rule).foldl
        (selectStep (fun target => memory (.resolved target)) call)
        (best.map memory.rule) := by
  induction indices generalizing best with
  | nil => rfl
  | cons index rest induction =>
      rw [List.foldlM_cons, ReadProgram.eval_bind, induction,
        eval_readSelectStep]
      rfl

/-- The reads find what the selection picks. -/
theorem eval_chaosIoConfigMatchLoaded (call : Call) :
    (chaosIoConfigMatchLoaded call).eval memory = memory.select call := by
  have loop :=
    eval_readSelect memory call (List.range (memory .ruleCount)) none
  rw [Option.map_none] at loop
  rw [Memory.select, chaosIoConfigSelectRule, Memory.rules, ← loop]
  rw [chaosIoConfigMatchLoaded, ReadProgram.eval_bind, eval_loadRuleCount]
  by_cases empty : memory .ruleCount = 0
  · rw [if_pos empty, empty]
    rfl
  · rw [if_neg empty, ReadProgram.eval_bind, ReadProgram.eval_bind,
      eval_loadRuleCount]
    split
    · rename_i missing
      rw [missing]
      rfl
    · rename_i index found
      rw [found]
      rfl

end

/-! ## The rule that is picked -/

/-- What a round of the loop keeps is a candidate it has seen. -/
theorem mem_of_selectStep
    {resolved : Nat → Bytes} {call : Call} {best : Option StoredRule}
    {candidate rule : StoredRule}
    (picked : selectStep resolved call best candidate = some rule) :
    best = some rule ∨ candidate = rule := by
  unfold selectStep at picked
  split at picked
  · exact Or.inl picked
  · split at picked
    · split at picked
      · exact Or.inr (Option.some.inj picked)
      · split at picked
        · exact Or.inr (Option.some.inj picked)
        · exact Or.inl picked
    · exact Or.inl picked

theorem mem_of_select
    {resolved : Nat → Bytes} {call : Call} {rules : List StoredRule}
    {best : Option StoredRule} {rule : StoredRule}
    (picked : rules.foldl (selectStep resolved call) best = some rule) :
    best = some rule ∨ rule ∈ rules := by
  induction rules generalizing best with
  | nil => exact Or.inl picked
  | cons candidate rest induction =>
      rcases induction picked with round | later
      · rcases mem_of_selectStep round with earlier | here
        · exact Or.inl earlier
        · exact Or.inr (here ▸ List.mem_cons_self)
      · exact Or.inr (List.mem_cons_of_mem _ later)

/-- The rule picked in a snapshot is one of its rules. -/
theorem Memory.mem_rules_of_select
    {memory : Memory} {call : Call} {rule : StoredRule}
    (picked : memory.select call = some rule) : rule ∈ memory.rules := by
  rcases mem_of_select picked with none | member
  · exact absurd none (by simp)
  · exact member

/-! ## Matching threads and reloads -/

/-- The snapshots of libchaos-io. -/
def layout : Layout Cell Cell.Value Call StoredRule where
  cleared := Memory.cleared
  copyRule := chaosIoConfigMatchLoaded

/--
Every accepted copy is a rule of a snapshot that was published whole, the one
that is picked there for the call.
-/
def SelectsPublished (world : World Cell Cell.Value Call StoredRule) : Prop :=
  ∀ call rule, (call, rule) ∈ world.accepted →
    ∃ memory : Memory, memory ∈ world.published ∧ rule ∈ memory.rules ∧
      memory.select call = some rule

/--
In every run in which no call passes its check on a sequence word that a
`memset` had cleared, or that has wrapped around, every accepted copy is the
rule picked in one published snapshot.
-/
theorem accepted_rule_is_published
    (labels : List (Action Cell Cell.Value Call))
    (trueWords : Meets (step layout) WordIsTrue (initial layout) labels) :
    Throughout (step layout) SelectsPublished (initial layout) labels := by
  have throughout := acceptsPublished_of_wordIsTrue layout trueWords
  intro before after middle split ran call rule member
  rcases throughout before after middle split ran call rule member with
    ⟨memory, published, copied⟩
  have picked : Memory.select memory call = some rule :=
    (eval_chaosIoConfigMatchLoaded memory call).symm.trans copied
  exact ⟨memory, published, Memory.mem_rules_of_select picked, picked⟩

/-! ## A copy that spans the `memset` -/

/-- The members of a rule, in the order of their stores. -/
def storeRule (rule : StoredRule) : List (WriterStep Cell Cell.Value) :=
  [.store (.rule 0 .pathPrefix) rule.pathPrefix,
    .store (.rule 0 .pathLen) rule.pathLen,
    .store (.rule 0 .operation) rule.operation,
    .store (.rule 0 .effect) rule.effect,
    .store (.rule 0 .errnum) rule.errnum,
    .store (.rule 0 .probability) rule.probability,
    .store (.rule 0 .callSize) rule.callSize,
    .store .ruleCount (1 : Nat),
    .store (.rule 0 .hit) rule.hit,
    .store (.rule 0 .hitGeneration) rule.hitGeneration]

/-- A reload of a file with one rule. -/
def reloadSteps (rule : StoredRule) : List (WriterStep Cell Cell.Value) :=
  [.claim, .next, .next, .cleared, .next, .store .parseOk true] ++
    storeRule rule ++ [.writeEnd, .next]

def reload (rule : StoredRule) : List (Action Cell Cell.Value Call) :=
  (reloadSteps rule).map .writer

/-- `open` fails with `EIO` below the path. -/
def openFails (pathPrefix : Bytes) (slot : SlotId chaosIoMaxRules) :
    StoredRule where
  pathPrefix := pathPrefix
  pathLen := pathPrefix.length
  resolvedPrefix := none
  resolvedLen := 0
  operation := .open
  effect := .errno
  errnum := 5
  probability := ⟨10, 10⟩
  latencyMs := 0
  policy := {}
  callSize := chaosPolicyNoSize
  hit := some slot
  hitGeneration := 1

/-- A thread takes `count` steps of its call. -/
def turns (count : Nat) : List (Action Cell Cell.Value Call) :=
  List.replicate count (.reader 0)

/-- A rule is loaded, and a call matches it while the next reload fills. -/
def matchDuringReload : List (Action Cell Cell.Value Call) :=
  reload (openFails (bytes "/a") 0) ++
    .call 0 ⟨.open, bytes "/a/b"⟩ :: turns 15 ++
    (reload (openFails (bytes "/c") 1)).take 12 ++ turns 14

theorem accepted_rule_is_published_matchDuringReload :
    Throughout (step layout) SelectsPublished (initial layout)
        matchDuringReload ∧
      (run (step layout) (initial layout) matchDuringReload).map
          World.accepted =
        some [(⟨.open, bytes "/a/b"⟩, openFails (bytes "/a") 0)] :=
  ⟨accepted_rule_is_published matchDuringReload (by decide +kernel),
    by decide +kernel⟩

/--
A thread finds the first rule's snapshot active and is preempted for two
reloads.  The second is clearing that snapshot, the sequence word first, when
the thread samples the word, selects the rule and copies it; the slot is
cleared under the copy.
-/
def copyDuringClear : List (Action Cell Cell.Value Call) :=
  reload (openFails (bytes "/a") 0) ++ [.call 0 ⟨.open, bytes "/a/b"⟩] ++
    reload (openFails (bytes "/c") 1) ++
    [.writer .claim, .writer .next, .writer .next, .writer .clearSequence] ++
    turns 10 ++ [.writer (.clear (.rule 0 .hit))] ++ turns 19

/-- The copy is accepted, with the members of the rule and no slot. -/
theorem copyDuringClear_accepts_torn :
    ∃ final, run (step layout) (initial layout) copyDuringClear = some final ∧
      final.accepted =
        [(⟨.open, bytes "/a/b"⟩,
          { openFails (bytes "/a") 0 with hit := none })] ∧
      ¬ SelectsPublished final := by
  have ended :
      (run (step layout) (initial layout) copyDuringClear).map
          (fun final =>
            (final.accepted,
              final.published.map fun memory =>
                Memory.select memory ⟨.open, bytes "/a/b"⟩)) =
        some
          ([(⟨.open, bytes "/a/b"⟩,
              { openFails (bytes "/a") 0 with hit := none })],
            [none, some (openFails (bytes "/a") 0), none]) := by
    decide +kernel
  rcases Option.map_eq_some_iff.mp ended with ⟨final, ran, values⟩
  simp only [Prod.mk.injEq] at values
  rcases values with ⟨accepted, picked⟩
  refine ⟨final, ran, accepted, ?_⟩
  intro selects
  rcases selects _ _ (accepted ▸ List.mem_singleton_self _) with
    ⟨memory, published, -, found⟩
  have listed :
      some { openFails (bytes "/a") 0 with hit := none } ∈
        final.published.map fun memory =>
          Memory.select memory ⟨.open, bytes "/a/b"⟩ :=
    List.mem_map.mpr ⟨memory, published, found⟩
  rw [picked] at listed
  exact absurd listed (by decide)

end ChaosLibs.Io.MatchLoaded
