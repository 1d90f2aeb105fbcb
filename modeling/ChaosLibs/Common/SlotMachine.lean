import ChaosLibs.Common.HitSlots
import ChaosLibs.Machine.LabelledRun

/-!
# The slot machine

One process of a library as its hit slots see it: the reload owner, which
assigns, captures, releases and publishes one store at a time
(`chaos_io_config_reload` from `chaos_io_config_attach_hits` on), and any
number of threads inside `chaos_policy_fire`, which share nothing with it but
the slots.  A `fork` label continues the run in the child.

A reload that publishes nothing (a transient read failure, an unchanged
provisional re-read) makes no store into the pool; a missing or rejected file
publishes a snapshot without rules.

The `history` component is a ghost: no step of the code reads it.
-/

namespace ChaosLibs.Common.SlotMachine

open ChaosLibs.Common.CString
open ChaosLibs.Common.HitSlots

variable {limit : Nat}

/-! ## Rules and reload outcomes -/

/-- A parsed rule as the slot pool sees it: its kept text and `policy.first`. -/
structure HitRule where
  text : Bytes
  first : Nat
deriving DecidableEq, Repr

/-- The rules of an accepted file; a parser never returns more than the limit. -/
structure RuleSet (limit : Nat) where
  rules : List HitRule
  bounded : rules.length ≤ limit

/-- What a claimed reload comes to. -/
inductive Outcome (limit : Nat) where
  | missing
  | rejected
  | accepted (rules : RuleSet limit)
  | failed
  | unchanged

/-- The rules of the snapshot an outcome publishes; `none` when it publishes none. -/
def Outcome.published : Outcome limit → Option (List HitRule)
  | .missing | .rejected => some []
  | .accepted rules => some rules.rules
  | .failed | .unchanged => none

theorem Outcome.published_bounded
    {outcome : Outcome limit} {rules : List HitRule}
    (published : outcome.published = some rules) :
    rules.length ≤ limit := by
  cases outcome with
  | missing =>
      simp only [Outcome.published, Option.some.injEq] at published
      simp [← published]
  | rejected =>
      simp only [Outcome.published, Option.some.injEq] at published
      simp [← published]
  | accepted set =>
      simp only [Outcome.published, Option.some.injEq] at published
      exact published ▸ set.bounded
  | failed => simp [Outcome.published] at published
  | unchanged => simp [Outcome.published] at published

/--
A rule of a snapshot, and equally the copy of it a wrapper holds: text,
`policy.first`, `hit` and `hit_generation`.
-/
structure RuleCopy (limit : Nat) where
  text : Bytes
  first : Nat
  slot : Option (SlotId limit)
  generation : Nat
deriving DecidableEq, Repr

/-- The texts and slots of a snapshot. -/
def textSlots (rules : List (RuleCopy limit)) : List (TextSlot limit) :=
  rules.map fun rule => ⟨rule.text, rule.slot⟩

/-- The slot array `hits` of a snapshot. -/
def hits (rules : List (TextSlot limit)) : List (Option (SlotId limit)) :=
  rules.map TextSlot.slot

/-! ## The reload owner -/

/-- Where the loop body of `chaos_hits_assign` stands for the rule at hand. -/
inductive AssignStage (limit : Nat) where
  | pick
  | clearCount (slot : SlotId limit)
  | tagClaims (slot : SlotId limit)
  | clearState (slot : SlotId limit)
  | hold (slot : SlotId limit)
  | hook (slot : SlotId limit)
deriving DecidableEq, Repr

/-- A rule of the new snapshot and the slot its `next` entry received. -/
structure Assigned (limit : Nat) where
  rule : HitRule
  slot : Option (SlotId limit)
deriving DecidableEq, Repr

/-- Where the reload owner stands; `idle` between reloads. -/
inductive Owner (limit : Nat) where
  | idle
  | attach (rules : List HitRule)
  | assign (todo : List HitRule) (built : List (Assigned limit))
      (freeSlot : Nat) (stage : AssignStage limit)
  | release (index : Nat) (dropped : Bool) (next : List (RuleCopy limit))
  | publish (next : List (RuleCopy limit))
deriving DecidableEq, Repr

/-! ## Threads inside `chaos_policy_fire` -/

/-- Where a thread stands in `chaos_policy_fire`. -/
inductive FirePc (limit : Nat) where
  | idle
  | check (copy : RuleCopy limit)
  | load (copy : RuleCopy limit) (slot : SlotId limit)
  | swap (copy : RuleCopy limit) (slot : SlotId limit) (claimed : Nat)
  | record (copy : RuleCopy limit)
deriving DecidableEq, Repr

/-- The copy a thread inside `chaos_policy_fire` was called with. -/
def FirePc.copy : FirePc limit → Option (RuleCopy limit)
  | .idle => none
  | .check copy | .load copy _ | .swap copy _ _ | .record copy => some copy

/-! ## States -/

/--
Ghost record of a run.  `issued` lists the rules of every published snapshot;
`claims` the copies whose claim succeeded and `fired` those whose call counted
its hit and returns 1; `claimants` the threads between the two.
`claimEra` and `countEra` give the generation for which the claim word was
last tagged and the count last cleared.
-/
structure History (limit : Nat) where
  issued : List (RuleCopy limit)
  claims : List (RuleCopy limit)
  fired : List (RuleCopy limit)
  claimants : List Nat
  claimEra : SlotId limit → Nat
  countEra : SlotId limit → Nat

/-- A process: pool, active snapshot, reload owner, threads. -/
structure State (limit : Nat) where
  pool : Pool limit
  poolUsed : Bool
  active : List (RuleCopy limit)
  owner : Owner limit
  threads : Nat → FirePc limit
  history : History limit

/-- After `chaos_io_config_init`: the pool reset, no rule active. -/
def initial (limit : Nat) : State limit where
  pool := chaosHitsPoolReset fun _ => HitSlot.zero
  poolUsed := false
  active := []
  owner := .idle
  threads := fun _ => .idle
  history := ⟨[], [], [], [], fun _ => 1, fun _ => 1⟩

/-! ## Steps of the reload owner -/

/-- Carry out a store and move the owner on. -/
def State.store
    (state : State limit) (store : SlotStore limit) (owner : Owner limit) :
    State limit :=
  { state with pool := store.apply state.pool, owner := owner }

/--
`chaos_io_config_attach_hits` after the assignment: each rule captures its
slot and the slot's current generation (0 without a slot).
-/
def capture (pool : Pool limit) (built : List (Assigned limit)) :
    List (RuleCopy limit) :=
  built.map fun entry =>
    { text := entry.rule.text
      first := entry.rule.first
      slot := entry.slot
      generation :=
        match entry.slot with
        | some slot => (pool slot).generation
        | none => 0 }

/-- One step of the loop of `chaos_hits_assign` over a rule of the new snapshot. -/
def assignStep
    (state : State limit) (rule : HitRule) (todo : List HitRule)
    (built : List (Assigned limit)) (freeSlot : Nat) :
    AssignStage limit → State limit
  | .pick =>
      match inheritedSlot (textSlots state.active) rule.text with
      | some slot =>
          { state with owner := .assign (rule :: todo) built freeSlot (.hold slot) }
      | none =>
          match nextFreeSlot state.pool freeSlot with
          | some slot =>
              { state with
                owner :=
                  .assign (rule :: todo) built slot.val (.clearCount slot) }
          | none =>
              { state with
                owner :=
                  .assign todo (built ++ [⟨rule, none⟩]) (2 * limit) .pick }
  | .clearCount slot =>
      let next := state.store (.clearCount slot)
        (.assign (rule :: todo) built freeSlot (.tagClaims slot))
      { next with
        history.countEra :=
          Function.update state.history.countEra slot
            (state.pool slot).generation }
  | .tagClaims slot =>
      let next := state.store (.tagClaims slot)
        (.assign (rule :: todo) built freeSlot (.clearState slot))
      { next with
        history.claimEra :=
          Function.update state.history.claimEra slot
            (state.pool slot).generation }
  | .clearState slot =>
      state.store (.clearState slot)
        (.assign (rule :: todo) built freeSlot (.hold slot))
  | .hold slot =>
      state.store (.hold slot)
        (.assign (rule :: todo) built freeSlot (.hook slot))
  | .hook slot =>
      state.store (.hook slot)
        (.assign todo (built ++ [⟨rule, some slot⟩]) freeSlot .pick)

/-- One step of the loop of `chaos_hits_release` at one slot of the pool. -/
def releaseStep
    (state : State limit) (slot : SlotId limit) (dropped : Bool)
    (next : List (RuleCopy limit)) : State limit :=
  if dropped then
    state.store (.bump slot) (.release (slot.val + 1) false next)
  else if leaves state.pool (hits (textSlots next)) slot then
    state.store (.drop slot) (.release slot.val true next)
  else
    { state with owner := .release (slot.val + 1) false next }

theorem active_assignStep
    (state : State limit) (rule : HitRule) (todo : List HitRule)
    (built : List (Assigned limit)) (freeSlot : Nat) (stage : AssignStage limit) :
    (assignStep state rule todo built freeSlot stage).active = state.active := by
  cases stage with
  | pick =>
      simp only [assignStep]
      split
      · rfl
      · split <;> rfl
  | clearCount slot => rfl
  | tagClaims slot => rfl
  | clearState slot => rfl
  | hold slot => rfl
  | hook slot => rfl

theorem active_releaseStep
    (state : State limit) (slot : SlotId limit) (dropped : Bool)
    (next : List (RuleCopy limit)) :
    (releaseStep state slot dropped next).active = state.active := by
  unfold releaseStep
  split
  · rfl
  · split <;> rfl

/-- The next step of the reload owner; `none` between reloads. -/
def ownerStep (state : State limit) : Option (State limit) :=
  match state.owner with
  | .idle => none
  | .attach rules =>
      some
        { state with
          poolUsed := state.poolUsed || !rules.isEmpty
          owner := .assign rules [] 0 .pick }
  | .assign [] built _ _ =>
      some { state with owner := .release 0 false (capture state.pool built) }
  | .assign (rule :: todo) built freeSlot stage =>
      some (assignStep state rule todo built freeSlot stage)
  | .release index dropped next =>
      if inside : index < 2 * limit then
        some (releaseStep state ⟨index, inside⟩ dropped next)
      else
        some { state with owner := .publish next }
  | .publish next =>
      some
        { state with
          active := next
          owner := .idle
          history.issued := state.history.issued ++ next }

/-- What a step of the reload owner does, by where the owner stands. -/
inductive OwnerMoves (state : State limit) : State limit → Prop
  | attach (rules : List HitRule) (phase : state.owner = .attach rules) :
      OwnerMoves state
        { state with
          poolUsed := state.poolUsed || !rules.isEmpty
          owner := .assign rules [] 0 .pick }
  | capture (built : List (Assigned limit)) (freeSlot : Nat) (stage : AssignStage limit)
      (phase : state.owner = .assign [] built freeSlot stage) :
      OwnerMoves state { state with owner := .release 0 false (capture state.pool built) }
  | assign (rule : HitRule) (todo : List HitRule) (built : List (Assigned limit))
      (freeSlot : Nat) (stage : AssignStage limit)
      (phase : state.owner = .assign (rule :: todo) built freeSlot stage) :
      OwnerMoves state (assignStep state rule todo built freeSlot stage)
  | release (slot : SlotId limit) (dropped : Bool) (built : List (RuleCopy limit))
      (phase : state.owner = .release slot.val dropped built) :
      OwnerMoves state (releaseStep state slot dropped built)
  | released (index : Nat) (dropped : Bool) (built : List (RuleCopy limit))
      (phase : state.owner = .release index dropped built) (past : ¬ index < 2 * limit) :
      OwnerMoves state { state with owner := .publish built }
  | publish (built : List (RuleCopy limit)) (phase : state.owner = .publish built) :
      OwnerMoves state
        { state with
          active := built
          owner := .idle
          history.issued := state.history.issued ++ built }

theorem ownerStep_cases
    {state next : State limit} (stepped : ownerStep state = some next) :
    OwnerMoves state next := by
  unfold ownerStep at stepped
  cases phase : state.owner with
  | idle => simp [phase] at stepped
  | attach rules =>
      simp only [phase, Option.some.injEq] at stepped
      exact stepped ▸ .attach rules phase
  | assign todo built freeSlot stage =>
      cases todo with
      | nil =>
          simp only [phase, Option.some.injEq] at stepped
          exact stepped ▸ .capture built freeSlot stage phase
      | cons rule rest =>
          simp only [phase, Option.some.injEq] at stepped
          exact stepped ▸ .assign rule rest built freeSlot stage phase
  | release index dropped built =>
      simp only [phase] at stepped
      split at stepped
      · rename_i inside
        simp only [Option.some.injEq] at stepped
        exact stepped ▸ .release ⟨index, inside⟩ dropped built phase
      · rename_i past
        simp only [Option.some.injEq] at stepped
        exact stepped ▸ .released index dropped built phase past
  | publish built =>
      simp only [phase, Option.some.injEq] at stepped
      exact stepped ▸ .publish built phase

/-! ## Steps of `chaos_policy_fire` -/

/-- Move one thread. -/
def State.goto
    (state : State limit) (thread : Nat) (pc : FirePc limit) : State limit :=
  { state with threads := Function.update state.threads thread pc }

/-- The test of the claim loop of `chaos_policy_fire` that returns 0. -/
def claimRefused (copy : RuleCopy limit) (claimed : Nat) : Bool :=
  chaosHitClaimsTag claimed != chaosHitClaimsNone copy.generation ||
    copy.first ≤ chaosHitClaims claimed ||
    chaosHitClaims claimed == 2 ^ 32 - 1

/-- The compare-and-swap of the claim loop, once it has succeeded. -/
def State.claim
    (state : State limit) (thread : Nat) (copy : RuleCopy limit)
    (slot : SlotId limit) : State limit :=
  { state with
    pool := state.pool.modify slot fun held =>
      { held with claimed := (held.claimed + 1) % 2 ^ 64 }
    threads := Function.update state.threads thread (.record copy)
    history.claims := copy :: state.history.claims
    history.claimants := thread :: state.history.claimants }

/--
`chaos_hit_record` and the return of 1; a copy without a slot counts nothing.
-/
def State.count
    (state : State limit) (thread : Nat) (copy : RuleCopy limit) :
    State limit :=
  { state with
    pool :=
      match copy.slot with
      | some slot =>
          state.pool.modify slot fun held =>
            { held with count := (held.count + 1) % 2 ^ 64 }
      | none => state.pool
    threads := Function.update state.threads thread .idle
    history.fired := copy :: state.history.fired
    history.claimants := state.history.claimants.erase thread }

/-- The next step of a thread inside `chaos_policy_fire`. -/
def fireStep (state : State limit) (thread : Nat) : Option (State limit) :=
  match state.threads thread with
  | .idle => none
  | .check copy =>
      match copy.slot with
      | none => some (state.goto thread (.record copy))
      | some slot =>
          if chaosHitSlotCurrent (state.pool slot) copy.generation then
            if copy.first ≠ 0 then
              some (state.goto thread (.load copy slot))
            else
              some (state.goto thread (.record copy))
          else
            some (state.goto thread .idle)
  | .load copy slot =>
      if claimRefused copy (state.pool slot).claimed then
        some (state.goto thread .idle)
      else
        some (state.goto thread (.swap copy slot (state.pool slot).claimed))
  | .swap copy slot claimed =>
      if (state.pool slot).claimed = claimed then
        some (state.claim thread copy slot)
      else
        some (state.goto thread (.load copy slot))
  | .record copy => some (state.count thread copy)

/--
A step inside the call moves the thread, keeping its copy or leaving the call,
or makes a claim, or counts a hit.
-/
theorem fireStep_cases
    {state next : State limit} {thread : Nat}
    (stepped : fireStep state thread = some next) :
    (∃ pc, next = state.goto thread pc ∧
      ∀ copy, pc.copy = some copy →
        (state.threads thread).copy = some copy) ∨
    (∃ copy slot, state.threads thread =
        .swap copy slot (state.pool slot).claimed ∧
      next = state.claim thread copy slot) ∨
    (∃ copy, state.threads thread = .record copy ∧
      next = state.count thread copy) := by
  unfold fireStep at stepped
  cases phase : state.threads thread with
  | idle =>
      simp [phase] at stepped
  | check copy =>
      simp only [phase] at stepped
      left
      split at stepped
      · simp only [Option.some.injEq] at stepped
        exact ⟨_, stepped.symm, by simp [FirePc.copy]⟩
      · split at stepped
        · split at stepped
          · simp only [Option.some.injEq] at stepped
            exact ⟨_, stepped.symm, by simp [FirePc.copy]⟩
          · simp only [Option.some.injEq] at stepped
            exact ⟨_, stepped.symm, by simp [FirePc.copy]⟩
        · simp only [Option.some.injEq] at stepped
          exact ⟨_, stepped.symm, by simp [FirePc.copy]⟩
  | load copy slot =>
      simp only [phase] at stepped
      left
      split at stepped
      · simp only [Option.some.injEq] at stepped
        exact ⟨_, stepped.symm, by simp [FirePc.copy]⟩
      · simp only [Option.some.injEq] at stepped
        exact ⟨_, stepped.symm, by simp [FirePc.copy]⟩
  | swap copy slot claimed =>
      simp only [phase] at stepped
      split at stepped
      · rename_i unchanged
        simp only [Option.some.injEq] at stepped
        exact Or.inr (Or.inl ⟨copy, slot, by rw [unchanged], stepped.symm⟩)
      · simp only [Option.some.injEq] at stepped
        exact Or.inl ⟨_, stepped.symm, by simp [FirePc.copy]⟩
  | record copy =>
      simp only [phase, Option.some.injEq] at stepped
      exact Or.inr (Or.inr ⟨copy, rfl, stepped.symm⟩)

/-! ## The child of a fork -/

/--
The child of a fork after `chaos_io_config_after_fork`: only the forking
thread exists, the reload another thread was making is gone, and the pool,
when any snapshot with rules was ever attached to it, is reset against the
active snapshot.
-/
def forked (state : State limit) : State limit where
  pool :=
    if state.poolUsed then
      chaosHitsPoolAfterFork state.pool (hits (textSlots state.active))
    else
      state.pool
  poolUsed := state.poolUsed
  active := state.active
  owner := .idle
  threads := fun _ => .idle
  history := { state.history with claims := [], fired := [], claimants := [] }

/-! ## The machine -/

/-- What can happen next in a process. -/
inductive Action (limit : Nat) where
  /-- A thread won the reload claim; its reload comes to `outcome`. -/
  | reload (outcome : Outcome limit)
  /-- The reload owner's next step. -/
  | owner
  /-- A thread calls `chaos_policy_fire` with a copy of a published rule. -/
  | fire (thread : Nat) (copy : RuleCopy limit)
  /-- The thread's next step inside the call. -/
  | thread (thread : Nat)
  /-- A thread outside of reload and calls forks; the run follows the child. -/
  | fork

/-- One step of the process. -/
def step (state : State limit) : Action limit → Option (State limit)
  | .reload outcome =>
      if state.owner = .idle then
        match outcome.published with
        | some rules => some { state with owner := .attach rules }
        | none => some state
      else
        none
  | .owner => ownerStep state
  | .fire thread copy =>
      if state.threads thread = .idle ∧ copy ∈ state.history.issued then
        some (state.goto thread (.check copy))
      else
        none
  | .thread thread => fireStep state thread
  | .fork => some (forked state)

/-- A claimed reload hands its rules to the owner, or changes nothing. -/
theorem reload_cases
    {state next : State limit} {outcome : Outcome limit}
    (stepped : step state (.reload outcome) = some next) :
    state.owner = .idle ∧
      ((∃ rules, outcome.published = some rules ∧
          next = { state with owner := .attach rules }) ∨
        next = state) := by
  simp only [step] at stepped
  split at stepped
  · rename_i between
    refine ⟨between, ?_⟩
    split at stepped
    · rename_i rules published
      simp only [Option.some.injEq] at stepped
      exact Or.inl ⟨rules, published, stepped.symm⟩
    · simp only [Option.some.injEq] at stepped
      exact Or.inr stepped.symm
  · simp at stepped

/-- A call starts in an idle thread, with a copy that was issued. -/
theorem fire_cases
    {state next : State limit} {thread : Nat} {copy : RuleCopy limit}
    (stepped : step state (.fire thread copy) = some next) :
    state.threads thread = .idle ∧ copy ∈ state.history.issued ∧
      next = state.goto thread (.check copy) := by
  simp only [step] at stepped
  split at stepped
  · rename_i enabled
    simp only [Option.some.injEq] at stepped
    exact ⟨enabled.1, enabled.2, stepped.symm⟩
  · simp at stepped

/-- A fork is the one label that leaves the process. -/
def Action.staysInProcess : Action limit → Prop
  | .fork => False
  | _ => True

instance decidableStaysInProcess :
    (action : Action limit) → Decidable action.staysInProcess
  | .fork => isFalse id
  | .reload _ | .owner | .fire _ _ | .thread _ => isTrue trivial

end ChaosLibs.Common.SlotMachine
