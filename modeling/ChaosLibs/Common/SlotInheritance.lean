import ChaosLibs.Common.SlotSharing

/-!
# What one reload leaves in the slots

A reload that runs to its end between two calls replaces the active snapshot.
A slot the old snapshot held keeps its count, claims and effect state; a slot
that comes to a rule of the new snapshot from the free pool is cleared.
-/

namespace ChaosLibs.Common.SlotInheritance

open ChaosLibs.Machine
open ChaosLibs.Common.HitSlots
open ChaosLibs.Common.SlotMachine
open ChaosLibs.Common.SlotInvariant
open ChaosLibs.Common.SlotSharing

variable {limit : Nat}

/-- Count, claim word and effect state are carried over. -/
structure Inherits (before after : HitSlot) : Prop where
  count : after.count = before.count
  claimed : after.claimed = before.claimed
  state : after.state = before.state

/-- Nothing counted, nothing claimed, no effect state. -/
structure Cleared (slot : HitSlot) : Prop where
  count : slot.count = 0
  claims : chaosHitClaims slot.claimed = 0
  state : slot.state = 0

theorem Inherits.refl (slot : HitSlot) : Inherits slot slot :=
  ⟨rfl, rfl, rfl⟩

/-- No store of a reload puts anything into a cleared slot. -/
theorem Cleared.apply
    {pool : Pool limit} {slot : SlotId limit} (cleared : Cleared (pool slot))
    (store : SlotStore limit) :
    Cleared (store.apply pool slot) where
  count := by
    rw [count_apply, cleared.count, ite_self]
  claims := by
    rw [claimed_apply]
    split
    · exact chaosHitClaims_none _
    · exact cleared.claims
  state := by
    rw [state_apply, cleared.state, ite_self]

/-- A store that clears no word of the slot. -/
theorem Inherits.apply
    {before : HitSlot} {pool : Pool limit} {slot : SlotId limit}
    (inherits : Inherits before (pool slot)) {store : SlotStore limit}
    (notCount : store ≠ .clearCount slot) (notClaims : store ≠ .tagClaims slot)
    (notState : store ≠ .clearState slot) :
    Inherits before (store.apply pool slot) where
  count := by
    rw [count_apply, if_neg notCount]
    exact inherits.count
  claimed := by
    rw [claimed_apply, if_neg notClaims]
    exact inherits.claimed
  state := by
    rw [state_apply, if_neg notState]
    exact inherits.state

/-- The parsed rule a copy was made from. -/
def RuleCopy.rule (copy : RuleCopy limit) : HitRule :=
  ⟨copy.text, copy.first⟩

@[simp]
theorem rules_capture (pool : Pool limit) (built : List (Assigned limit)) :
    (capture pool built).map RuleCopy.rule = built.map Assigned.rule := by
  simp [capture, RuleCopy.rule, Function.comp_def]

/-- Slots of `rules` that no rule of `active` holds are cleared. -/
def FreshCleared
    (pool : Pool limit) (active rules : List (TextSlot limit)) : Prop :=
  ∀ slot, Holds rules slot → ¬ Holds active slot → Cleared (pool slot)

theorem FreshCleared.apply
    {pool : Pool limit} {active rules : List (TextSlot limit)}
    (fresh : FreshCleared pool active rules) (store : SlotStore limit) :
    FreshCleared (store.apply pool) active rules :=
  fun slot held notActive => (fresh slot held notActive).apply store

/-- How far the slot of the rule at hand is cleared. -/
def StageCleared
    (pool : Pool limit) (active : List (TextSlot limit)) :
    AssignStage limit → Prop
  | .pick | .clearCount _ => True
  | .tagClaims slot => (pool slot).count = 0
  | .clearState slot =>
      (pool slot).count = 0 ∧ chaosHitClaims (pool slot).claimed = 0
  | .hold slot | .hook slot => ¬ Holds active slot → Cleared (pool slot)

/-- Where a reload of `rules` that began in `before` stands. -/
def ReloadPhase
    (before : State limit) (rules : List HitRule) (state : State limit) :
    Prop :=
  match state.owner with
  | .idle =>
      state.active.map RuleCopy.rule = rules ∧
        Derived (textSlots before.active) (textSlots state.active) ∧
        FreshCleared state.pool (textSlots before.active)
          (textSlots state.active)
  | .attach todo => state.active = before.active ∧ todo = rules
  | .assign todo built _ stage =>
      state.active = before.active ∧
        built.map Assigned.rule ++ todo = rules ∧
        FreshCleared state.pool (textSlots before.active) (builtSlots built) ∧
        StageCleared state.pool (textSlots before.active) stage
  | .release _ _ next | .publish next =>
      state.active = before.active ∧
        next.map RuleCopy.rule = rules ∧
        FreshCleared state.pool (textSlots before.active) (textSlots next)

/-- A reload of `rules` that began in `before`, between two of its steps. -/
structure Reloading
    (before : State limit) (rules : List HitRule) (state : State limit) :
    Prop where
  ok : Invariant state
  kept : ∀ slot, Holds (textSlots before.active) slot →
    Inherits (before.pool slot) (state.pool slot)
  phase : ReloadPhase before rules state

/-- An assignment store that clears no word of an active slot. -/
theorem Reloading.kept_store
    {before state : State limit} {rules : List HitRule}
    (reloading : Reloading before rules state)
    (active : state.active = before.active)
    {rule : HitRule} {todo : List HitRule} {built : List (Assigned limit)}
    {freeSlot : Nat} {stage : AssignStage limit}
    (phase : state.owner = .assign (rule :: todo) built freeSlot stage)
    {store : SlotStore limit}
    (unused : ∀ slot,
      store = .clearCount slot ∨ store = .tagClaims slot ∨
        store = .clearState slot → (state.pool slot).used = false) :
    ∀ slot, Holds (textSlots before.active) slot →
      Inherits (before.pool slot) (store.apply state.pool slot) := by
  intro slot held
  have assignOk := reloading.ok.ownerOk
  simp only [OwnerOk, phase] at assignOk
  have used : (state.pool slot).used = true :=
    (assignOk.used slot).mpr (Or.inl (active ▸ held))
  have apart : ¬ (store = .clearCount slot ∨ store = .tagClaims slot ∨
      store = .clearState slot) := by
    intro clears
    rw [unused slot clears] at used
    exact Bool.false_ne_true used
  push Not at apart
  exact (reloading.kept slot held).apply apart.1 apart.2.1 apart.2.2

theorem Reloading.assignStep
    {before state : State limit} {rules : List HitRule}
    (reloading : Reloading before rules state)
    {rule : HitRule} {todo : List HitRule} {built : List (Assigned limit)}
    {freeSlot : Nat} {stage : AssignStage limit}
    (phase : state.owner = .assign (rule :: todo) built freeSlot stage) :
    Reloading before rules
      (assignStep state rule todo built freeSlot stage) := by
  have ok := invariant_assignStep reloading.ok phase
  have here := reloading.phase
  simp only [ReloadPhase, phase] at here
  rcases here with ⟨active, rules', fresh, staged⟩
  have assignOk := reloading.ok.ownerOk
  simp only [OwnerOk, phase] at assignOk
  have stageOk := assignOk.stageOk rule (by simp)
  cases stage with
  | pick =>
      simp only [SlotMachine.assignStep] at ok ⊢
      cases found : inheritedSlot (textSlots state.active) rule.text with
      | some slot =>
          simp only [found] at ok
          refine ⟨ok, reloading.kept, active, rules', fresh, ?_⟩
          rintro notActive
          rcases exists_of_inheritedSlot found with ⟨old, member, -, holds⟩
          exact absurd (active ▸ holds_iff.mpr ⟨old, member, holds⟩) notActive
      | none =>
          cases free : nextFreeSlot state.pool freeSlot with
          | some slot =>
              simp only [found, free] at ok
              exact ⟨ok, reloading.kept, active, rules', fresh, trivial⟩
          | none =>
              have activeBounded : (textSlots state.active).length ≤ limit := by
                simpa [textSlots] using reloading.ok.bounded
              exact absurd free (assignOk.nextFreeSlot_ne_none activeBounded)
  | clearCount slot =>
      refine ⟨ok, ?_, active, rules', fresh.apply _, ?_⟩
      · refine reloading.kept_store active phase ?_
        rintro other (same | impossible | impossible)
        · rcases same with ⟨⟩
          exact stageOk.2
        · simp at impossible
        · simp at impossible
      · simp [StageCleared, SlotMachine.assignStep, State.store, count_apply]
  | tagClaims slot =>
      refine ⟨ok, ?_, active, rules', fresh.apply _, ?_⟩
      · refine reloading.kept_store active phase ?_
        rintro other (impossible | same | impossible)
        · simp at impossible
        · rcases same with ⟨⟩
          exact stageOk.2
        · simp at impossible
      · simpa [StageCleared, SlotMachine.assignStep, State.store, count_apply,
          claimed_apply] using staged
  | clearState slot =>
      refine ⟨ok, ?_, active, rules', fresh.apply _, ?_⟩
      · refine reloading.kept_store active phase ?_
        rintro other (impossible | impossible | same)
        · simp at impossible
        · simp at impossible
        · rcases same with ⟨⟩
          exact stageOk.2
      · intro _
        constructor
        · simpa [SlotMachine.assignStep, State.store, count_apply] using
            staged.1
        · simpa [SlotMachine.assignStep, State.store, claimed_apply] using
            staged.2
        · simp [SlotMachine.assignStep, State.store, state_apply]
  | hold slot =>
      refine ⟨ok, ?_, active, rules', fresh.apply _, ?_⟩
      · exact reloading.kept_store active phase (by simp)
      · intro notActive
        exact (staged notActive).apply _
  | hook slot =>
      refine ⟨ok, ?_, active, by simpa using rules', ?_, trivial⟩
      · exact reloading.kept_store active phase (by simp)
      · intro other held notActive
        rw [builtSlots, List.map_append, holds_append] at held
        rcases held with earlier | last
        · exact (fresh other earlier notActive).apply _
        · have same : slot = other := by
            simpa [holds_iff] using last
          subst same
          exact (staged notActive).apply _

/-- A store of the release loop clears no word. -/
theorem Reloading.releaseStep
    {before state : State limit} {rules : List HitRule}
    (reloading : Reloading before rules state)
    {slot : SlotId limit} {dropped : Bool} {next : List (RuleCopy limit)}
    (phase : state.owner = .release slot.val dropped next) :
    Reloading before rules (releaseStep state slot dropped next) := by
  have ok := invariant_releaseStep reloading.ok phase
  have here := reloading.phase
  simp only [ReloadPhase, phase] at here
  rcases here with ⟨active, rules', fresh⟩
  unfold SlotMachine.releaseStep at ok ⊢
  split
  · rename_i droppedTrue
    simp only [droppedTrue, if_true] at ok
    refine ⟨ok, ?_, active, rules', fresh.apply _⟩
    intro other held
    exact (reloading.kept other held).apply (by simp) (by simp) (by simp)
  · rename_i notDropped
    simp only [notDropped] at ok
    split
    · rename_i leaving
      simp only [leaving, if_true] at ok
      refine ⟨ok, ?_, active, rules', fresh.apply _⟩
      intro other held
      exact (reloading.kept other held).apply (by simp) (by simp) (by simp)
    · rename_i staying
      simp only [staying] at ok
      exact ⟨ok, reloading.kept, active, rules', fresh⟩

theorem Reloading.ownerStep
    {before state next : State limit} {rules : List HitRule}
    (reloading : Reloading before rules state)
    (stepped : ownerStep state = some next) :
    Reloading before rules next := by
  have ok := invariant_ownerStep reloading.ok stepped
  have here := reloading.phase
  have ownerOk := reloading.ok.ownerOk
  cases ownerStep_cases stepped with
  | attach todo phase =>
      simp only [ReloadPhase, phase] at here
      refine ⟨ok, reloading.kept, here.1, by simpa using here.2, ?_, trivial⟩
      intro slot held
      simp [builtSlots] at held
  | capture built freeSlot stage phase =>
      simp only [ReloadPhase, phase] at here
      refine ⟨ok, reloading.kept, here.1, by simpa using here.2.1, ?_⟩
      simpa using here.2.2.1
  | assign rule rest built freeSlot stage phase => exact reloading.assignStep phase
  | release slot dropped built phase => exact reloading.releaseStep phase
  | released index dropped built phase past =>
      simp only [ReloadPhase, phase] at here
      exact ⟨ok, reloading.kept, here⟩
  | publish built phase =>
      simp only [ReloadPhase, phase] at here
      simp only [OwnerOk, phase] at ownerOk
      exact ⟨ok, reloading.kept, here.2.1, here.1 ▸ ownerOk.2.1, here.2.2⟩

/-- The owner's steps of one reload, from its claim to its end. -/
theorem reloading_of_run
    {before after : State limit} (ok : Invariant before)
    (between : before.owner = .idle) {outcome : Outcome limit}
    {rules : List HitRule} (published : outcome.published = some rules)
    {steps : Nat}
    (ran : run step before (.reload outcome :: List.replicate steps .owner) =
      some after) :
    Reloading before rules after := by
  rcases run_cons_eq_some.mp ran with ⟨claimed, stepped, tail⟩
  have claimedOk := invariant_step ok (by simp) stepped
  simp only [step, between, if_true, published, Option.some.injEq] at stepped
  have start : Reloading before rules claimed := by
    subst stepped
    exact ⟨claimedOk, fun slot _ => Inherits.refl _, rfl, rfl⟩
  have throughout :
      Throughout step (Reloading before rules) claimed
        (List.replicate steps .owner) := by
    refine throughout_of_preserved ?_
      (fun label member => List.eq_of_mem_replicate member) start
    rintro state action next rfl reloading stepped
    exact reloading.ownerStep stepped
  exact throughout.final tail

end ChaosLibs.Common.SlotInheritance
