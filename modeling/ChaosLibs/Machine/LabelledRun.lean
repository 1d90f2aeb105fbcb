import Mathlib.Algebra.Order.Ring.Nat
import Mathlib.Algebra.Ring.Int.Defs
import Mathlib.Data.List.Basic

/-!
# Runs of deterministic labelled machines

A machine is a partial step function: `step state label` is `none` when the
label is not enabled in the state.  Every choice a run makes (which thread
moves, what the environment answers) is in its label, so a run is determined
by its list of labels and a statement about all schedules is a statement about
all label lists.

The module supplies the induction rules the developments use: invariants of
unconditional runs, invariants of runs whose steps all meet a condition, and
the exact form in which a property holds throughout a run if and only if each
step of the run meets a condition.
-/

namespace ChaosLibs.Machine

variable {State Label : Type*}

/-- Execute a list of labels; a label that is not enabled ends with `none`. -/
def run (step : State → Label → Option State) :
    State → List Label → Option State
  | state, [] => some state
  | state, label :: rest =>
      match step state label with
      | none => none
      | some next => run step next rest

variable {step : State → Label → Option State}

@[simp]
theorem run_nil (state : State) :
    run step state [] = some state :=
  rfl

theorem run_cons_eq_some
    {state final : State} {label : Label} {rest : List Label} :
    run step state (label :: rest) = some final ↔
      ∃ next, step state label = some next ∧
        run step next rest = some final := by
  cases stepped : step state label with
  | none => simp [run, stepped]
  | some next => simp [run, stepped]

theorem run_append_eq_some
    {state final : State} {before after : List Label} :
    run step state (before ++ after) = some final ↔
      ∃ middle, run step state before = some middle ∧
        run step middle after = some final := by
  induction before generalizing state with
  | nil => simp
  | cons label rest induction =>
      rw [List.cons_append, run_cons_eq_some]
      constructor
      · rintro ⟨next, stepped, tail⟩
        rcases induction.mp tail with ⟨middle, left, right⟩
        exact ⟨middle, run_cons_eq_some.mpr ⟨next, stepped, left⟩, right⟩
      · rintro ⟨middle, left, right⟩
        rcases run_cons_eq_some.mp left with ⟨next, stepped, tail⟩
        exact ⟨next, stepped, induction.mpr ⟨middle, tail, right⟩⟩

theorem run_concat_eq_some
    {state final : State} {before : List Label} {label : Label} :
    run step state (before ++ [label]) = some final ↔
      ∃ middle, run step state before = some middle ∧
        step middle label = some final := by
  rw [run_append_eq_some]
  simp [run_cons_eq_some]

/-! ## Conditions on the steps of a run -/

/-- Every step the run takes meets `condition` in the state it starts from. -/
def Meets (step : State → Label → Option State)
    (condition : State → Label → Prop) : State → List Label → Prop
  | _, [] => True
  | state, label :: rest =>
      ∀ next, step state label = some next →
        condition state label ∧ Meets step condition next rest

theorem meets_cons
    {condition : State → Label → Prop}
    {state next : State} {label : Label} {rest : List Label}
    (stepped : step state label = some next) :
    Meets step condition state (label :: rest) ↔
      condition state label ∧ Meets step condition next rest := by
  simp [Meets, stepped]

theorem meets_append
    {condition : State → Label → Prop}
    {state middle : State} {before after : List Label}
    (left : run step state before = some middle) :
    Meets step condition state (before ++ after) ↔
      Meets step condition state before ∧
        Meets step condition middle after := by
  induction before generalizing state with
  | nil =>
      simp only [run_nil, Option.some.injEq] at left
      subst left
      simp [Meets]
  | cons label rest induction =>
      rcases run_cons_eq_some.mp left with ⟨next, stepped, tail⟩
      rw [List.cons_append, meets_cons stepped, meets_cons stepped,
        induction tail, and_assoc]

/-! ## Invariants -/

/-- `property` holds in every state the run passes through, both ends included. -/
def Throughout (step : State → Label → Option State)
    (property : State → Prop) (state : State) (labels : List Label) : Prop :=
  ∀ before after middle, labels = before ++ after →
    run step state before = some middle → property middle

theorem Throughout.head
    {property : State → Prop} {state : State} {labels : List Label}
    (throughout : Throughout step property state labels) :
    property state :=
  throughout [] labels state rfl rfl

theorem Throughout.final
    {property : State → Prop} {state final : State} {labels : List Label}
    (throughout : Throughout step property state labels)
    (ran : run step state labels = some final) :
    property final :=
  throughout labels [] final (List.append_nil labels).symm ran

theorem throughout_nil {property : State → Prop} {state : State} :
    Throughout step property state [] ↔ property state := by
  refine ⟨Throughout.head, ?_⟩
  intro here before after middle split ran
  rcases List.append_eq_nil_iff.mp split.symm with ⟨rfl, -⟩
  simp only [run_nil, Option.some.injEq] at ran
  exact ran ▸ here

theorem throughout_cons
    {property : State → Prop} {state next : State}
    {label : Label} {rest : List Label}
    (stepped : step state label = some next) :
    Throughout step property state (label :: rest) ↔
      property state ∧ Throughout step property next rest := by
  constructor
  · intro throughout
    refine ⟨throughout.head, ?_⟩
    intro before after middle split ran
    exact throughout (label :: before) after middle (by rw [split]; rfl)
      (run_cons_eq_some.mpr ⟨next, stepped, ran⟩)
  · rintro ⟨here, later⟩ before after middle split ran
    cases before with
    | nil =>
        simp only [run_nil, Option.some.injEq] at ran
        exact ran ▸ here
    | cons head tail =>
        simp only [List.cons_append, List.cons.injEq] at split
        rcases split with ⟨rfl, split⟩
        rcases run_cons_eq_some.mp ran with ⟨other, otherStep, ran⟩
        rw [stepped, Option.some.injEq] at otherStep
        subst otherStep
        exact later tail after middle split ran

theorem throughout_of_step_eq_none
    {property : State → Prop} {state : State}
    {label : Label} {rest : List Label}
    (stuck : step state label = none) (here : property state) :
    Throughout step property state (label :: rest) := by
  intro before after middle split ran
  cases before with
  | nil =>
      simp only [run_nil, Option.some.injEq] at ran
      exact ran ▸ here
  | cons head tail =>
      simp only [List.cons_append, List.cons.injEq] at split
      rcases split with ⟨rfl, -⟩
      simp [run, stuck] at ran

/--
Invariant rule for conditional runs: what every allowed step that meets the
condition preserves holds throughout a run of allowed steps that meet it.
-/
theorem throughout_of_meets
    {allowed : Label → Prop} {condition : State → Label → Prop}
    {invariant : State → Prop}
    (preserved : ∀ state label next, allowed label → invariant state →
      condition state label → step state label = some next → invariant next)
    {state : State} {labels : List Label}
    (within : ∀ label ∈ labels, allowed label)
    (initial : invariant state)
    (meets : Meets step condition state labels) :
    Throughout step invariant state labels := by
  induction labels generalizing state with
  | nil => exact throughout_nil.mpr initial
  | cons label rest induction =>
      cases stepped : step state label with
      | none => exact throughout_of_step_eq_none stepped initial
      | some next =>
          rcases (meets_cons stepped).mp meets with ⟨met, later⟩
          have nextInvariant :=
            preserved state label next (within label List.mem_cons_self)
              initial met stepped
          exact (throughout_cons stepped).mpr
            ⟨initial,
              induction
                (fun other member =>
                  within other (List.mem_cons_of_mem _ member))
                nextInvariant later⟩

/-- Invariant rule for unconditional runs of allowed steps. -/
theorem throughout_of_preserved
    {allowed : Label → Prop} {invariant : State → Prop}
    (preserved : ∀ state label next, allowed label → invariant state →
      step state label = some next → invariant next)
    {state : State} {labels : List Label}
    (within : ∀ label ∈ labels, allowed label)
    (initial : invariant state) :
    Throughout step invariant state labels := by
  have meets : Meets step (fun _ _ => True) state labels := by
    clear within initial
    induction labels generalizing state with
    | nil => trivial
    | cons label rest induction => exact fun _ _ => ⟨trivial, induction⟩
  exact
    throughout_of_meets
      (fun state label next inside holds _ stepped =>
        preserved state label next inside holds stepped)
      within initial meets

/-- Invariant rule for the end of a run whose labels are allowed. -/
theorem invariant_of_run
    {allowed : Label → Prop} {invariant : State → Prop}
    (preserved : ∀ state label next, allowed label → invariant state →
      step state label = some next → invariant next)
    {state final : State} {labels : List Label}
    (within : ∀ label ∈ labels, allowed label)
    (initial : invariant state)
    (ran : run step state labels = some final) :
    invariant final :=
  (throughout_of_preserved preserved within initial).final ran

/-- A run is no longer than what each of its steps takes away from. -/
theorem length_le_of_decreasing
    {invariant : State → Prop} {remaining : State → Nat}
    (preserved : ∀ state label next, invariant state →
      step state label = some next → invariant next)
    (decreasing : ∀ state label next, invariant state →
      step state label = some next → remaining next < remaining state)
    {state final : State} {labels : List Label}
    (initial : invariant state)
    (ran : run step state labels = some final) :
    labels.length + remaining final ≤ remaining state := by
  induction labels generalizing state with
  | nil =>
      rw [run_nil, Option.some.injEq] at ran
      subst ran
      rw [List.length_nil, Nat.zero_add]
  | cons label rest induction =>
      rcases run_cons_eq_some.mp ran with ⟨next, stepped, later⟩
      have lower := decreasing state label next initial stepped
      have bound := induction (preserved state label next initial stepped) later
      rw [List.length_cons]
      omega

/-! Both forms are decidable on concrete runs. -/

instance decidableMeets
    {condition : State → Label → Prop}
    [∀ state label, Decidable (condition state label)] :
    ∀ (state : State) (labels : List Label),
      Decidable (Meets step condition state labels)
  | _, [] => isTrue trivial
  | state, label :: rest =>
      match stepped : step state label with
      | none => isTrue (by simp [Meets, stepped])
      | some next =>
          have : Decidable (Meets step condition next rest) :=
            decidableMeets next rest
          decidable_of_iff _ (meets_cons stepped).symm

instance decidableThroughout
    {property : State → Prop} [DecidablePred property] :
    ∀ (state : State) (labels : List Label),
      Decidable (Throughout step property state labels)
  | state, [] =>
      decidable_of_iff (property state) throughout_nil.symm
  | state, label :: rest =>
      match stepped : step state label with
      | none =>
          decidable_of_iff (property state)
            ⟨throughout_of_step_eq_none stepped, Throughout.head⟩
      | some next =>
          have : Decidable (Throughout step property next rest) :=
            decidableThroughout next rest
          decidable_of_iff _ (throughout_cons stepped).symm

/--
Exact conditions: when the invariant is kept by every allowed step that meets
the condition, entails the property, and an allowed step that does not meet
the condition leads out of the property, the property holds throughout a run
of allowed steps exactly when each of its steps meets the condition.
-/
theorem throughout_iff_meets
    {allowed : Label → Prop} {condition : State → Label → Prop}
    {invariant property : State → Prop}
    (preserved : ∀ state label next, allowed label → invariant state →
      condition state label → step state label = some next → invariant next)
    (entails : ∀ state, invariant state → property state)
    (violates : ∀ state label next, allowed label → invariant state →
      ¬ condition state label → step state label = some next →
      ¬ property next)
    {state : State} {labels : List Label}
    (within : ∀ label ∈ labels, allowed label)
    (initial : invariant state) :
    Throughout step property state labels ↔
      Meets step condition state labels := by
  induction labels generalizing state with
  | nil =>
      exact iff_of_true (throughout_nil.mpr (entails state initial)) trivial
  | cons label rest induction =>
      have allowedHead : allowed label :=
        within label List.mem_cons_self
      have allowedRest : ∀ other ∈ rest, allowed other :=
        fun other member => within other (List.mem_cons_of_mem _ member)
      cases stepped : step state label with
      | none =>
          refine iff_of_true ?_ (by simp [Meets, stepped])
          exact throughout_of_step_eq_none stepped (entails state initial)
      | some next =>
          rw [throughout_cons stepped, meets_cons stepped]
          constructor
          · rintro ⟨-, later⟩
            have met : condition state label := by
              by_contra unmet
              exact violates state label next allowedHead initial unmet stepped
                later.head
            have nextInvariant :=
              preserved state label next allowedHead initial met stepped
            exact ⟨met, (induction allowedRest nextInvariant).mp later⟩
          · rintro ⟨met, later⟩
            have nextInvariant :=
              preserved state label next allowedHead initial met stepped
            exact ⟨entails state initial,
              (induction allowedRest nextInvariant).mpr later⟩

end ChaosLibs.Machine
