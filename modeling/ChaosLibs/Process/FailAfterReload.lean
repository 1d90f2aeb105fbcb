import ChaosLibs.Machine.LabelledRun
import ChaosLibs.Machine.ThreadTotals
import ChaosLibs.Process.Rule

/-!
# FAIL_AFTER and a reload

Any number of threads that match a FAIL_AFTER rule and run
`chaos_process_rule_fail_after_error`, against one `chaos_process_config_publish`:
it clears the counters one after the other, and then stores the index of the new
snapshot.  A call that counts after its counter was cleared and returns before the
index is stored leaves its count to the new rules.
-/

namespace ChaosLibs.Process.FailAfterReload

open ChaosLibs.Common.PolicyGates
open ChaosLibs.Common.RuleFiring
open ChaosLibs.Machine
open ChaosLibs.Process.Rule

/-! ## The machine -/

/-- A call: the copy of the rule it matched, and whether the snapshot was the new one. -/
structure MatchedCall where
  operation : ChaosProcessOperation
  rule : ChaosProcessRule
  fresh : Bool

/-- Where a thread is. -/
inductive Stage where
  | idle
  /-- It has matched a rule, and has not counted its call. -/
  | matched (call : MatchedCall)
  /--
  It has counted its call, after `number` calls of the new snapshot; `late` when the
  counter had been cleared.
  -/
  | counted (call : MatchedCall) (observed : UInt64) (number : Nat) (late : Bool)

/-- Where `chaos_process_config_publish` is. -/
inductive Publisher where
  /-- The new snapshot is still being written. -/
  | writing
  /-- The counters still to be cleared; `seen` once the first was read and is not 0. -/
  | clearing (rest : List ChaosProcessOperation) (seen : Bool)
  /-- The index is stored, the stamp is not. -/
  | activated
  | done

/-- What there is when the index is stored. -/
structure Activation where
  counters : FailAfterCounters
  inFlight : ChaosProcessOperation → Nat

/-- What a call of the new snapshot came to. -/
structure Decision where
  operation : ChaosProcessOperation
  failAfterCount : UInt64
  number : Nat
  fails : Bool
deriving DecidableEq

/-- The counters, the active snapshot and the threads, with what is recorded. -/
structure State (count : Nat) where
  fresh : Bool
  publisher : Publisher
  counters : FailAfterCounters
  threads : Fin count → Stage
  cleared : ChaosProcessOperation → Bool
  freshCalls : ChaosProcessOperation → Nat
  activation : Option Activation
  decisions : List Decision

variable {count : Nat}

/-- The operations in their order. -/
def operations : List ChaosProcessOperation :=
  [.pthreadCreate, .fork, .posixSpawn, .posixSpawnp, .execve, .execveat,
    .waitpid]

/-- Threads that are in no call, and counters of any value. -/
def initial (count : Nat) (counters : FailAfterCounters) : State count where
  fresh := false
  publisher := .writing
  counters := counters
  threads := fun _ => .idle
  cleared := fun _ => false
  freshCalls := fun _ => 0
  activation := none
  decisions := []

/-- 1 for a call of the operation that matched the old snapshot. -/
def oldCall (operation : ChaosProcessOperation) : Stage → Nat
  | .idle => 0
  | .matched call | .counted call _ _ _ =>
      if call.operation = operation ∧ call.fresh = false then 1 else 0

/-- 1 for a call of the old snapshot that has not counted. -/
def uncounted (operation : ChaosProcessOperation) : Stage → Nat
  | .matched call =>
      if call.operation = operation ∧ call.fresh = false then 1 else 0
  | .idle | .counted _ _ _ _ => 0

/-- 1 for a call of the old snapshot that counted once the counter was cleared. -/
def countedLate (operation : ChaosProcessOperation) : Stage → Nat
  | .counted call _ _ true =>
      if call.operation = operation ∧ call.fresh = false then 1 else 0
  | .idle | .matched _ | .counted _ _ _ false => 0

/-- The calls of an operation in flight that matched the old snapshot. -/
def State.inFlight (state : State count) (operation : ChaosProcessOperation) :
    Nat :=
  total (oldCall operation) state.threads

/-- One step of `chaos_process_config_publish`. -/
def State.publish (state : State count) : Option (State count) :=
  match state.publisher with
  | .writing => some { state with publisher := .clearing operations false }
  | .clearing (operation :: rest) false =>
      -- `CHAOS_STORE_IF_CHANGED` reads first.
      if state.counters operation = 0 then
        some
          { state with
            publisher := .clearing rest false
            cleared := Function.update state.cleared operation true }
      else
        some { state with publisher := .clearing (operation :: rest) true }
  | .clearing (operation :: rest) true =>
      some
        { state with
          publisher := .clearing rest false
          counters := Function.update state.counters operation 0
          cleared := Function.update state.cleared operation true }
  | .clearing [] _ =>
      some
        { state with
          publisher := .activated
          fresh := true
          activation := some ⟨state.counters, state.inFlight⟩ }
  | .activated => some { state with publisher := .done }
  | .done => none

/-- A thread reads the active index and copies its FAIL_AFTER rule for a call. -/
def State.matchRule (old new : ChaosProcessConfigState) (state : State count)
    (thread : Fin count) (operation : ChaosProcessOperation) :
    Option (State count) :=
  match state.threads thread with
  | .idle =>
      (chaosProcessConfigMatch (if state.fresh then new else old) .failAfter
        operation).map fun rule =>
          { state with
            threads := Function.update state.threads thread
              (.matched ⟨operation, rule, state.fresh⟩) }
  | .matched _ | .counted _ _ _ _ => none

/-- `chaos_process_atomic_fetch_add_u64` on the counter. -/
def State.countCall (state : State count) (thread : Fin count) :
    Option (State count) :=
  match state.threads thread with
  | .matched call =>
      some
        { state with
          counters := state.counters.count call.operation
          threads := Function.update state.threads thread
            (.counted call (state.counters call.operation)
              (state.freshCalls call.operation) (state.cleared call.operation))
          freshCalls :=
            if call.fresh then
              Function.update state.freshCalls call.operation
                (state.freshCalls call.operation + 1)
            else state.freshCalls }
  | .idle | .counted _ _ _ _ => none

/--
What follows the count in `chaos_process_rule_fail_after_error`; `fires` is what
`chaos_policy_fire` returns.
-/
def failsOn (rule : ChaosProcessRule) (observed : UInt64) (sample : UInt32)
    (now : Int) (fires : Bool) : Bool :=
  if observed < rule.failAfterCount ||
      !probabilityHitSample rule.probability sample then
    false
  else if !chaosPolicyWindowOpen rule.policy now ||
      !chaosPolicySizeOk rule.policy rule.callSize then
    false
  else
    fires

/-- A thread decides its call and returns. -/
def State.finish (state : State count) (thread : Fin count) (sample : UInt32)
    (now : Int) (fires : Bool) : Option (State count) :=
  match state.threads thread with
  | .counted call observed number _ =>
      some
        { state with
          threads := Function.update state.threads thread .idle
          decisions :=
            if call.fresh then
              state.decisions ++
                [⟨call.operation, call.rule.failAfterCount, number,
                  failsOn call.rule observed sample now fires⟩]
            else state.decisions }
  | .idle | .matched _ => none

/-- A step of the publisher, or of a thread. -/
inductive Label (count : Nat) where
  | publish
  | matchRule (thread : Fin count) (operation : ChaosProcessOperation)
  | countCall (thread : Fin count)
  | finish (thread : Fin count) (sample : UInt32) (now : Int) (fires : Bool)

/-- One step, the snapshots being `old` and `new`. -/
def step (old new : ChaosProcessConfigState) (state : State count) :
    Label count → Option (State count)
  | .publish => state.publish
  | .matchRule thread operation => state.matchRule old new thread operation
  | .countCall thread => state.countCall thread
  | .finish thread sample now fires => state.finish thread sample now fires

/-! ## What a reload promises -/

/--
When the new snapshot becomes active a counter is at most the number of calls in
flight, and no more than these are missing from the calls of a new rule that pass
before one fails.
-/
def Restarts (state : State count) : Prop :=
  ∀ activation, state.activation = some activation → ∀ operation,
    (activation.counters operation).toNat ≤ activation.inFlight operation ∧
    ∀ decision ∈ state.decisions, decision.operation = operation →
      decision.fails = true →
        decision.failAfterCount.toNat ≤
          decision.number + activation.inFlight operation

/-- A call that counted on a cleared counter is not over before the index is stored. -/
def Outlasts (state : State count) : Label count → Prop
  | .finish thread _ _ _ =>
      state.activation = none → ∀ operation,
        countedLate operation (state.threads thread) = 0
  | .publish | .matchRule _ _ | .countCall _ => True

/-! ## The invariant -/

/-- The calls of a thread matched the old snapshot. -/
def Stage.Stale : Stage → Prop
  | .idle => True
  | .matched call | .counted call _ _ _ => call.fresh = false

/-- A call of the new snapshot found what old and new calls can have counted. -/
def Stage.Within (activation : Activation) : Stage → Prop
  | .counted call observed number _ =>
      call.fresh = true →
        observed.toNat ≤ activation.inFlight call.operation + number
  | .idle | .matched _ => True

/-- Before the index is stored. -/
structure Pending (state : State count) : Prop where
  stale : state.fresh = false
  publisher : state.publisher = .writing ∨
    ∃ rest seen, state.publisher = .clearing rest seen ∧
      ∀ operation, operation ∉ rest → state.cleared operation = true
  threads : ∀ thread, (state.threads thread).Stale
  late : ∀ operation, state.cleared operation = true →
    (state.counters operation).toNat ≤
      total (countedLate operation) state.threads
  quiet : state.freshCalls = fun _ => 0
  decisions : state.decisions = []

/-- Once the index is stored. -/
structure Active (activation : Activation) (state : State count) : Prop where
  fresh : state.fresh = true
  publisher : state.publisher = .activated ∨ state.publisher = .done
  restarted : ∀ operation, (activation.counters operation).toNat ≤
    activation.inFlight operation
  counters : ∀ operation,
    (state.counters operation).toNat +
        total (uncounted operation) state.threads ≤
      activation.inFlight operation + state.freshCalls operation
  threads : ∀ thread, (state.threads thread).Within activation
  decisions : ∀ decision ∈ state.decisions, decision.fails = true →
    decision.failAfterCount.toNat ≤
      decision.number + activation.inFlight decision.operation

/-- The invariant of a run. -/
structure Sound (state : State count) : Prop where
  pending : state.activation = none → Pending state
  active : ∀ activation, state.activation = some activation →
    Active activation state

theorem restarts_of_sound {state : State count} (sound : Sound state) :
    Restarts state := by
  intro activation active operation
  have active := sound.active activation active
  refine ⟨active.restarted operation, ?_⟩
  rintro decision member rfl fails
  exact active.decisions decision member fails

theorem sound_of_pending
    {state : State count} (none : state.activation = none)
    (pending : Pending state) : Sound state where
  pending := fun _ => pending
  active := fun _ some => absurd (none.symm.trans some) nofun

theorem sound_of_active
    {state : State count} {activation : Activation}
    (some : state.activation = some activation)
    (active : Active activation state) : Sound state where
  pending := fun none => absurd (none.symm.trans some) nofun
  active := fun _ other => Option.some_inj.mp (some.symm.trans other) ▸ active

theorem sound_initial (counters : FailAfterCounters) :
    Sound (initial count counters) :=
  sound_of_pending rfl
    { stale := rfl
      publisher := Or.inl rfl
      threads := fun _ => trivial
      late := fun _ cleared => absurd cleared Bool.false_ne_true
      quiet := rfl
      decisions := rfl }

variable {state next : State count} {activation : Activation}

/-- A counted call and its successor differ by one at most. -/
theorem toNat_count_le
    (counters : FailAfterCounters) (operation : ChaosProcessOperation) :
    (counters.count operation operation).toNat ≤
      (counters operation).toNat + 1 := by
  unfold FailAfterCounters.count
  rw [Function.update_self, UInt64.toNat_add]
  exact Nat.mod_le _ _

theorem count_of_ne
    (counters : FailAfterCounters) {operation other : ChaosProcessOperation}
    (different : other ≠ operation) :
    counters.count operation other = counters other :=
  Function.update_of_ne different _ _

theorem mem_operations (operation : ChaosProcessOperation) :
    operation ∈ operations := by
  cases operation <;> decide

/-- A call of the old snapshot in flight has counted late, or has not counted, or neither. -/
theorem late_add_uncounted_le
    (operation : ChaosProcessOperation) (stage : Stage) :
    countedLate operation stage + uncounted operation stage ≤
      oldCall operation stage := by
  cases stage with
  | idle => exact Nat.le_refl _
  | matched call => exact Nat.le_of_eq (Nat.zero_add _)
  | counted call observed number late =>
      cases late with
      | false => exact Nat.zero_le _
      | true => exact Nat.le_refl _

/-! ## The publisher -/

/-- A counter that is cleared is no more than anything. -/
theorem pending_cleared
    (pending : Pending state) {operation : ChaosProcessOperation}
    {rest : List ChaosProcessOperation} {seen : Bool}
    (publisher : state.publisher = .clearing (operation :: rest) seen)
    {counters : FailAfterCounters} (zero : counters operation = 0)
    (others : ∀ other, other ≠ operation →
      counters other = state.counters other) :
    Pending
      { state with
        publisher := .clearing rest false
        counters := counters
        cleared := Function.update state.cleared operation true } where
  stale := pending.stale
  publisher := by
    refine Or.inr ⟨rest, false, rfl, fun other outside => ?_⟩
    show Function.update state.cleared operation true other = true
    by_cases same : other = operation
    · rw [same, Function.update_self]
    · rw [Function.update_of_ne same]
      rcases pending.publisher with writing | ⟨_, _, clearing, cleared⟩
      · rw [publisher] at writing
        cases writing
      · rw [publisher] at clearing
        cases clearing
        apply cleared
        intro member
        rcases List.mem_cons.mp member with here | later
        · exact same here
        · exact outside later
  threads := pending.threads
  late := by
    intro other cleared
    show (counters other).toNat ≤ _
    by_cases same : other = operation
    · rw [same, zero]
      exact Nat.zero_le _
    · rw [others other same]
      apply pending.late
      have before : Function.update state.cleared operation true other = true :=
        cleared
      rw [Function.update_of_ne same] at before
      exact before
  quiet := pending.quiet
  decisions := pending.decisions

/-- When the index is stored, what was counted was counted by calls in flight. -/
theorem active_of_pending
    (pending : Pending state) {seen : Bool}
    (publisher : state.publisher = .clearing [] seen) :
    Active ⟨state.counters, state.inFlight⟩
      { state with
        publisher := .activated
        fresh := true
        activation := some ⟨state.counters, state.inFlight⟩ } := by
  have cleared : ∀ operation, state.cleared operation = true := by
    intro operation
    rcases pending.publisher with writing | ⟨_, _, clearing, cleared⟩
    · rw [publisher] at writing
      cases writing
    · rw [publisher] at clearing
      cases clearing
      exact cleared operation List.not_mem_nil
  have bound : ∀ operation,
      (state.counters operation).toNat +
          total (uncounted operation) state.threads ≤
        state.inFlight operation := by
    intro operation
    calc (state.counters operation).toNat +
          total (uncounted operation) state.threads
        ≤ total (countedLate operation) state.threads +
            total (uncounted operation) state.threads :=
          Nat.add_le_add_right (pending.late operation (cleared operation)) _
      _ = total
            (fun stage =>
              countedLate operation stage + uncounted operation stage)
            state.threads := (total_add _ _ _).symm
      _ ≤ state.inFlight operation :=
          total_le_total _ fun _ => late_add_uncounted_le operation _
  constructor
  · rfl
  · exact Or.inl rfl
  · exact fun operation =>
      Nat.le_trans (Nat.le_add_right _ _) (bound operation)
  · exact fun operation =>
      Nat.le_trans (bound operation) (Nat.le_add_right _ _)
  · intro thread
    show (state.threads thread).Within _
    have stale := pending.threads thread
    cases stage : state.threads thread with
    | idle => trivial
    | matched call => trivial
    | counted call observed number late =>
        intro fresh
        rw [stage] at stale
        exact absurd (stale.symm.trans fresh) Bool.false_ne_true
  · intro decision member
    have none := pending.decisions
    rw [none] at member
    cases member

theorem sound_publish
    (sound : Sound state) (stepped : state.publish = some next) :
    Sound next := by
  unfold State.publish at stepped
  cases active : state.activation with
  | none =>
      have pending := sound.pending active
      split at stepped
      · cases stepped
        refine sound_of_pending active ?_
        refine ⟨pending.stale, Or.inr ⟨operations, false, rfl, ?_⟩,
          pending.threads, pending.late, pending.quiet,
          pending.decisions⟩
        exact fun operation outside => absurd (mem_operations operation) outside
      · rename_i operation rest publisher
        split at stepped
        · rename_i zero
          cases stepped
          exact sound_of_pending active
            (pending_cleared pending publisher zero fun _ _ => rfl)
        · cases stepped
          rcases pending.publisher with writing | ⟨_, _, clearing, cleared⟩
          · rw [publisher] at writing
            cases writing
          · rw [publisher] at clearing
            cases clearing
            exact sound_of_pending active
              ⟨pending.stale, Or.inr ⟨_, _, rfl, cleared⟩, pending.threads,
                pending.late, pending.quiet,
                pending.decisions⟩
      · rename_i operation rest publisher
        cases stepped
        exact sound_of_pending active
          (pending_cleared pending publisher (Function.update_self _ _ _)
            fun other different => Function.update_of_ne different _ _)
      · rename_i publisher
        cases stepped
        exact sound_of_active rfl (active_of_pending pending publisher)
      · rename_i publisher
        rcases pending.publisher with writing | ⟨_, _, clearing, -⟩
        · rw [publisher] at writing
          cases writing
        · rw [publisher] at clearing
          cases clearing
      · cases stepped
  | some activation =>
      have running := sound.active activation active
      rcases running.publisher with publisher | publisher
      · rw [publisher] at stepped
        cases stepped
        exact sound_of_active active
          ⟨running.fresh, Or.inr rfl, running.restarted, running.counters,
            running.threads, running.decisions⟩
      · rw [publisher] at stepped
        cases stepped

/-! ## The threads -/

variable {old new : ChaosProcessConfigState} {thread : Fin count}

/-- What holds of the stages of the others, and of a new one, holds of all. -/
theorem forall_update
    {property : Stage → Prop} {threads : Fin count → Stage} {stage : Stage}
    (others : ∀ other, property (threads other)) (here : property stage)
    (other : Fin count) :
    property (Function.update threads thread stage other) := by
  by_cases same : other = thread
  · rw [same, Function.update_self]
    exact here
  · rw [Function.update_of_ne same]
    exact others other

theorem sound_matchRule
    (sound : Sound state) {operation : ChaosProcessOperation}
    (stepped : state.matchRule old new thread operation = some next) :
    Sound next := by
  unfold State.matchRule at stepped
  split at stepped
  · rename_i idle
    rcases Option.map_eq_some_iff.mp stepped with ⟨rule, -, rfl⟩
    constructor
    · intro none
      have pending := sound.pending none
      refine ⟨pending.stale, pending.publisher, ?_, ?_, pending.quiet,
        pending.decisions⟩
      · exact forall_update pending.threads pending.stale
      · intro other cleared
        have same := @total_update_of_eq count Stage (countedLate other)
          state.threads thread (.matched ⟨operation, rule, state.fresh⟩)
          (congrArg (countedLate other) idle).symm
        exact Nat.le_trans (pending.late other cleared) (Nat.le_of_eq same.symm)
    · intro activation some
      have active := sound.active activation some
      refine ⟨active.fresh, active.publisher, active.restarted, ?_, ?_,
        active.decisions⟩
      · intro other
        have new : uncounted other
            (.matched ⟨operation, rule, state.fresh⟩) = 0 := by
          rw [active.fresh]
          exact if_neg fun found => absurd found.2 nofun
        have same := total_update_of_eq
          (new.trans (congrArg (uncounted other) idle).symm)
        show _ + total (uncounted other) (Function.update _ _ _) ≤ _
        rw [same]
        exact active.counters other
      · exact forall_update active.threads trivial
  · cases stepped
  · cases stepped

theorem sound_countCall
    (sound : Sound state) (stepped : state.countCall thread = some next) :
    Sound next := by
  unfold State.countCall at stepped
  split at stepped
  · rename_i call matched
    cases stepped
    constructor
    · intro none
      have pending := sound.pending none
      have stale : call.fresh = false := by
        have stale := pending.threads thread
        rw [matched] at stale
        exact stale
      refine ⟨pending.stale, pending.publisher, ?_, ?_, ?_, pending.decisions⟩
      · exact forall_update pending.threads stale
      · intro other cleared
        have moved := total_update (countedLate other) state.threads thread
          (.counted call (state.counters call.operation)
            (state.freshCalls call.operation) (state.cleared call.operation))
        rw [matched] at moved
        show (state.counters.count call.operation other).toNat ≤
          total (countedLate other) (Function.update _ _ _)
        have before := pending.late other cleared
        by_cases own : other = call.operation
        · subst own
          have weight : countedLate call.operation
              (.counted call (state.counters call.operation)
                (state.freshCalls call.operation)
                (state.cleared call.operation)) = 1 := by
            have cleared' : state.cleared call.operation = true := cleared
            rw [cleared']
            exact if_pos ⟨rfl, stale⟩
          rw [weight] at moved
          calc (state.counters.count call.operation call.operation).toNat
              ≤ (state.counters call.operation).toNat + 1 :=
                toNat_count_le _ _
            _ ≤ total (countedLate call.operation) state.threads + 1 :=
                Nat.add_le_add_right before 1
            _ = total (countedLate call.operation) _ := moved.symm
        · have weight : countedLate other
              (.counted call (state.counters call.operation)
                (state.freshCalls call.operation)
                (state.cleared call.operation)) = 0 := by
            cases state.cleared call.operation with
            | false => rfl
            | true => exact if_neg fun same => own same.1.symm
          rw [weight] at moved
          rw [count_of_ne _ own]
          exact Nat.le_trans before (Nat.le_of_eq moved.symm)
      · show (if call.fresh then _ else state.freshCalls) = _
        rw [stale, if_neg Bool.false_ne_true]
        exact pending.quiet
    · intro activation some
      have active := sound.active activation some
      refine ⟨active.fresh, active.publisher, active.restarted, ?_, ?_,
        active.decisions⟩
      · intro other
        have moved := total_update (uncounted other) state.threads thread
          (.counted call (state.counters call.operation)
            (state.freshCalls call.operation) (state.cleared call.operation))
        rw [matched] at moved
        have before := active.counters other
        show (state.counters.count call.operation other).toNat +
            total (uncounted other) (Function.update _ _ _) ≤
          _ + (if call.fresh then Function.update _ _ _ else state.freshCalls)
            other
        by_cases own : other = call.operation
        · subst own
          have counted := toNat_count_le state.counters call.operation
          cases fresh : call.fresh with
          | true =>
              -- A new call: one more counted, one more of the new calls.
              have weight : uncounted call.operation (.matched call) = 0 := by
                apply if_neg
                rintro ⟨-, stale⟩
                rw [fresh] at stale
                cases stale
              rw [weight] at moved
              rw [if_pos rfl, Function.update_self]
              have kept : total (uncounted call.operation) _ =
                  total (uncounted call.operation) state.threads := moved
              omega
          | false =>
              -- An old call: one more counted, one fewer that has not.
              have weight : uncounted call.operation (.matched call) = 1 :=
                if_pos ⟨rfl, fresh⟩
              rw [weight] at moved
              rw [if_neg Bool.false_ne_true]
              have kept : total (uncounted call.operation) _ + 1 =
                  total (uncounted call.operation) state.threads := moved
              omega
        · have weight : uncounted other (.matched call) = 0 :=
            if_neg fun same => own same.1.symm
          rw [weight] at moved
          have kept : total (uncounted other) _ =
              total (uncounted other) state.threads := moved
          have calls : (if call.fresh then
                Function.update state.freshCalls call.operation
                  (state.freshCalls call.operation + 1)
              else state.freshCalls) other = state.freshCalls other := by
            split
            · exact Function.update_of_ne own _ _
            · rfl
          rw [count_of_ne _ own, kept, calls]
          exact before
      · apply forall_update active.threads
        intro _
        exact Nat.le_trans (Nat.le_add_right _ _)
          (active.counters call.operation)
  · cases stepped
  · cases stepped

/-- A call that fails found the threshold reached. -/
theorem le_of_failsOn
    {rule : ChaosProcessRule} {observed : UInt64} {sample : UInt32} {now : Int}
    {fires : Bool} (fails : failsOn rule observed sample now fires = true) :
    rule.failAfterCount.toNat ≤ observed.toNat := by
  unfold failsOn at fails
  split at fails
  · cases fails
  · rename_i enough
    rw [Bool.or_eq_true, not_or, decide_eq_true_eq, UInt64.not_lt] at enough
    exact UInt64.le_iff_toNat_le.mp enough.1

theorem sound_finish
    (sound : Sound state) {sample : UInt32} {now : Int} {fires : Bool}
    (outlasts : Outlasts state (.finish thread sample now fires))
    (stepped : state.finish thread sample now fires = some next) :
    Sound next := by
  unfold State.finish at stepped
  split at stepped
  · rename_i call observed number late counted
    cases stepped
    constructor
    · intro none
      have pending := sound.pending none
      have stale : call.fresh = false := by
        have stale := pending.threads thread
        rw [counted] at stale
        exact stale
      refine ⟨pending.stale, pending.publisher, ?_, ?_, pending.quiet, ?_⟩
      · exact forall_update pending.threads trivial
      · intro other cleared
        have early : countedLate other .idle =
            countedLate other (state.threads thread) :=
          (outlasts none other).symm
        show _ ≤ total (countedLate other) (Function.update _ _ _)
        rw [total_update_of_eq early]
        exact pending.late other cleared
      · show (if call.fresh then _ else state.decisions) = []
        rw [stale, if_neg Bool.false_ne_true]
        exact pending.decisions
    · intro activation some
      have active := sound.active activation some
      refine ⟨active.fresh, active.publisher, active.restarted, ?_, ?_, ?_⟩
      · intro other
        have same : uncounted other .idle =
            uncounted other (state.threads thread) := by
          rw [counted]
          rfl
        show _ + total (uncounted other) (Function.update _ _ _) ≤ _
        rw [total_update_of_eq same]
        exact active.counters other
      · exact forall_update active.threads trivial
      · intro decision member fails
        by_cases fresh : call.fresh = true
        · rw [if_pos fresh] at member
          rcases List.mem_append.mp member with before | here
          · exact active.decisions decision before fails
          · rw [List.mem_singleton.mp here] at fails ⊢
            have within := active.threads thread
            rw [counted] at within
            have reached := le_of_failsOn fails
            have bound := within fresh
            show call.rule.failAfterCount.toNat ≤
              number + activation.inFlight call.operation
            omega
        · rw [if_neg fresh] at member
          exact active.decisions decision member fails
  · cases stepped
  · cases stepped

/-- What one step preserves. -/
theorem sound_step
    (sound : Sound state) {label : Label count} (outlasts : Outlasts state label)
    (stepped : step old new state label = some next) : Sound next := by
  cases label with
  | publish => exact sound_publish sound stepped
  | matchRule thread operation => exact sound_matchRule sound stepped
  | countCall thread => exact sound_countCall sound stepped
  | finish thread sample now fires => exact sound_finish sound outlasts stepped

/-! ## Over a whole run -/

/--
For any number of threads in calls of either snapshot, and one publish: in every run
in which no call that counted after its counter was cleared returns before the index
is stored, the counters restart at the calls in flight, and a new rule's calls pass
but for these.
-/
theorem restarts_of_outlasts
    (old new : ChaosProcessConfigState) (counters : FailAfterCounters)
    (labels : List (Label count))
    (meets : Meets (step old new) Outlasts (initial count counters) labels) :
    Throughout (step old new) Restarts (initial count counters) labels := by
  have sound : Throughout (step old new) Sound (initial count counters) labels :=
    throughout_of_meets
      (fun _ _ _ _ sound outlasts stepped => sound_step sound outlasts stepped)
      (fun _ _ => trivial) (sound_initial counters) meets
  exact fun before after middle split ran =>
    restarts_of_sound (sound before after middle split ran)

/-! ### A call that is over too soon -/

/-- `fork:FAIL_AFTER:EAGAIN,1`. -/
def forkFailAfter : ChaosProcessRule where
  probability := ⟨1, 1⟩
  policy := {}
  callSize := 2 ^ 64 - 1
  hit := some 0
  hitGeneration := 0
  selector := ⟨.operation .fork, 4⟩
  effect := .failAfter
  errnum := 11
  latencyMs := 0
  failAfterCount := 1

/-- A snapshot of that rule. -/
def forkSnapshot : ChaosProcessConfigState :=
  ⟨true, [forkFailAfter]⟩

/-- The first of the steps of a call of `fork`, and the last of them. -/
def callBegun (thread : Fin count) : List (Label count) :=
  [.matchRule thread .fork, .countCall thread]

/-- All counters are found to be 0. -/
def allCleared : List (Label count) :=
  List.replicate 8 .publish

instance (state : State count) : DecidablePred (Outlasts state)
  | .finish thread _ _ _ =>
      decidable_of_iff
        (state.activation.isSome ∨ ∀ operation ∈ operations,
          countedLate operation (state.threads thread) = 0)
        ⟨fun early none operation => by
            rw [none] at early
            exact (early.resolve_left nofun) operation
              (mem_operations operation),
          fun early => by
            cases found : state.activation with
            | none => exact Or.inr fun operation _ => early found operation
            | some activation => exact Or.inl rfl⟩
  | .publish | .matchRule _ _ | .countCall _ => isTrue trivial

/-- A call that is in flight when the index is stored, and is over afterwards. -/
theorem restarts_of_outlasts_inFlight :
    Throughout (step forkSnapshot forkSnapshot) Restarts
      (initial 1 fun _ => 0)
      (allCleared ++ callBegun 0 ++ [.publish, .finish 0 0 0 true]) :=
  restarts_of_outlasts forkSnapshot forkSnapshot (fun _ => 0) _
    (by decide +kernel)

/--
One thread calls `fork` after the counters were cleared and is out of it before the
index is stored: the new rule's counter starts at 1 with no call in flight, and the
first call of its own fails.
-/
theorem forkCounter_starts_at_one :
    ∃ final activation,
      run (step forkSnapshot forkSnapshot) (initial 1 fun _ => 0)
          (allCleared ++ callBegun 0 ++
            [.finish 0 0 0 true, .publish] ++ callBegun 0 ++
              [.finish 0 0 0 true]) = some final ∧
        final.activation = some activation ∧
        (activation.counters .fork).toNat = 1 ∧
        activation.inFlight .fork = 0 ∧
        final.decisions = [⟨.fork, 1, 0, true⟩] ∧ ¬ Restarts final := by
  have observed :
      (run (step forkSnapshot forkSnapshot) (initial 1 fun _ => 0)
          (allCleared ++ callBegun 0 ++
            [.finish 0 0 0 true, .publish] ++ callBegun 0 ++
              [.finish 0 0 0 true])).map
        (fun final =>
          (final.activation.map fun activation =>
            ((activation.counters .fork).toNat, activation.inFlight .fork),
          final.decisions)) =
        some (some (1, 0), [⟨.fork, 1, 0, true⟩]) := by
    decide +kernel
  rcases Option.map_eq_some_iff.mp observed with ⟨final, ran, seen⟩
  rcases Prod.mk.inj seen with ⟨active, decided⟩
  rcases Option.map_eq_some_iff.mp active with ⟨activation, found, values⟩
  rcases Prod.mk.inj values with ⟨one, zero⟩
  refine ⟨final, activation, ran, found, one, zero, decided, fun restarts => ?_⟩
  have bound := (restarts activation found .fork).1
  rw [one, zero] at bound
  exact absurd bound (Nat.not_succ_le_zero 0)

end ChaosLibs.Process.FailAfterReload
