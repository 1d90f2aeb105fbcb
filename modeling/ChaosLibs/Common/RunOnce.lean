import ChaosLibs.Machine.LabelledRun
import Mathlib.Logic.Function.Basic

/-!
# Run-once initialisation

`chaos_once` of `chaos_once.h`.  A thread has a stack of calls of it: the initialiser may
call it again, and a signal handler may call it wherever the thread is.  One step is one
access to the state or to the flag of the thread, or the return of the initialiser; steps
of all threads come in any order.  A fork leaves the thread that forked.

`owner` is history: the thread whose exchange was successful, until it stores that it is
done.
-/

namespace ChaosLibs.Common.RunOnce

open ChaosLibs.Machine

/-- `chaos_once_t`: 0, 1 and 2. -/
inductive Once where
  | notStarted
  | running
  | done
deriving DecidableEq, Repr

/-- Where a call of `chaos_once` is. -/
inductive Frame where
  | load
  | exchange
  | setRunning
  | initialise
  | clearRunning
  | storeDone
  | testRunning
  | spin
  | ret (value : Bool)
deriving DecidableEq, Repr

/-- Whether the call is the one that was elected. -/
def Frame.owns : Frame → Bool
  | .setRunning | .initialise | .clearRunning | .storeDone => true
  | _ => false

/-- Whether the elected call has set the flag of its thread. -/
def Frame.marks : Frame → Bool
  | .initialise | .clearRunning => true
  | _ => false

/-- Whether the elected call has started the initialiser. -/
def Frame.hasStarted : Frame → Bool
  | .initialise | .clearRunning | .storeDone => true
  | _ => false

/-- Whether the initialiser of the elected call has returned. -/
def Frame.hasCompleted : Frame → Bool
  | .clearRunning | .storeDone => true
  | _ => false

/-- A call that returned, and what held then. -/
structure Return where
  thread : Nat
  value : Bool
  completed : Bool
  running : Bool
deriving DecidableEq, Repr

/-- The state, the threads, and history. -/
structure State where
  once : Once
  /-- The calls of each thread, the innermost first. -/
  stack : Nat → List Frame
  /-- `g_chaos_once_running` of each thread. -/
  running : Nat → Bool
  /-- How often the initialiser was started. -/
  starts : Nat
  /-- The initialiser has returned. -/
  completed : Bool
  returns : List Return
  owner : Option Nat

/-- `CHAOS_ONCE_INIT`, and no calls. -/
def initial : State where
  once := .notStarted
  stack := fun _ => []
  running := fun _ => false
  starts := 0
  completed := false
  returns := []
  owner := none

/-- The calls of a thread. -/
def State.put (state : State) (thread : Nat) (calls : List Frame) : State :=
  { state with stack := Function.update state.stack thread calls }

/-- `g_chaos_once_running` of a thread. -/
def State.flag (state : State) (thread : Nat) (value : Bool) : State :=
  { state with running := Function.update state.running thread value }

/-- One access of the innermost call of a thread, `outer` are the calls around it. -/
def advance (state : State) (thread : Nat) (outer : List Frame) : Frame → State
  | .load =>
      state.put thread ((if state.once = .done then .ret true else .exchange) :: outer)
  | .exchange =>
      if state.once = .notStarted then
        { state.put thread (.setRunning :: outer) with
          once := .running, owner := some thread }
      else state.put thread (.testRunning :: outer)
  | .setRunning =>
      { (state.put thread (.initialise :: outer)).flag thread true with
        starts := state.starts + 1 }
  | .initialise => { state.put thread (.clearRunning :: outer) with completed := true }
  | .clearRunning => (state.put thread (.storeDone :: outer)).flag thread false
  | .storeDone =>
      { state.put thread (.ret true :: outer) with once := .done, owner := none }
  | .testRunning =>
      state.put thread ((if state.running thread then .ret false else .spin) :: outer)
  | .spin =>
      state.put thread ((if state.once = .done then .ret true else .spin) :: outer)
  | .ret value =>
      { state.put thread outer with
        returns :=
          ⟨thread, value, state.completed, state.running thread⟩ :: state.returns }

/-- What is left of the threads in the child of a fork. -/
def forked (state : State) (thread : Nat) : State :=
  { state with
    stack := Function.update (fun _ => []) thread (state.stack thread)
    running := Function.update (fun _ => false) thread (state.running thread)
    owner := if state.owner = some thread then some thread else none }

/-- What the threads do. -/
inductive Label where
  | call (thread : Nat)
  | step (thread : Nat)
  | fork (thread : Nat)
deriving DecidableEq, Repr

/-- One step of one thread; after a fork the run is the child's. -/
def step (state : State) : Label → Option State
  | .call thread => some (state.put thread (.load :: state.stack thread))
  | .step thread =>
      match state.stack thread with
      | [] => none
      | frame :: outer => some (advance state thread outer frame)
  | .fork thread => some (forked state thread)

/-! ## What every run keeps -/

/-- Calls of which none was elected and none is refused. -/
def Quiet (calls : List Frame) : Prop :=
  ∀ frame ∈ calls, frame.owns = false ∧ frame ≠ .ret false

/-- Calls inside of the elected one: they are refused only behind its flag. -/
def Inner (frame : Frame) (calls : List Frame) : Prop :=
  ∀ call ∈ calls, call.owns = false ∧ (call = .ret false → frame.marks)

/-- The thread of the elected call, with the calls inside and outside of it. -/
structure Elected (state : State) (thread : Nat) (inner : List Frame) (frame : Frame)
    (outer : List Frame) : Prop where
  split : state.stack thread = inner ++ frame :: outer
  owns : frame.owns = true
  inner : Inner frame inner
  outer : Quiet outer
  flag : state.running thread = frame.marks
  starts : state.starts = if frame.hasStarted then 1 else 0
  completed : state.completed = frame.hasCompleted

/-- What holds between any two steps. -/
structure Kept (state : State) : Prop where
  notStarted : state.once = .notStarted →
    state.owner = none ∧ state.starts = 0 ∧ state.completed = false
  done : state.once = .done → state.owner = none ∧ state.starts = 1 ∧ state.completed = true
  starts : state.starts ≤ 1
  elected : ∀ thread, state.owner = some thread →
    state.once = .running ∧ ∃ inner frame outer, Elected state thread inner frame outer
  quiet : ∀ thread, state.owner ≠ some thread →
    Quiet (state.stack thread) ∧ state.running thread = false
  succeeds : ∀ thread, .ret true ∈ state.stack thread → state.once = .done
  returns : ∀ past ∈ state.returns,
    (past.value = true → past.completed = true) ∧
      (past.value = false → past.running = true)

variable {state next : State} {thread : Nat} {frame : Frame} {inner outer calls : List Frame}

@[simp]
theorem put_stack_self : (state.put thread calls).stack thread = calls :=
  Function.update_self _ _ _

theorem put_stack_of_ne {other : Nat} (apart : other ≠ thread) :
    (state.put thread calls).stack other = state.stack other :=
  Function.update_of_ne apart _ _

theorem Elected.put {other : Nat} (apart : thread ≠ other)
    (elected : Elected state thread inner frame outer) :
    Elected (state.put other calls) thread inner frame outer :=
  { split := (put_stack_of_ne apart).trans elected.split
    owns := elected.owns
    inner := elected.inner
    outer := elected.outer
    flag := elected.flag
    starts := elected.starts
    completed := elected.completed }

theorem quiet_nil : Quiet [] :=
  fun _ none => absurd none List.not_mem_nil

theorem quiet_cons :
    Quiet (frame :: calls) ↔ (frame.owns = false ∧ frame ≠ .ret false) ∧ Quiet calls :=
  List.forall_mem_cons

theorem inner_cons {call : Frame} :
    Inner frame (call :: calls) ↔
      (call.owns = false ∧ (call = .ret false → frame.marks)) ∧ Inner frame calls :=
  List.forall_mem_cons

/-- A thread that was not elected goes on. -/
theorem Kept.put_quiet (kept : Kept state) (other : state.owner ≠ some thread)
    (quiet : Quiet calls) (succeeds : .ret true ∈ calls → state.once = .done) :
    Kept (state.put thread calls) where
  notStarted := kept.notStarted
  done := kept.done
  starts := kept.starts
  elected := by
    intro owner owns
    obtain ⟨once, inner, frame, outer, elected⟩ := kept.elected owner owns
    have apart : owner ≠ thread := fun same => other (same ▸ owns)
    exact ⟨once, inner, frame, outer, elected.put apart⟩
  quiet := by
    intro one apart
    by_cases same : one = thread
    · subst same
      exact ⟨by rwa [put_stack_self], (kept.quiet one other).2⟩
    · rw [put_stack_of_ne same]
      exact kept.quiet one apart
  succeeds := by
    intro one member
    by_cases same : one = thread
    · subst same
      rw [put_stack_self] at member
      exact succeeds member
    · rw [put_stack_of_ne same] at member
      exact kept.succeeds one member
  returns := kept.returns

/-- The calls inside of the elected one go on. -/
theorem Kept.put_inner (kept : Kept state) (owns : state.owner = some thread)
    (elected : Elected state thread inner frame outer) (inside : Inner frame calls)
    (waits : .ret true ∉ calls) :
    Kept (state.put thread (calls ++ frame :: outer)) where
  notStarted := kept.notStarted
  done := kept.done
  starts := kept.starts
  elected := by
    intro owner same
    have once := (kept.elected owner same).1
    obtain rfl : thread = owner := Option.some.inj (owns.symm.trans same)
    exact ⟨once, calls, frame, outer,
      { elected with split := put_stack_self, inner := inside }⟩
  quiet := by
    intro one apart
    have other : one ≠ thread := fun same => apart (same ▸ owns)
    rw [put_stack_of_ne other]
    exact kept.quiet one apart
  succeeds := by
    intro one member
    by_cases same : one = thread
    · subst same
      rw [put_stack_self] at member
      refine kept.succeeds one ?_
      rw [elected.split]
      rcases List.mem_append.mp member with inside | rest
      · exact absurd inside waits
      · exact List.mem_append_right _ rest
    · rw [put_stack_of_ne same] at member
      exact kept.succeeds one member
  returns := kept.returns

theorem kept_initial : Kept initial :=
  { notStarted := fun _ => ⟨rfl, rfl, rfl⟩
    done := fun done => nomatch done
    starts := Nat.zero_le _
    elected := fun _ owns => nomatch owns
    quiet := fun _ _ => ⟨quiet_nil, rfl⟩
    succeeds := fun _ member => absurd member List.not_mem_nil
    returns := fun _ member => absurd member List.not_mem_nil }

theorem Kept.call (kept : Kept state) (thread : Nat) :
    Kept (state.put thread (.load :: state.stack thread)) := by
  by_cases owns : state.owner = some thread
  · obtain ⟨-, inner, frame, outer, elected⟩ := kept.elected thread owns
    have once := (kept.elected thread owns).1
    rw [elected.split, ← List.cons_append]
    refine kept.put_inner owns elected (inner_cons.mpr ⟨⟨rfl, nofun⟩, elected.inner⟩) ?_
    intro member
    have inside := (List.mem_cons.mp member).resolve_left nofun
    have done := kept.succeeds thread (by
      rw [elected.split]
      exact List.mem_append_left _ inside)
    rw [once] at done
    cases done
  · have quiet := (kept.quiet thread owns).1
    refine kept.put_quiet owns (quiet_cons.mpr ⟨⟨rfl, nofun⟩, quiet⟩) fun member => ?_
    exact kept.succeeds thread ((List.mem_cons.mp member).resolve_left nofun)

/-- A call returns. -/
theorem Kept.record (kept : Kept state) {past : Return}
    (sound : (past.value = true → past.completed = true) ∧
      (past.value = false → past.running = true)) :
    Kept { state with returns := past :: state.returns } where
  notStarted := kept.notStarted
  done := kept.done
  starts := kept.starts
  elected := by
    intro owner owns
    obtain ⟨once, inner, frame, outer, elected⟩ := kept.elected owner owns
    exact ⟨once, inner, frame, outer,
      ⟨elected.split, elected.owns, elected.inner, elected.outer, elected.flag,
        elected.starts, elected.completed⟩⟩
  quiet := kept.quiet
  succeeds := kept.succeeds
  returns := List.forall_mem_cons.mpr ⟨sound, kept.returns⟩

/-- The call whose exchange is successful. -/
theorem Kept.elected_elect (kept : Kept state) (once : state.once = .notStarted)
    (quiet : Quiet outer) (flag : state.running thread = false) :
    Elected { state.put thread (.setRunning :: outer) with
      once := .running, owner := some thread } thread [] .setRunning outer where
  split := put_stack_self
  owns := rfl
  inner := fun _ none => absurd none List.not_mem_nil
  outer := quiet
  flag := flag
  starts := (kept.notStarted once).2.1
  completed := (kept.notStarted once).2.2

/-- The exchange is successful, and the call is elected. -/
theorem Kept.elect (kept : Kept state) (once : state.once = .notStarted)
    (split : state.stack thread = .exchange :: outer) (quiet : Quiet outer)
    (flag : state.running thread = false) :
    Kept { state.put thread (.setRunning :: outer) with
      once := .running, owner := some thread } where
  notStarted := nofun
  done := nofun
  starts := kept.starts
  elected := by
    intro owner owns
    obtain rfl : thread = owner := Option.some.inj owns
    exact ⟨rfl, [], .setRunning, outer, kept.elected_elect once quiet flag⟩
  quiet := by
    intro one apart
    have other : one ≠ thread := fun same => apart (congrArg some same.symm)
    have none : state.owner ≠ some one := by
      rw [(kept.notStarted once).1]
      nofun
    change Quiet ((state.put thread (.setRunning :: outer)).stack one) ∧ _
    rw [put_stack_of_ne other]
    exact kept.quiet one none
  succeeds := by
    intro one member
    have before : .ret true ∈ state.stack one := by
      change .ret true ∈ (state.put thread (.setRunning :: outer)).stack one at member
      by_cases same : one = thread
      · subst same
        rw [put_stack_self] at member
        rw [split]
        exact List.mem_cons_of_mem _ ((List.mem_cons.mp member).resolve_left nofun)
      · rwa [put_stack_of_ne same] at member
    have done := kept.succeeds one before
    rw [once] at done
    cases done
  returns := kept.returns

/-- A step of a thread that was not elected. -/
theorem Kept.advance_quiet (kept : Kept state) (other : state.owner ≠ some thread)
    (split : state.stack thread = frame :: outer) :
    Kept (advance state thread outer frame) := by
  obtain ⟨whole, flag⟩ := kept.quiet thread other
  rw [split] at whole
  obtain ⟨⟨free, accepted⟩, quiet⟩ := quiet_cons.mp whole
  have succeeds : .ret true ∈ outer → state.once = .done := fun member =>
    kept.succeeds thread (by rw [split]; exact List.mem_cons_of_mem _ member)
  cases frame with
  | load =>
      rw [advance]
      split
      · rename_i done
        exact kept.put_quiet other (quiet_cons.mpr ⟨⟨rfl, nofun⟩, quiet⟩) fun _ => done
      · exact kept.put_quiet other (quiet_cons.mpr ⟨⟨rfl, nofun⟩, quiet⟩)
          fun member => succeeds ((List.mem_cons.mp member).resolve_left nofun)
  | exchange =>
      rw [advance]
      split
      · rename_i once
        exact kept.elect once split quiet flag
      · exact kept.put_quiet other (quiet_cons.mpr ⟨⟨rfl, nofun⟩, quiet⟩)
          fun member => succeeds ((List.mem_cons.mp member).resolve_left nofun)
  | testRunning =>
      rw [advance]
      rw [flag, if_neg Bool.false_ne_true]
      exact kept.put_quiet other (quiet_cons.mpr ⟨⟨rfl, nofun⟩, quiet⟩)
        fun member => succeeds ((List.mem_cons.mp member).resolve_left nofun)
  | spin =>
      rw [advance]
      split
      · rename_i done
        exact kept.put_quiet other (quiet_cons.mpr ⟨⟨rfl, nofun⟩, quiet⟩) fun _ => done
      · exact kept.put_quiet other (quiet_cons.mpr ⟨⟨rfl, nofun⟩, quiet⟩)
          fun member => succeeds ((List.mem_cons.mp member).resolve_left nofun)
  | ret value =>
      cases value with
      | false => exact absurd rfl accepted
      | true =>
          have done := kept.succeeds thread (by rw [split]; exact List.mem_cons_self)
          exact (kept.put_quiet other quiet succeeds).record
            ⟨fun _ => (kept.done done).2.2, nofun⟩
  | setRunning => cases free
  | initialise => cases free
  | clearRunning => cases free
  | storeDone => cases free

/-- A step of a call inside of the elected one. -/
theorem Kept.advance_inner {call : Frame} (kept : Kept state)
    (owns : state.owner = some thread)
    (elected : Elected state thread (call :: inner) frame outer) :
    Kept (advance state thread (inner ++ frame :: outer) call) := by
  have once := (kept.elected thread owns).1
  obtain ⟨⟨free, behind⟩, inside⟩ := inner_cons.mp elected.inner
  have waits : ∀ calls : List Frame, calls ⊆ call :: inner → .ret true ∉ calls := by
    intro calls within member
    have done := kept.succeeds thread (by
      rw [elected.split]
      exact List.mem_append_left _ (within member))
    rw [once] at done
    cases done
  have running : state.once ≠ .done ∧ state.once ≠ .notStarted := by
    rw [once]
    exact ⟨nofun, nofun⟩
  have goes : ∀ next : Frame, next.owns = false → (next = .ret false → frame.marks) →
      next ≠ .ret true →
      Kept (state.put thread (next :: (inner ++ frame :: outer))) := by
    intro next free behind other
    rw [← List.cons_append]
    refine kept.put_inner owns elected (inner_cons.mpr ⟨⟨free, behind⟩, inside⟩) ?_
    intro member
    rcases List.mem_cons.mp member with same | later
    · exact other same.symm
    · exact waits inner (List.subset_cons_self _ _) later
  cases call with
  | load =>
      rw [advance]
      rw [if_neg running.1]
      exact goes .exchange rfl nofun nofun
  | exchange =>
      rw [advance]
      rw [if_neg running.2]
      exact goes .testRunning rfl nofun nofun
  | testRunning =>
      rw [advance]
      rw [elected.flag]
      cases marks : frame.marks with
      | true => exact goes (.ret false) rfl (fun _ => marks) nofun
      | false => exact goes .spin rfl nofun nofun
  | spin =>
      rw [advance]
      rw [if_neg running.1]
      exact goes .spin rfl nofun nofun
  | ret value =>
      cases value with
      | true => exact absurd List.mem_cons_self (waits _ (List.Subset.refl _))
      | false =>
          have flag : state.running thread = true := elected.flag.trans (behind rfl)
          exact (kept.put_inner owns elected inside
            (waits inner (List.subset_cons_self _ _))).record ⟨nofun, fun _ => flag⟩
  | setRunning => cases free
  | initialise => cases free
  | clearRunning => cases free
  | storeDone => cases free

/-- The elected call goes on to `after`. -/
theorem Kept.move {after : Frame} (kept : Kept state) (owns : state.owner = some thread)
    (elected : Elected state thread [] frame outer) (still : after.owns = true) :
    Kept
      { once := state.once
        stack := Function.update state.stack thread (after :: outer)
        running := Function.update state.running thread after.marks
        starts := if after.hasStarted then 1 else 0
        completed := after.hasCompleted
        returns := state.returns
        owner := state.owner } where
  notStarted := by
    intro none
    rw [(kept.elected thread owns).1] at none
    cases none
  done := by
    intro done
    rw [(kept.elected thread owns).1] at done
    cases done
  starts := by
    dsimp only
    split <;> decide
  elected := by
    intro owner same
    have once := (kept.elected thread owns).1
    obtain rfl : thread = owner := Option.some.inj (owns.symm.trans same)
    exact ⟨once, [], after, outer,
      { split := Function.update_self _ _ _
        owns := still
        inner := fun _ none => absurd none List.not_mem_nil
        outer := elected.outer
        flag := Function.update_self _ _ _
        starts := rfl
        completed := rfl }⟩
  quiet := by
    intro one apart
    have other : one ≠ thread := fun same => apart (same ▸ owns)
    dsimp only
    rw [Function.update_of_ne other, Function.update_of_ne other]
    exact kept.quiet one apart
  succeeds := by
    intro one member
    dsimp only at member
    by_cases same : one = thread
    · subst same
      rw [Function.update_self] at member
      refine kept.succeeds one ?_
      rw [elected.split]
      refine List.mem_cons_of_mem _ ((List.mem_cons.mp member).resolve_left ?_)
      intro same
      rw [← same] at still
      cases still
    · rw [Function.update_of_ne same] at member
      exact kept.succeeds one member
  returns := kept.returns

/-- The elected call stores that it is done. -/
theorem Kept.finish (kept : Kept state) (owns : state.owner = some thread)
    (elected : Elected state thread [] .storeDone outer) :
    Kept { state.put thread (.ret true :: outer) with once := .done, owner := none } where
  notStarted := nofun
  done := fun _ => ⟨rfl, elected.starts, elected.completed⟩
  starts := kept.starts
  elected := nofun
  quiet := by
    intro one _
    by_cases same : one = thread
    · subst same
      refine ⟨?_, elected.flag⟩
      change Quiet ((state.put one (.ret true :: outer)).stack one)
      rw [put_stack_self]
      exact quiet_cons.mpr ⟨⟨rfl, nofun⟩, elected.outer⟩
    · have apart : state.owner ≠ some one := by
        rw [owns]
        exact fun equal => same (Option.some.inj equal).symm
      change Quiet ((state.put thread (.ret true :: outer)).stack one) ∧ _
      rw [put_stack_of_ne same]
      exact kept.quiet one apart
  succeeds := fun _ _ => rfl
  returns := kept.returns

/-- A step of the elected call itself. -/
theorem Kept.advance_elected (kept : Kept state) (owns : state.owner = some thread)
    (elected : Elected state thread [] frame outer) :
    Kept (advance state thread outer frame) := by
  have held := elected.owns
  have starts := elected.starts
  have completed := elected.completed
  have flag := elected.flag
  cases frame with
  | setRunning =>
      have moved := kept.move owns elected (rfl : Frame.initialise.owns = true)
      simp only [Frame.hasStarted, if_true, Frame.hasCompleted, Frame.marks] at moved
      simp only [Frame.hasStarted, Bool.false_eq_true, if_false] at starts
      simp only [Frame.hasCompleted] at completed
      simpa only [advance, State.put, State.flag, starts, completed] using moved
  | initialise =>
      have moved := kept.move owns elected (rfl : Frame.clearRunning.owns = true)
      simp only [Frame.hasStarted, if_true, Frame.hasCompleted, Frame.marks] at moved
      simp only [Frame.hasStarted, if_true] at starts
      have same : Function.update state.running thread true = state.running := by
        rw [show true = state.running thread from flag.symm, Function.update_eq_self]
      rw [same] at moved
      simpa only [advance, State.put, starts] using moved
  | clearRunning =>
      have moved := kept.move owns elected (rfl : Frame.storeDone.owns = true)
      simp only [Frame.hasStarted, if_true, Frame.hasCompleted, Frame.marks] at moved
      simp only [Frame.hasStarted, if_true] at starts
      simp only [Frame.hasCompleted] at completed
      simpa only [advance, State.put, State.flag, starts, completed] using moved
  | storeDone =>
      rw [advance]
      exact kept.finish owns elected
  | load => cases held
  | exchange => cases held
  | testRunning => cases held
  | spin => cases held
  | ret value => cases held

theorem forked_self (state : State) (thread : Nat) :
    (forked state thread).stack thread = state.stack thread ∧
      (forked state thread).running thread = state.running thread := by
  simp only [forked, Function.update_self, and_self]

theorem forked_of_ne {other : Nat} (apart : other ≠ thread) :
    (forked state thread).stack other = [] ∧
      (forked state thread).running other = false := by
  simp only [forked, Function.update_of_ne apart, and_self]

/-- A fork leaves the thread that forked. -/
theorem Kept.fork (kept : Kept state) (thread : Nat) : Kept (forked state thread) := by
  have ownerOf : ∀ owner, (forked state thread).owner = some owner →
      owner = thread ∧ state.owner = some thread := by
    intro owner owns
    simp only [forked] at owns
    split at owns
    · rename_i same
      exact ⟨(Option.some.inj owns).symm, same⟩
    · cases owns
  obtain ⟨self, flag⟩ := forked_self state thread
  exact
    { notStarted := by
        intro none
        obtain ⟨owner, starts, completed⟩ := kept.notStarted none
        exact ⟨by simp [forked, owner], starts, completed⟩
      done := by
        intro done
        obtain ⟨owner, starts, completed⟩ := kept.done done
        exact ⟨by simp [forked, owner], starts, completed⟩
      starts := kept.starts
      elected := by
        intro owner owns
        obtain ⟨rfl, held⟩ := ownerOf owner owns
        obtain ⟨once, inner, frame, outer, elected⟩ := kept.elected owner held
        exact ⟨once, inner, frame, outer,
          { elected with split := self.trans elected.split, flag := flag.trans elected.flag }⟩
      quiet := by
        intro one apart
        by_cases same : one = thread
        · subst same
          have other : state.owner ≠ some one := by
            intro owns
            exact apart (by simp [forked, owns])
          rw [self, flag]
          exact kept.quiet one other
        · rw [(forked_of_ne same).1]
          exact ⟨quiet_nil, (forked_of_ne same).2⟩
      succeeds := by
        intro one member
        by_cases same : one = thread
        · subst same
          rw [self] at member
          exact kept.succeeds one member
        · rw [(forked_of_ne same).1] at member
          cases member
      returns := kept.returns }

theorem kept_step {label : Label} (kept : Kept state)
    (stepped : step state label = some next) : Kept next := by
  cases label with
  | call thread =>
      cases stepped
      exact kept.call thread
  | fork thread =>
      cases stepped
      exact kept.fork thread
  | step thread =>
      rw [step] at stepped
      split at stepped
      · cases stepped
      · rename_i frame outer split
        cases stepped
        by_cases owns : state.owner = some thread
        · obtain ⟨-, inner, held, around, elected⟩ := kept.elected thread owns
          have whole := split.symm.trans elected.split
          cases inner with
          | nil =>
              obtain ⟨rfl, rfl⟩ := List.cons.inj whole
              exact kept.advance_elected owns elected
          | cons call inner =>
              obtain ⟨rfl, rfl⟩ := List.cons.inj whole
              exact kept.advance_inner owns elected
        · exact kept.advance_quiet owns split

theorem kept_run {labels : List Label} {final : State} (kept : Kept state)
    (ran : run step state labels = some final) : Kept final :=
  @invariant_of_run _ _ step (fun _ => True) Kept
    (fun _ _ _ _ held stepped => kept_step held stepped) _ _ _ (fun _ _ => trivial) kept ran

variable {labels : List Label} {final : State}

/--
However many threads call `chaos_once`, and wherever its initialiser or a signal handler
calls it again: the initialiser is started at most once, a call returns 1 only when it has
completed, and 0 only on the thread that runs it.
-/
theorem run_once (ran : run step initial labels = some final) :
    final.starts ≤ 1 ∧
      (final.once = .done → final.starts = 1 ∧ final.completed = true) ∧
      ∀ past ∈ final.returns,
        (past.value = true → past.completed = true) ∧
          (past.value = false → past.running = true) := by
  have kept := kept_run kept_initial ran
  exact ⟨kept.starts, fun done => (kept.done done).2, kept.returns⟩

/-- The initialiser calls it again while another thread waits. -/
def reentrant : List Label :=
  [.call 1, .call 2, .step 1, .step 2, .step 1, .step 1, .step 2, .call 1, .step 2,
    .step 1, .step 1, .step 1, .step 1, .step 1, .step 2, .step 1, .step 1, .step 1,
    .step 2, .step 2]

/-- The end of that run. -/
def reentrantEnd : State :=
  (run step initial reentrant).getD initial

/-- The nested call gets 0 and the two others 1, behind one initialiser. -/
theorem run_once_reentrant :
    reentrantEnd.returns.map Return.value = [true, true, false] ∧
      reentrantEnd.starts ≤ 1 ∧
      (reentrantEnd.once = .done →
        reentrantEnd.starts = 1 ∧ reentrantEnd.completed = true) ∧
      ∀ past ∈ reentrantEnd.returns,
        (past.value = true → past.completed = true) ∧
          (past.value = false → past.running = true) :=
  ⟨rfl, @run_once reentrant reentrantEnd rfl⟩

/-! ## Waiting -/

/--
No handler calls between the exchange and the flag, or between the flag and the store, and
no other thread forks while the initialiser runs.
-/
def orderly (state : State) : Label → Prop
  | .call thread =>
      ∀ frame ∈ (state.stack thread).head?, frame ≠ .setRunning ∧ frame ≠ .storeDone
  | .step _ => True
  | .fork thread => state.once = .running → state.owner = some thread

/-- A stack has one elected call. -/
theorem Elected.unique {otherInner otherOuter : List Frame} {other : Frame}
    (elected : Elected state thread inner frame outer)
    (again : Elected state thread otherInner other otherOuter) :
    inner = otherInner ∧ frame = other ∧ outer = otherOuter := by
  have parts : ∀ {inner outer : List Frame} {frame : Frame},
      Elected state thread inner frame outer →
      (state.stack thread).takeWhile (fun call => !call.owns) = inner ∧
        (state.stack thread).dropWhile (fun call => !call.owns) = frame :: outer := by
    intro inner outer frame elected
    have free : ∀ call ∈ inner, (!call.owns) = true := by
      intro call member
      rw [(elected.inner call member).1, Bool.not_false]
    constructor
    · rw [elected.split, List.takeWhile_append_of_pos free]
      simp [elected.owns]
    · rw [elected.split, List.dropWhile_append_of_pos free]
      simp [elected.owns]
  obtain ⟨first, second⟩ := parts elected
  obtain ⟨firstAgain, secondAgain⟩ := parts again
  obtain ⟨sameFrame, sameOuter⟩ := List.cons.inj (second.symm.trans secondAgain)
  exact ⟨first.symm.trans firstAgain, sameFrame, sameOuter⟩

/-- The thread of the elected call does not wait. -/
structure Awake (state : State) : Prop where
  kept : Kept state
  owned : state.once = .running → state.owner ≠ none
  wakes : ∀ thread inner frame outer, state.owner = some thread →
    Elected state thread inner frame outer →
      (inner ≠ [] → frame.marks = true) ∧ .spin ∉ inner

/-- A thread that does not own leaves the owner where it is. -/
theorem Awake.other (awake : Awake state) (kept : Kept next)
    (apart : state.owner ≠ some thread) (once : next.once = state.once)
    (owner : next.owner = state.owner) (starts : next.starts = state.starts)
    (completed : next.completed = state.completed)
    (running : next.running = state.running)
    (stack : ∀ one, one ≠ thread → next.stack one = state.stack one) : Awake next where
  kept := kept
  owned := by
    rw [once, owner]
    exact awake.owned
  wakes := by
    intro one inner frame outer owns elected
    rw [owner] at owns
    have distinct : one ≠ thread := fun same => apart (same ▸ owns)
    refine awake.wakes one inner frame outer owns
      { elected with
        split := (stack one distinct).symm.trans elected.split
        flag := ?_, starts := ?_, completed := ?_ }
    · rw [← running]
      exact elected.flag
    · rw [← starts]
      exact elected.starts
    · rw [← completed]
      exact elected.completed

/-- Calls inside of an elected call that has set its flag do not wait. -/
theorem Awake.inside (awake : Awake state) (kept : Kept next)
    (owns : state.owner = some thread)
    (once : next.once = state.once) (owner : next.owner = state.owner)
    (still : Elected next thread calls frame outer)
    (marks : calls ≠ [] → frame.marks = true) (wakes : .spin ∉ calls) : Awake next where
  kept := kept
  owned := by
    rw [once, owner]
    exact awake.owned
  wakes := by
    intro one other held around same again
    rw [owner, owns] at same
    obtain rfl := Option.some.inj same
    obtain ⟨rfl, rfl, rfl⟩ := still.unique again
    exact ⟨marks, wakes⟩

theorem awake_initial : Awake initial :=
  ⟨kept_initial, nofun, fun _ _ _ _ owns => nomatch owns⟩

theorem Awake.call (awake : Awake state)
    (outside : orderly state (.call thread)) :
    Awake (state.put thread (.load :: state.stack thread)) := by
  have kept := awake.kept.call thread
  by_cases owns : state.owner = some thread
  · obtain ⟨-, inner, frame, outer, elected⟩ := awake.kept.elected thread owns
    obtain ⟨marks, wakes⟩ := awake.wakes _ _ _ _ owns elected
    have still : Elected (state.put thread (.load :: state.stack thread)) thread
        (.load :: inner) frame outer :=
      { elected with
        split := by rw [put_stack_self, elected.split, List.cons_append]
        inner := inner_cons.mpr ⟨⟨rfl, nofun⟩, elected.inner⟩ }
    have set : frame.marks = true := by
      cases inner with
      | cons call rest => exact marks (List.cons_ne_nil _ _)
      | nil =>
          have top : frame ∈ (state.stack thread).head? := by
            rw [elected.split]
            rfl
          obtain ⟨notBefore, notBehind⟩ := outside frame top
          have held := elected.owns
          cases frame <;> first | rfl | exact absurd rfl notBefore |
            exact absurd rfl notBehind | cases held
    refine awake.inside kept owns rfl rfl still (fun _ => set) ?_
    intro member
    exact wakes ((List.mem_cons.mp member).resolve_left nofun)
  · exact awake.other kept owns rfl rfl rfl rfl rfl
      fun one apart => put_stack_of_ne apart

theorem Awake.step_other (awake : Awake state) (apart : state.owner ≠ some thread)
    (split : state.stack thread = frame :: outer) :
    Awake (advance state thread outer frame) := by
  have kept := awake.kept.advance_quiet apart split
  obtain ⟨whole, flag⟩ := awake.kept.quiet thread apart
  rw [split] at whole
  obtain ⟨⟨free, -⟩, quiet⟩ := quiet_cons.mp whole
  have goes : ∀ calls, Kept (state.put thread calls) → Awake (state.put thread calls) :=
    fun calls kept => awake.other kept apart rfl rfl rfl rfl rfl
      fun one distinct => put_stack_of_ne distinct
  cases frame with
  | load => exact goes _ kept
  | testRunning => exact goes _ kept
  | spin => exact goes _ kept
  | ret value =>
      exact awake.other kept apart rfl rfl rfl rfl rfl
        fun one distinct => put_stack_of_ne distinct
  | exchange =>
      rw [advance] at kept ⊢
      split
      · rename_i once
        rw [if_pos once] at kept
        refine ⟨kept, nofun, ?_⟩
        intro one inner held around owns elected
        obtain rfl : thread = one := Option.some.inj owns
        obtain ⟨rfl, -, -⟩ := elected.unique (awake.kept.elected_elect once quiet flag)
        exact ⟨fun some => absurd rfl some, List.not_mem_nil⟩
      · rename_i once
        rw [if_neg once] at kept
        exact goes _ kept
  | setRunning => cases free
  | initialise => cases free
  | clearRunning => cases free
  | storeDone => cases free

/-! ## The elected thread goes on -/

/-- The steps that a call of the elected thread still takes. -/
def Frame.work : Frame → Nat
  | .load | .setRunning => 4
  | .exchange | .initialise => 3
  | .testRunning | .clearRunning => 2
  | .ret _ | .storeDone => 1
  | .spin => 0

/-- The steps until the elected call has stored that it is done. -/
def work (inner : List Frame) (frame : Frame) : Nat :=
  (inner.map Frame.work).sum + frame.work

/-- Inside of an elected call that has set its flag, a call is refused and returns. -/
theorem Awake.inner_goes {call : Frame} (awake : Awake state)
    (owns : state.owner = some thread)
    (elected : Elected state thread (call :: inner) frame outer) :
    ∃ calls, Elected (advance state thread (inner ++ frame :: outer) call) thread calls
        frame outer ∧ .spin ∉ calls ∧ work calls frame < work (call :: inner) frame ∧
      (advance state thread (inner ++ frame :: outer) call).once = state.once ∧
      (advance state thread (inner ++ frame :: outer) call).owner = state.owner := by
  obtain ⟨marks, wakes⟩ := awake.wakes _ _ _ _ owns elected
  have set := marks (List.cons_ne_nil _ _)
  have calm : .spin ∉ inner := fun member => wakes (List.mem_cons_of_mem _ member)
  have once := (awake.kept.elected thread owns).1
  obtain ⟨⟨free, -⟩, inside⟩ := inner_cons.mp elected.inner
  have goes : ∀ next : Frame, next.owns = false → next ≠ .spin →
      Elected (state.put thread (next :: (inner ++ frame :: outer))) thread
          (next :: inner) frame outer ∧ .spin ∉ next :: inner := by
    intro next free other
    refine ⟨{ elected with
      split := put_stack_self
      inner := inner_cons.mpr ⟨⟨free, fun _ => set⟩, inside⟩ }, fun member => ?_⟩
    exact calm ((List.mem_cons.mp member).resolve_left fun same => other same.symm)
  cases call with
  | load =>
      rw [advance, if_neg (by rw [once]; nofun)]
      obtain ⟨still, awakes⟩ := goes .exchange rfl nofun
      exact ⟨_, still, awakes, by simp [work, Frame.work], rfl, rfl⟩
  | exchange =>
      rw [advance, if_neg (by rw [once]; nofun)]
      obtain ⟨still, awakes⟩ := goes .testRunning rfl nofun
      exact ⟨_, still, awakes, by simp [work, Frame.work], rfl, rfl⟩
  | testRunning =>
      rw [advance, if_pos (elected.flag.trans set)]
      obtain ⟨still, awakes⟩ := goes (.ret false) rfl nofun
      exact ⟨_, still, awakes, by simp [work, Frame.work], rfl, rfl⟩
  | spin => exact absurd List.mem_cons_self wakes
  | ret value =>
      exact ⟨inner, { elected with split := put_stack_self, inner := inside }, calm,
        by simp [work, Frame.work], rfl, rfl⟩
  | setRunning => cases free
  | initialise => cases free
  | clearRunning => cases free
  | storeDone => cases free

/-- What is inside of an elected call that has no call inside of it. -/
theorem Kept.innermost {after : Frame} (kept : Kept next)
    (owns : next.owner = some thread) (split : next.stack thread = after :: outer)
    (still : after.owns = true) : Elected next thread [] after outer := by
  obtain ⟨-, inner, held, around, elected⟩ := kept.elected thread owns
  cases inner with
  | nil =>
      obtain ⟨rfl, rfl⟩ := List.cons.inj (split.symm.trans elected.split)
      exact elected
  | cons call rest =>
      obtain ⟨rfl, -⟩ := List.cons.inj (split.symm.trans elected.split)
      have free := (elected.inner after List.mem_cons_self).1
      rw [still] at free
      cases free

/-- The elected call goes on when there is no call inside of it. -/
theorem Awake.elected_goes (awake : Awake state) (owns : state.owner = some thread)
    (elected : Elected state thread [] frame outer) :
    (advance state thread outer frame).once = .done ∧
        (advance state thread outer frame).owner = none ∨
      ∃ after, Elected (advance state thread outer frame) thread [] after outer ∧
        after.work < frame.work ∧
        (advance state thread outer frame).owner = some thread := by
  have kept := awake.kept.advance_elected owns elected
  have held := elected.owns
  cases frame with
  | setRunning =>
      exact Or.inr ⟨.initialise, kept.innermost owns put_stack_self rfl, by decide, owns⟩
  | initialise =>
      exact Or.inr ⟨.clearRunning, kept.innermost owns put_stack_self rfl, by decide, owns⟩
  | clearRunning =>
      exact Or.inr ⟨.storeDone, kept.innermost owns put_stack_self rfl, by decide, owns⟩
  | storeDone => exact Or.inl ⟨rfl, rfl⟩
  | load => cases held
  | exchange => cases held
  | testRunning => cases held
  | spin => cases held
  | ret value => cases held

/-- A step of the elected thread: the state is done, or there is less left to do. -/
theorem Awake.step_owner (awake : Awake state) (owns : state.owner = some thread)
    (elected : Elected state thread inner frame outer) :
    ∃ next, RunOnce.step state (.step thread) = some next ∧ Awake next ∧
      (next.once = .done ∨ ∃ calls after, next.owner = some thread ∧
        Elected next thread calls after outer ∧ work calls after < work inner frame) := by
  have once := (awake.kept.elected thread owns).1
  cases inner with
  | nil =>
      have stepped : RunOnce.step state (.step thread) =
          some (advance state thread outer frame) := by
        rw [RunOnce.step, elected.split, List.nil_append]
      have kept := awake.kept.advance_elected owns elected
      rcases awake.elected_goes owns elected with ⟨done, free⟩ | ⟨after, still, less, held⟩
      · refine ⟨_, stepped, ⟨kept, fun running => ?_, fun one _ _ _ same => ?_⟩,
          Or.inl done⟩
        · rw [done] at running
          cases running
        · rw [free] at same
          cases same
      · refine ⟨_, stepped, ⟨kept, fun _ none => ?_, fun one _ _ _ same again => ?_⟩,
          Or.inr ⟨[], after, held, still, by simpa [work] using less⟩⟩
        · rw [held] at none
          cases none
        · obtain rfl := Option.some.inj (held.symm.trans same)
          obtain ⟨rfl, -, -⟩ := still.unique again
          exact ⟨fun some => absurd rfl some, List.not_mem_nil⟩
  | cons call inner =>
      have stepped : RunOnce.step state (.step thread) =
          some (advance state thread (inner ++ frame :: outer) call) := by
        rw [RunOnce.step, elected.split, List.cons_append]
      have kept := awake.kept.advance_inner owns elected
      have set := (awake.wakes _ _ _ _ owns elected).1 (List.cons_ne_nil _ _)
      obtain ⟨calls, still, calm, less, same, held⟩ := awake.inner_goes owns elected
      exact ⟨_, stepped, awake.inside kept owns same held still (fun _ => set) calm,
        Or.inr ⟨calls, frame, held.trans owns, still, less⟩⟩

theorem Awake.step (awake : Awake state)
    (stepped : step state (.step thread) = some next) : Awake next := by
  rw [RunOnce.step] at stepped
  split at stepped
  · cases stepped
  · rename_i frame outer split
    cases stepped
    by_cases owns : state.owner = some thread
    · obtain ⟨-, inner, held, around, elected⟩ := awake.kept.elected thread owns
      obtain ⟨after, again, awakes, -⟩ := awake.step_owner owns elected
      rw [RunOnce.step, split] at again
      cases again
      exact awakes
    · exact awake.step_other owns split

/-- A fork of the elected thread takes its calls along. -/
theorem Awake.fork (awake : Awake state)
    (elected : state.once = .running → state.owner = some thread) :
    Awake (forked state thread) := by
  have kept := awake.kept.fork thread
  refine ⟨kept, fun once none => ?_, fun one inner frame outer owns again => ?_⟩
  · have owns := elected once
    simp [forked, owns] at none
  · simp only [forked] at owns
    split at owns
    · rename_i held
      obtain rfl := Option.some.inj owns
      refine awake.wakes _ _ _ _ held { again with split := ?_, flag := ?_ }
      · rw [← (forked_self state thread).1]
        exact again.split
      · rw [← (forked_self state thread).2]
        exact again.flag
    · cases owns

theorem awake_step {label : Label} (awake : Awake state) (order : orderly state label)
    (stepped : step state label = some next) : Awake next := by
  cases label with
  | call thread =>
      cases stepped
      exact awake.call order
  | step thread => exact awake.step stepped
  | fork thread =>
      cases stepped
      exact awake.fork order

/-! ## What every waiting call waits for -/

theorem finishes (size : Nat) {state : State} {inner : List Frame} {frame : Frame}
    (bound : work inner frame ≤ size) (awake : Awake state)
    (owns : state.owner = some thread)
    (elected : Elected state thread inner frame outer) :
    ∃ steps, ∃ final, steps ≤ size ∧
      run RunOnce.step state (List.replicate steps (.step thread)) = some final ∧
        final.once = .done := by
  induction size generalizing state inner frame with
  | zero =>
      have held := elected.owns
      have positive : 0 < frame.work := by
        cases frame <;> first | decide | cases held
      rw [work] at bound
      omega
  | succ size induction =>
      obtain ⟨next, stepped, awakes, done | ⟨calls, after, held, still, less⟩⟩ :=
        awake.step_owner owns elected
      · exact ⟨1, next, by omega, run_cons_eq_some.mpr ⟨next, stepped, rfl⟩, done⟩
      · obtain ⟨steps, final, few, ran, done⟩ :=
          induction (by omega) awakes held still
        exact ⟨steps + 1, final, by omega,
          run_cons_eq_some.mpr ⟨next, stepped, ran⟩, done⟩

/-- A call that has not been refused. -/
def Frame.waits : Frame → Bool
  | .load | .exchange | .testRunning | .spin => true
  | _ => false

theorem Frame.waits_free (waits : frame.waits = true) :
    frame.owns = false ∧ ∀ value, frame ≠ .ret value := by
  cases frame with
  | load => exact ⟨rfl, nofun⟩
  | exchange => exact ⟨rfl, nofun⟩
  | testRunning => exact ⟨rfl, nofun⟩
  | spin => exact ⟨rfl, nofun⟩
  | _ => cases waits

/-- Nobody will store that the initialiser is done. -/
structure Blocked (state : State) : Prop where
  kept : Kept state
  once : state.once = .running
  owned : ∀ thread, state.owner = some thread →
    ∃ call inner frame outer,
      Elected state thread (call :: inner) frame outer ∧ frame.marks = false

theorem Blocked.notDone (blocked : Blocked state) (thread : Nat) :
    .ret true ∉ state.stack thread := by
  intro member
  have done := blocked.kept.succeeds thread member
  rw [blocked.once] at done
  cases done

/-- The innermost call of a thread of a blocked process waits. -/
theorem Blocked.waits (blocked : Blocked state)
    (split : state.stack thread = frame :: outer) : frame.waits = true := by
  have notDone := blocked.notDone thread
  rw [split] at notDone
  have accepted : frame.owns = false ∧ frame ≠ .ret false := by
    by_cases owns : state.owner = some thread
    · obtain ⟨call, inner, held, around, elected, marks⟩ := blocked.owned thread owns
      obtain ⟨rfl, -⟩ := List.cons.inj (split.symm.trans elected.split)
      obtain ⟨free, refused⟩ := (inner_cons.mp elected.inner).1
      refine ⟨free, fun same => ?_⟩
      have set := refused same
      rw [marks] at set
      cases set
    · have quiet := (blocked.kept.quiet thread owns).1
      rw [split] at quiet
      exact (quiet_cons.mp quiet).1
  obtain ⟨free, refused⟩ := accepted
  cases frame with
  | load => rfl
  | exchange => rfl
  | testRunning => rfl
  | spin => rfl
  | ret value =>
      cases value with
      | true => exact absurd List.mem_cons_self notDone
      | false => exact absurd rfl refused
  | setRunning => cases free
  | initialise => cases free
  | clearRunning => cases free
  | storeDone => cases free

/-- A waiting call of a blocked process goes on waiting. -/
theorem Blocked.advance (blocked : Blocked state)
    (split : state.stack thread = frame :: outer) :
    ∃ after : Frame, after.waits = true ∧
      RunOnce.advance state thread outer frame = state.put thread (after :: outer) := by
  have waits := blocked.waits split
  have once := blocked.once
  have flag : state.running thread = false := by
    by_cases owns : state.owner = some thread
    · obtain ⟨call, inner, held, around, elected, marks⟩ := blocked.owned thread owns
      exact elected.flag.trans marks
    · exact (blocked.kept.quiet thread owns).2
  cases frame with
  | load => exact ⟨.exchange, rfl, by rw [RunOnce.advance, if_neg (by rw [once]; nofun)]⟩
  | exchange =>
      exact ⟨.testRunning, rfl, by rw [RunOnce.advance, if_neg (by rw [once]; nofun)]⟩
  | testRunning =>
      exact ⟨.spin, rfl, by rw [RunOnce.advance, flag, if_neg Bool.false_ne_true]⟩
  | spin => exact ⟨.spin, rfl, by rw [RunOnce.advance, if_neg (by rw [once]; nofun)]⟩
  | ret value => cases waits
  | setRunning => cases waits
  | initialise => cases waits
  | clearRunning => cases waits
  | storeDone => cases waits

theorem Blocked.put_quiet (blocked : Blocked state) (other : state.owner ≠ some thread)
    (waits : frame.waits = true) (within : calls ⊆ state.stack thread) :
    Blocked (state.put thread (frame :: calls)) := by
  obtain ⟨free, distinct⟩ := Frame.waits_free waits
  have quiet : Quiet calls := fun call member =>
    (blocked.kept.quiet thread other).1 call (within member)
  have kept : Kept (state.put thread (frame :: calls)) := by
    refine blocked.kept.put_quiet other (quiet_cons.mpr ⟨⟨free, distinct false⟩, quiet⟩) ?_
    intro member
    have later := (List.mem_cons.mp member).resolve_left (distinct true).symm
    exact absurd (within later) (blocked.notDone thread)
  refine ⟨kept, blocked.once, fun owner owns => ?_⟩
  obtain ⟨call, inner, held, around, elected, marks⟩ := blocked.owned owner owns
  have apart : owner ≠ thread := fun same => other (same ▸ owns)
  exact ⟨call, inner, held, around, elected.put apart, marks⟩

theorem Blocked.put_inner {call : Frame} (blocked : Blocked state)
    (owns : state.owner = some thread) (elected : Elected state thread inner frame outer)
    (marks : frame.marks = false) (waits : call.waits = true) (within : calls ⊆ inner) :
    Blocked (state.put thread (call :: (calls ++ frame :: outer))) := by
  obtain ⟨free, distinct⟩ := Frame.waits_free waits
  have inside : Inner frame (call :: calls) :=
    inner_cons.mpr ⟨⟨free, fun same => absurd same (distinct false)⟩,
      fun one member => elected.inner one (within member)⟩
  have kept : Kept (state.put thread (call :: (calls ++ frame :: outer))) := by
    refine blocked.kept.put_inner owns elected inside ?_
    intro member
    have later := (List.mem_cons.mp member).resolve_left (distinct true).symm
    refine absurd ?_ (blocked.notDone thread)
    rw [elected.split]
    exact List.mem_append_left _ (within later)
  refine ⟨kept, blocked.once, fun owner same => ?_⟩
  obtain rfl := Option.some.inj (owns.symm.trans same)
  exact ⟨call, calls, frame, outer,
    { elected with split := put_stack_self, inner := inside }, marks⟩

theorem Blocked.call (blocked : Blocked state) (thread : Nat) :
    Blocked (state.put thread (.load :: state.stack thread)) := by
  by_cases owns : state.owner = some thread
  · obtain ⟨call, inner, held, around, elected, marks⟩ := blocked.owned thread owns
    rw [elected.split]
    exact blocked.put_inner owns elected marks rfl (List.Subset.refl _)
  · exact blocked.put_quiet owns rfl (List.Subset.refl _)

theorem Blocked.step (blocked : Blocked state)
    (split : state.stack thread = frame :: outer) :
    Blocked (RunOnce.advance state thread outer frame) := by
  obtain ⟨after, waits, same⟩ := blocked.advance split
  rw [same]
  by_cases owns : state.owner = some thread
  · obtain ⟨call, inner, held, around, elected, marks⟩ := blocked.owned thread owns
    obtain ⟨rfl, rfl⟩ := List.cons.inj (split.symm.trans elected.split)
    exact blocked.put_inner owns elected marks waits (List.subset_cons_self _ _)
  · refine blocked.put_quiet owns waits ?_
    rw [split]
    exact List.subset_cons_self _ _

theorem Blocked.fork (blocked : Blocked state) (thread : Nat) :
    Blocked (forked state thread) := by
  refine ⟨blocked.kept.fork thread, blocked.once, fun owner owns => ?_⟩
  simp only [forked] at owns
  split at owns
  · rename_i held
    obtain rfl := Option.some.inj owns
    obtain ⟨call, inner, frame, outer, elected, marks⟩ := blocked.owned thread held
    obtain ⟨stack, flag⟩ := forked_self state thread
    exact ⟨call, inner, frame, outer,
      { elected with split := stack.trans elected.split, flag := flag.trans elected.flag },
      marks⟩
  · cases owns

theorem blocked_step {label : Label} (blocked : Blocked state)
    (stepped : step state label = some next) : Blocked next := by
  cases label with
  | call thread =>
      cases stepped
      exact blocked.call thread
  | fork thread =>
      cases stepped
      exact blocked.fork thread
  | step thread =>
      rw [RunOnce.step] at stepped
      split at stepped
      · cases stepped
      · rename_i frame outer split
        cases stepped
        exact blocked.step split

/-- What leaves the initialiser running for ever. -/
theorem Awake.blocked {label : Label} (awake : Awake state) (breaks : ¬ orderly state label)
    (stepped : RunOnce.step state label = some next) : Blocked next := by
  cases label with
  | step thread => exact absurd trivial breaks
  | fork thread =>
      obtain ⟨once, other⟩ := Classical.not_imp.mp breaks
      cases stepped
      refine ⟨awake.kept.fork thread, once, fun owner owns => ?_⟩
      simp [forked, other] at owns
  | call thread =>
      simp only [orderly, not_forall] at breaks
      obtain ⟨frame, top, between⟩ := breaks
      obtain ⟨outer, split⟩ : ∃ outer, state.stack thread = frame :: outer := by
        cases calls : state.stack thread with
        | nil =>
            rw [calls] at top
            cases top
        | cons head rest =>
            rw [calls] at top
            cases top
            exact ⟨rest, rfl⟩
      have held : frame.owns = true ∧ frame.marks = false := by
        by_cases before : frame = .setRunning
        · rw [before]
          exact ⟨rfl, rfl⟩
        · by_cases behind : frame = .storeDone
          · rw [behind]
            exact ⟨rfl, rfl⟩
          · exact absurd ⟨before, behind⟩ between
      obtain ⟨still, marks⟩ := held
      have owns : state.owner = some thread := by
        by_contra other
        have quiet := (awake.kept.quiet thread other).1
        rw [split] at quiet
        have free := (quiet_cons.mp quiet).1.1
        rw [still] at free
        cases free
      have elected := awake.kept.innermost owns split still
      cases stepped
      refine ⟨awake.kept.call thread, (awake.kept.elected thread owns).1, ?_⟩
      intro owner same
      obtain rfl := Option.some.inj (owns.symm.trans same)
      refine ⟨.load, [], frame, outer, ?_, marks⟩
      exact
        { elected with
          split := by rw [put_stack_self, split]; rfl
          inner := inner_cons.mpr ⟨⟨rfl, nofun⟩, elected.inner⟩ }

/-- A running initialiser can still be brought to its end. -/
def Completes (state : State) : Prop :=
  state.once = .running →
    ∃ later final, run step state later = some final ∧ final.once = .done

theorem Awake.completes (awake : Awake state) : Completes state := by
  intro once
  obtain ⟨thread, owns⟩ := Option.ne_none_iff_exists'.mp (awake.owned once)
  obtain ⟨-, inner, frame, outer, elected⟩ := awake.kept.elected thread owns
  obtain ⟨steps, final, -, ran, done⟩ := finishes _ le_rfl awake owns elected
  exact ⟨_, final, ran, done⟩

theorem Blocked.never (blocked : Blocked state) : ¬ Completes state := by
  intro completes
  obtain ⟨later, final, ran, done⟩ := completes blocked.once
  have still : Blocked final :=
    @invariant_of_run _ _ RunOnce.step (fun _ => True) Blocked
      (fun _ _ _ _ held stepped => blocked_step held stepped) _ _ _
      (fun _ _ => trivial) blocked ran
  rw [still.once] at done
  cases done

/--
The initialiser can be brought to its end at every moment of a run exactly when no handler
calls it on the elected thread outside of its flag, and no other thread forks while it
runs.
-/
theorem completes_iff_orderly (labels : List Label) :
    Throughout step Completes initial labels ↔ Meets step orderly initial labels :=
  @throughout_iff_meets _ _ step (fun _ => True) orderly Awake Completes
    (fun _ _ _ _ awake order stepped => awake_step awake order stepped)
    (fun _ awake => awake.completes)
    (fun _ _ _ _ awake breaks stepped => (awake.blocked breaks stepped).never)
    _ _ (fun _ _ => trivial) awake_initial

end ChaosLibs.Common.RunOnce
