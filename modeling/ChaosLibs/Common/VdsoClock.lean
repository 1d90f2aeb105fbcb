import ChaosLibs.Machine.LabelledRun
import Mathlib.Logic.Function.Basic

/-!
# The lookup of the vDSO clock

`chaos_clock_vdso` of `chaos_clock.h`.  The first call looks the clock up, and a call that
meets the lookup goes on without it.  A child of a fork can find the lookup claimed by a
thread that it does not have; it knows that from the pid of the owner.

A thread has a stack of calls: a signal handler may call wherever the thread is.  One step
is one access to the static variables; steps of all threads come in any order.  A fork
leaves the thread that forked, under another pid.
-/

namespace ChaosLibs.Common.VdsoClock

open ChaosLibs.Machine

/-- `g_chaos_clock_state`: 0, 1 and 2. -/
inductive Lookup where
  | notStarted
  | running
  | done
deriving DecidableEq, Repr

/-- `g_chaos_clock_state`, `g_chaos_clock_owner` and `g_chaos_clock_vdso`. -/
structure Shared where
  lookup : Lookup
  owner : Nat
  clock : Option Nat
deriving DecidableEq, Repr

/-- Where a call of `chaos_clock_vdso` is. -/
inductive Frame where
  | testDone
  | testRunning
  | testOwner
  | reset
  | claim
  | storeOwner
  | findVdso
  | storeDone
  | load
deriving DecidableEq, Repr

/-- Whether the call goes on. -/
inductive Next where
  | goes (frame : Frame)
  | returns (clock : Option Nat)
deriving DecidableEq, Repr

/-- A call; `late` is history: the lookup was done when the call began. -/
structure Call where
  frame : Frame
  late : Bool
deriving DecidableEq, Repr

/-- A call that returned. -/
structure Return where
  clock : Option Nat
  late : Bool
deriving DecidableEq, Repr

/-- One process. -/
structure State where
  shared : Shared
  /-- `getpid()`. -/
  pid : Nat
  /-- The calls of each thread, the innermost first. -/
  stack : Nat → List Call
  returns : List Return

section Lookup

-- The address that `chaos_clock_vdso_lookup` finds; a child has the vDSO of its parent.
variable (vdso : Option Nat)

/-- One access of a call in the process `pid`. -/
def access (pid : Nat) (shared : Shared) : Frame → Shared × Next
  | .testDone =>
      (shared, .goes (if shared.lookup = .done then .load else .testRunning))
  | .testRunning =>
      (shared, .goes (if shared.lookup = .running then .testOwner else .claim))
  | .testOwner => (shared, .goes (if shared.owner ≠ pid then .reset else .claim))
  | .reset =>
      (if shared.lookup = .running then { shared with lookup := .notStarted } else shared,
        .goes .claim)
  | .claim =>
      if shared.lookup = .notStarted then
        ({ shared with lookup := .running }, .goes .storeOwner)
      else (shared, .returns none)
  | .storeOwner => ({ shared with owner := pid }, .goes .findVdso)
  | .findVdso => ({ shared with clock := vdso }, .goes .storeDone)
  | .storeDone => ({ shared with lookup := .done }, .goes .load)
  | .load => (shared, .returns shared.clock)

/-- The calls of a thread behind an access of its innermost call. -/
def Next.calls (call : Call) (outer : List Call) : Next → List Call
  | .goes frame => ⟨frame, call.late⟩ :: outer
  | .returns _ => outer

/-- What has been returned behind an access. -/
def Next.past (call : Call) (returns : List Return) : Next → List Return
  | .goes _ => returns
  | .returns clock => ⟨clock, call.late⟩ :: returns

/-- One access of the innermost call of a thread, `outer` are the calls around it. -/
def advance (state : State) (thread : Nat) (call : Call) (outer : List Call) : State :=
  let moved := access vdso state.pid state.shared call.frame
  { shared := moved.1
    pid := state.pid
    stack := Function.update state.stack thread (moved.2.calls call outer)
    returns := moved.2.past call state.returns }

/-- A thread calls. -/
def begin (state : State) (thread : Nat) : State :=
  { state with
    stack := Function.update state.stack thread
      (⟨.testDone, state.shared.lookup = .done⟩ :: state.stack thread) }

/-- The child of a fork of `thread`. -/
def forked (state : State) (thread pid : Nat) : State :=
  { state with
    pid := pid
    stack := Function.update (fun _ => []) thread (state.stack thread) }

/-- What the threads do. -/
inductive Label where
  | call (thread : Nat)
  | step (thread : Nat)
  | fork (thread pid : Nat)
deriving DecidableEq, Repr

/-- One step of one thread; after a fork the run is the child's. -/
def step (state : State) : Label → Option State
  | .call thread => some (begin state thread)
  | .step thread =>
      match state.stack thread with
      | [] => none
      | call :: outer => some (advance vdso state thread call outer)
  | .fork thread pid => some (forked state thread pid)

end Lookup

/-- The variables as the library is loaded, in the process `pid`. -/
def initial (pid : Nat) : State where
  shared := ⟨.notStarted, 0, none⟩
  pid := pid
  stack := fun _ => []
  returns := []

variable {vdso : Option Nat} {state next final : State} {shared after : Shared}
  {thread pid : Nat} {call : Call} {outer : List Call} {label : Label} {labels : List Label}

theorem step_eq_some (stepped : step vdso state (.step thread) = some next) :
    ∃ call outer, state.stack thread = call :: outer ∧
      next = advance vdso state thread call outer := by
  rw [step] at stepped
  split at stepped
  · cases stepped
  · rename_i call outer split
    cases stepped
    exact ⟨call, outer, split, rfl⟩

theorem step_of_stack (split : state.stack thread = call :: outer) :
    step vdso state (.step thread) = some (advance vdso state thread call outer) := by
  rw [step, split]

theorem advance_self : (advance vdso state thread call outer).stack thread =
    (access vdso state.pid state.shared call.frame).2.calls call outer :=
  Function.update_self _ _ _

theorem advance_of_ne {other : Nat} (apart : other ≠ thread) :
    (advance vdso state thread call outer).stack other = state.stack other :=
  Function.update_of_ne apart _ _

theorem begin_self : (begin state thread).stack thread =
    ⟨.testDone, state.shared.lookup = .done⟩ :: state.stack thread :=
  Function.update_self _ _ _

theorem begin_of_ne {other : Nat} (apart : other ≠ thread) :
    (begin state thread).stack other = state.stack other :=
  Function.update_of_ne apart _ _

theorem forked_self : (forked state thread pid).stack thread = state.stack thread := by
  simp only [forked, Function.update_self]

theorem forked_of_ne {other : Nat} (apart : other ≠ thread) :
    (forked state thread pid).stack other = [] := by
  simp only [forked, Function.update_of_ne apart]

/-! ## What a call returns -/

/-- What a call rests on. -/
structure Fits (vdso : Option Nat) (shared : Shared) (call : Call) : Prop where
  found : call.frame = .storeDone → shared.clock = vdso
  done : call.frame = .load → shared.lookup = .done
  late : call.late = true →
    shared.lookup = .done ∧ (call.frame = .testDone ∨ call.frame = .load)

/-- What may be returned. -/
def Return.Fits (vdso : Option Nat) (past : Return) : Prop :=
  (past.clock = none ∨ past.clock = vdso) ∧ (past.late = true → past.clock = vdso)

/-- What holds between any two steps. -/
structure Sound (vdso : Option Nat) (state : State) : Prop where
  done : state.shared.lookup = .done → state.shared.clock = vdso
  calls : ∀ thread, ∀ call ∈ state.stack thread, Fits vdso state.shared call
  returns : ∀ past ∈ state.returns, past.Fits vdso

/-- What is found stays found, and what is done stays done. -/
structure Grows (vdso : Option Nat) (shared after : Shared) : Prop where
  found : shared.clock = vdso → after.clock = vdso
  done : shared.lookup = .done → after.lookup = .done

theorem Fits.grows (fits : Fits vdso shared call) (grows : Grows vdso shared after) :
    Fits vdso after call where
  found := fun here => grows.found (fits.found here)
  done := fun here => grows.done (fits.done here)
  late := fun late => ⟨grows.done (fits.late late).1, (fits.late late).2⟩

theorem grows_access (frame : Frame) : Grows vdso shared (access vdso pid shared frame).1 := by
  cases frame with
  | testDone => exact ⟨id, id⟩
  | testRunning => exact ⟨id, id⟩
  | testOwner => exact ⟨id, id⟩
  | storeOwner => exact ⟨id, id⟩
  | load => exact ⟨id, id⟩
  | findVdso => exact ⟨fun _ => rfl, id⟩
  | storeDone => exact ⟨id, fun _ => rfl⟩
  | reset =>
      rw [access]
      split
      · rename_i running
        exact ⟨id, fun done => nomatch running.symm.trans done⟩
      · exact ⟨id, id⟩
  | claim =>
      rw [access]
      split
      · rename_i none
        exact ⟨id, fun done => nomatch none.symm.trans done⟩
      · exact ⟨id, id⟩

/-- A call that began with the lookup done loads what was found. -/
theorem Fits.early (fits : Fits vdso shared call) (first : call.frame ≠ .testDone)
    (last : call.frame ≠ .load) : call.late = false := by
  refine Bool.eq_false_of_not_eq_true fun late => ?_
  rcases (fits.late late).2 with same | same
  · exact first same
  · exact last same

theorem Fits.goes {frame : Frame} (fits : Fits vdso shared call)
    (moved : (access vdso pid shared call.frame).2 = .goes frame) :
    Fits vdso (access vdso pid shared call.frame).1 ⟨frame, call.late⟩ := by
  have early := fits.early
  obtain ⟨here, late⟩ := call
  -- only a call behind `testDone` or `load` may be late
  have ends : ∀ {shared : Shared} {frame : Frame}, late = false →
      (frame = .storeDone → shared.clock = vdso) →
      (frame = .load → shared.lookup = .done) → Fits vdso shared ⟨frame, late⟩ :=
    fun first found done => ⟨found, done, fun late => nomatch first.symm.trans late⟩
  cases here with
  | testDone =>
      cases moved
      by_cases done : shared.lookup = .done
      · simp only [done, if_true, access]
        exact ⟨nofun, fun _ => done, fun _ => ⟨done, Or.inr rfl⟩⟩
      · simp only [done, if_false, access]
        refine ends (Bool.eq_false_of_not_eq_true fun late => ?_) nofun nofun
        exact done (fits.late late).1
  | testRunning =>
      cases moved
      refine ends (early nofun nofun) ?_ ?_ <;> split <;> nofun
  | testOwner =>
      cases moved
      refine ends (early nofun nofun) ?_ ?_ <;> split <;> nofun
  | reset =>
      cases moved
      exact ends (early nofun nofun) nofun nofun
  | claim =>
      simp only [access] at moved ⊢
      split at moved
      · cases moved
        exact ends (early nofun nofun) nofun nofun
      · cases moved
  | storeOwner =>
      cases moved
      exact ends (early nofun nofun) nofun nofun
  | findVdso =>
      cases moved
      exact ends (early nofun nofun) (fun _ => rfl) nofun
  | storeDone =>
      cases moved
      exact ends (early nofun nofun) nofun fun _ => rfl
  | load => cases moved

theorem Fits.returns {clock : Option Nat} (fits : Fits vdso shared call)
    (known : shared.lookup = .done → shared.clock = vdso)
    (moved : (access vdso pid shared call.frame).2 = .returns clock) :
    Return.Fits vdso ⟨clock, call.late⟩ := by
  have early := fits.early
  obtain ⟨here, late⟩ := call
  cases here with
  | load =>
      cases moved
      have same := known (fits.done rfl)
      exact ⟨Or.inr same, fun _ => same⟩
  | claim =>
      simp only [access] at moved
      split at moved
      · cases moved
      · cases moved
        exact ⟨Or.inl rfl, fun late => nomatch (early nofun nofun).symm.trans late⟩
  | testDone => cases moved
  | testRunning => cases moved
  | testOwner => cases moved
  | reset => cases moved
  | storeOwner => cases moved
  | findVdso => cases moved
  | storeDone => cases moved

theorem found_access (fits : Fits vdso shared call)
    (known : shared.lookup = .done → shared.clock = vdso) :
    (access vdso pid shared call.frame).1.lookup = .done →
      (access vdso pid shared call.frame).1.clock = vdso := by
  intro done
  by_cases before : shared.lookup = .done
  · exact (grows_access call.frame).found (known before)
  · obtain ⟨here, late⟩ := call
    cases here with
    | storeDone => exact fits.found rfl
    | findVdso => rfl
    | reset =>
        simp only [access] at done
        split at done
        · cases done
        · exact absurd done before
    | claim =>
        simp only [access] at done
        split at done
        · cases done
        · exact absurd done before
    | testDone => exact absurd done before
    | testRunning => exact absurd done before
    | testOwner => exact absurd done before
    | storeOwner => exact absurd done before
    | load => exact absurd done before

theorem Sound.advance (sound : Sound vdso state) (split : state.stack thread = call :: outer) :
    Sound vdso (advance vdso state thread call outer) := by
  have fits : ∀ one ∈ call :: outer, Fits vdso state.shared one :=
    fun one member => sound.calls thread one (split ▸ member)
  have own := fits call List.mem_cons_self
  have grows : Grows vdso state.shared (access vdso state.pid state.shared call.frame).1 :=
    grows_access call.frame
  have inside : ∀ one ∈ outer, Fits vdso (access vdso state.pid state.shared call.frame).1 one :=
    fun one member => (fits one (List.mem_cons_of_mem _ member)).grows grows
  refine ⟨found_access own sound.done, fun other one member => ?_, fun past member => ?_⟩
  · by_cases same : other = thread
    · subst same
      rw [advance_self] at member
      cases moved : (access vdso state.pid state.shared call.frame).2 with
      | goes frame =>
          rw [moved] at member
          rcases List.mem_cons.mp member with rfl | member
          · exact own.goes moved
          · exact inside one member
      | returns clock =>
          rw [moved] at member
          exact inside one member
    · rw [advance_of_ne same] at member
      exact (sound.calls other one member).grows grows
  · rw [VdsoClock.advance] at member
    cases moved : (access vdso state.pid state.shared call.frame).2 with
    | goes frame =>
        rw [moved] at member
        exact sound.returns past member
    | returns clock =>
        rw [moved] at member
        rcases List.mem_cons.mp member with rfl | member
        · exact own.returns sound.done moved
        · exact sound.returns past member

theorem Sound.begin (sound : Sound vdso state) (thread : Nat) :
    Sound vdso (begin state thread) := by
  refine ⟨sound.done, fun other one member => ?_, sound.returns⟩
  by_cases same : other = thread
  · subst same
    rw [begin_self] at member
    rcases List.mem_cons.mp member with rfl | member
    · exact ⟨nofun, nofun, fun late => ⟨of_decide_eq_true late, Or.inl rfl⟩⟩
    · exact sound.calls other one member
  · rw [begin_of_ne same] at member
    exact sound.calls other one member

theorem Sound.fork (sound : Sound vdso state) (thread pid : Nat) :
    Sound vdso (forked state thread pid) := by
  refine ⟨sound.done, fun other one member => ?_, sound.returns⟩
  by_cases same : other = thread
  · subst same
    rw [forked_self] at member
    exact sound.calls other one member
  · rw [forked_of_ne same] at member
    cases member

theorem sound_step (sound : Sound vdso state)
    (stepped : step vdso state label = some next) : Sound vdso next := by
  cases label with
  | call thread =>
      cases stepped
      exact sound.begin thread
  | fork thread pid =>
      cases stepped
      exact sound.fork thread pid
  | step thread =>
      obtain ⟨call, outer, split, rfl⟩ := step_eq_some stepped
      exact sound.advance split

theorem sound_initial (pid : Nat) : Sound vdso (initial pid) :=
  ⟨nofun, fun _ _ none => absurd none List.not_mem_nil,
    fun _ none => absurd none List.not_mem_nil⟩

theorem sound_run (sound : Sound vdso state) (ran : run (step vdso) state labels = some final) :
    Sound vdso final :=
  @invariant_of_run _ _ (step vdso) (fun _ => True) (Sound vdso)
    (fun _ _ _ _ held stepped => sound_step held stepped) _ _ _ (fun _ _ => trivial) sound ran

/--
Whatever threads and handlers meet in the lookup, and whichever forks take it along or take
it up again: a call returns the clock that the vDSO has, or none; and a call that begins
behind the lookup returns the clock.
-/
theorem clock_is_the_vdsos (ran : run (step vdso) (initial pid) labels = some final) :
    ∀ past ∈ final.returns,
      (past.clock = none ∨ past.clock = vdso) ∧ (past.late = true → past.clock = vdso) :=
  (sound_run (sound_initial pid) ran).returns

/-- A fork in the middle of the lookup; the child takes it up, and calls again. -/
def takenUp : List Label :=
  [.call 1, .step 1, .step 1, .step 1, .step 1, .fork 2 8] ++
    .call 2 :: List.replicate 9 (.step 2) ++ [.call 2, .step 2, .step 2]

/-- The end of that run. -/
def takenUpEnd : State :=
  (run (step (some 4096)) (initial 7) takenUp).getD (initial 7)

/-- Both calls of the child return the clock. -/
theorem clock_is_the_vdsos_takenUp :
    takenUpEnd.returns.length = 2 ∧ ∀ past ∈ takenUpEnd.returns,
      (past.clock = none ∨ past.clock = some 4096) ∧
        (past.late = true → past.clock = some 4096) :=
  ⟨rfl, @clock_is_the_vdsos (some 4096) takenUpEnd 7 takenUp rfl⟩

/-! ## That the lookup gets done -/

/-- Whether the call will store that the lookup is done, or give up a claim. -/
def Frame.leads : Frame → Bool
  | .reset | .storeOwner | .findVdso | .storeDone => true
  | _ => false

/-- The accesses that a call still makes. -/
def Frame.work : Frame → Nat
  | .testDone => 9
  | .testRunning => 8
  | .testOwner => 7
  | .reset => 6
  | .claim => 5
  | .storeOwner => 4
  | .findVdso => 3
  | .storeDone => 2
  | .load => 1

/-- The accesses that the calls of a thread still make. -/
def work (calls : List Call) : Nat :=
  (calls.map fun call => call.frame.work).sum

/-- The thread comes to the end of the lookup by itself. -/
def Leads (state : State) (thread : Nat) : Prop :=
  state.shared.lookup = .done ∨ (∃ call ∈ state.stack thread, call.frame.leads = true) ∨
    state.shared.lookup = .notStarted ∧
      ∃ call outer, state.stack thread = call :: outer ∧ call.frame = .claim

theorem work_access (shared : Shared) (call : Call) (outer : List Call) :
    work ((access vdso pid shared call.frame).2.calls call outer) < work (call :: outer) := by
  obtain ⟨frame, late⟩ := call
  cases frame with
  | testDone | testRunning | testOwner | claim =>
      simp only [access]
      split_ifs <;> simp [Next.calls, work, Frame.work]
  | reset | storeOwner | findVdso | storeDone | load =>
      simp [access, Next.calls, work, Frame.work]

/-- Calls around the innermost one still lead on when it has made its access. -/
theorem leads_outer (here : ∃ call ∈ outer, call.frame.leads = true) :
    Leads (advance vdso state thread call outer) thread := by
  obtain ⟨one, member, leads⟩ := here
  refine Or.inr (Or.inl ⟨one, ?_, leads⟩)
  rw [advance_self]
  cases (access vdso state.pid state.shared call.frame).2 with
  | goes frame => exact List.mem_cons_of_mem _ member
  | returns clock => exact member

theorem leads_step (vdso : Option Nat) (open_ : state.shared.lookup ≠ .done)
    (leads : Leads state thread) :
    ∃ next, step vdso state (.step thread) = some next ∧ Leads next thread ∧
      work (next.stack thread) < work (state.stack thread) := by
  obtain ⟨call, outer, split⟩ : ∃ call outer, state.stack thread = call :: outer := by
    rcases leads with done | ⟨call, member, -⟩ | ⟨-, call, outer, split, -⟩
    · exact absurd done open_
    · exact List.exists_cons_of_ne_nil (List.ne_nil_of_mem member)
    · exact ⟨call, outer, split⟩
  refine ⟨_, step_of_stack split, ?_, by rw [advance_self, split]; exact work_access _ _ _⟩
  by_cases inside : ∃ call ∈ outer, call.frame.leads = true
  · exact leads_outer inside
  · have head : call.frame.leads = true ∨
        state.shared.lookup = .notStarted ∧ call.frame = .claim := by
      rcases leads with done | ⟨one, member, held⟩ | ⟨none, one, rest, again, claim⟩
      · exact absurd done open_
      · rw [split] at member
        rcases List.mem_cons.mp member with rfl | member
        · exact Or.inl held
        · exact absurd ⟨one, member, held⟩ inside
      · obtain ⟨rfl, -⟩ := List.cons.inj (split.symm.trans again)
        exact Or.inr ⟨none, claim⟩
    have goes : ∀ {frame : Frame},
        (access vdso state.pid state.shared call.frame).2 = .goes frame →
        frame.leads = true → Leads (advance vdso state thread call outer) thread := by
      intro frame moved held
      refine Or.inr (Or.inl ⟨⟨frame, call.late⟩, ?_, held⟩)
      rw [advance_self, moved]
      exact List.mem_cons_self
    rcases head with held | ⟨none, claim⟩
    · cases frame : call.frame with
      | reset =>
          refine Or.inr (Or.inr ⟨?_, ⟨.claim, call.late⟩, outer, ?_, rfl⟩)
          · simp only [advance, frame, access]
            split
            · rfl
            · rename_i idle
              cases lookup : state.shared.lookup with
              | notStarted => rfl
              | running => exact absurd lookup idle
              | done => exact absurd lookup open_
          · rw [advance_self, frame]
            rfl
      | storeOwner => exact goes (by rw [frame]; rfl) (rfl : Frame.findVdso.leads = true)
      | findVdso => exact goes (by rw [frame]; rfl) (rfl : Frame.storeDone.leads = true)
      | storeDone =>
          refine Or.inl ?_
          simp only [advance, frame, access]
      | testDone => simp [frame, Frame.leads] at held
      | testRunning => simp [frame, Frame.leads] at held
      | testOwner => simp [frame, Frame.leads] at held
      | claim => simp [frame, Frame.leads] at held
      | load => simp [frame, Frame.leads] at held
    · have claimed : (access vdso state.pid state.shared call.frame).2 = .goes .storeOwner := by
        rw [claim, access, if_pos none]
      exact goes claimed rfl

/-- A continuation of one thread that gets the lookup done. -/
theorem leads_run (vdso : Option Nat) (size : Nat) {state : State}
    (bound : work (state.stack thread) ≤ size) (leads : Leads state thread) :
    ∃ steps final,
      run (step vdso) state (List.replicate steps (.step thread)) = some final ∧
        final.shared.lookup = .done := by
  induction size generalizing state with
  | zero =>
      by_cases done : state.shared.lookup = .done
      · exact ⟨0, state, rfl, done⟩
      · obtain ⟨next, -, -, less⟩ := leads_step vdso done leads
        omega
  | succ size induction =>
      by_cases done : state.shared.lookup = .done
      · exact ⟨0, state, rfl, done⟩
      · obtain ⟨next, stepped, still, less⟩ := leads_step vdso done leads
        obtain ⟨steps, final, ran, ends⟩ := induction (by omega) still
        exact ⟨steps + 1, final, run_cons_eq_some.mpr ⟨next, stepped, ran⟩, ends⟩

/-- The process can get the lookup done, without a fork. -/
def Recovers (vdso : Option Nat) (state : State) : Prop :=
  ∃ later final, (∀ label ∈ later, ∀ thread pid, label ≠ .fork thread pid) ∧
    run (step vdso) state later = some final ∧ final.shared.lookup = .done

/-- A lookup that is running has a thread that ends it, or shows that it has none. -/
def Claimed (state : State) : Prop :=
  state.shared.lookup = .running →
    (∃ thread, ∃ call ∈ state.stack thread, call.frame.leads = true) ∨
      state.shared.owner ≠ state.pid

/-- A child has the thread of the claim, or another pid than the claim. -/
def handsOn (state : State) : Label → Prop
  | .fork thread pid => state.shared.lookup = .running →
      (∃ call ∈ state.stack thread, call.frame.leads = true) ∨ state.shared.owner ≠ pid
  | _ => True

/-- A lookup that is running, and whose claim nobody ends or gives up. -/
structure Orphaned (state : State) : Prop where
  running : state.shared.lookup = .running
  owner : state.shared.owner = state.pid
  calls : ∀ thread, ∀ call ∈ state.stack thread, call.frame.leads = false

theorem Leads.recovers (thread : Nat) (leads : Leads state thread) : Recovers vdso state := by
  obtain ⟨steps, final, ran, done⟩ := leads_run vdso _ le_rfl leads
  refine ⟨_, final, fun label member => ?_, ran, done⟩
  rw [(List.mem_replicate.mp member).2]
  nofun

theorem Recovers.earlier (label : Label) (inside : ∀ thread pid, label ≠ .fork thread pid)
    (stepped : step vdso state label = some next) (recovers : Recovers vdso next) :
    Recovers vdso state := by
  obtain ⟨later, final, own, ran, done⟩ := recovers
  exact ⟨label :: later, final, List.forall_mem_cons.mpr ⟨inside, own⟩,
    run_cons_eq_some.mpr ⟨next, stepped, ran⟩, done⟩

/-- A call that tests goes on in front of the calls around it. -/
theorem Recovers.test (frame : Frame) (split : state.stack thread = call :: outer)
    (moved : access vdso state.pid state.shared call.frame = (state.shared, .goes frame))
    (recovers : ∀ next : State, next.shared = state.shared → next.pid = state.pid →
      next.stack thread = ⟨frame, call.late⟩ :: outer → Recovers vdso next) :
    Recovers vdso state := by
  refine Recovers.earlier (.step thread) nofun (step_of_stack split) (recovers _ ?_ rfl ?_)
  · simp only [advance, moved]
  · rw [advance_self, moved]
    rfl

/-- A new call gets a lookup done that nobody has claimed, or that is not of its process. -/
theorem Claimed.recovers (claimed : Claimed state) : Recovers vdso state := by
  by_cases done : state.shared.lookup = .done
  · exact ⟨[], state, nofun, rfl, done⟩
  by_cases led : ∃ thread, ∃ call ∈ state.stack thread, call.frame.leads = true
  · obtain ⟨thread, held⟩ := led
    exact Leads.recovers thread (Or.inr (Or.inl held))
  refine Recovers.earlier (.call 0) nofun rfl ?_
  refine Recovers.test .testRunning begin_self ?_ fun second shared process split => ?_
  · simp only [access, begin, done, if_false]
  have before : second.shared = state.shared := shared
  by_cases running : state.shared.lookup = .running
  · have foreign := (claimed running).resolve_left led
    refine Recovers.test .testOwner split ?_ fun third shared pid split => ?_
    · simp only [access, before, running, if_true]
    refine Recovers.test .reset split ?_ fun fourth shared pid split => ?_
    · have owner : third.shared.owner ≠ third.pid := by
        rw [shared, before, pid, process]
        exact foreign
      simp only [access, owner, ne_eq, not_false_eq_true, if_true]
    have top : ∃ call ∈ fourth.stack 0, call.frame.leads = true :=
      ⟨⟨.reset, _⟩, by rw [split]; exact List.mem_cons_self, rfl⟩
    exact Leads.recovers 0 (Or.inr (Or.inl top))
  · refine Recovers.test .claim split ?_ fun third shared pid split => ?_
    · simp only [access, before, running, if_false]
    have idle : third.shared.lookup = .notStarted := by
      rw [shared, before]
      cases lookup : state.shared.lookup with
      | notStarted => rfl
      | running => exact absurd lookup running
      | done => exact absurd lookup done
    exact Leads.recovers 0 (Or.inr (Or.inr ⟨idle, _, _, split, rfl⟩))

/-- A call that leads does so still when another makes its access. -/
theorem leads_elsewhere (split : state.stack thread = call :: outer)
    (still : call.frame.leads = false)
    (led : ∃ other, ∃ one ∈ state.stack other, one.frame.leads = true) :
    ∃ other, ∃ one ∈ (advance vdso state thread call outer).stack other,
      one.frame.leads = true := by
  obtain ⟨other, one, member, leads⟩ := led
  refine ⟨other, one, ?_, leads⟩
  by_cases same : other = thread
  · subst same
    rw [split] at member
    rw [advance_self]
    have inside : one ∈ outer := by
      rcases List.mem_cons.mp member with rfl | inside
      · rw [still] at leads
        cases leads
      · exact inside
    cases (access vdso state.pid state.shared call.frame).2 with
    | goes frame => exact List.mem_cons_of_mem _ inside
    | returns clock => exact inside
  · rw [advance_of_ne same]
    exact member

theorem Claimed.advance (claimed : Claimed state) (split : state.stack thread = call :: outer) :
    Claimed (advance vdso state thread call outer) := by
  intro running
  have goes : ∀ {frame : Frame},
      (access vdso state.pid state.shared call.frame).2 = .goes frame →
      frame.leads = true → ∃ other,
        ∃ one ∈ (VdsoClock.advance vdso state thread call outer).stack other,
          one.frame.leads = true := by
    intro frame moved held
    refine ⟨thread, ⟨frame, call.late⟩, ?_, held⟩
    rw [advance_self, moved]
    exact List.mem_cons_self
  -- an access that leaves the variables as they are
  have stays : (access vdso state.pid state.shared call.frame).1 = state.shared →
      call.frame.leads = false →
      (∃ other, ∃ one ∈ (VdsoClock.advance vdso state thread call outer).stack other,
          one.frame.leads = true) ∨
        (VdsoClock.advance vdso state thread call outer).shared.owner ≠ state.pid := by
    intro same still
    have before : state.shared.lookup = .running := by
      rw [← same]
      exact running
    refine (claimed before).imp (leads_elsewhere split still) fun foreign => ?_
    rw [VdsoClock.advance, same]
    exact foreign
  have lookup : (access vdso state.pid state.shared call.frame).1.lookup = .running := running
  cases frame : call.frame with
  | testDone => exact stays (by rw [frame]; rfl) (by rw [frame]; rfl)
  | testRunning => exact stays (by rw [frame]; rfl) (by rw [frame]; rfl)
  | testOwner => exact stays (by rw [frame]; rfl) (by rw [frame]; rfl)
  | load => exact stays (by rw [frame]; rfl) (by rw [frame]; rfl)
  | reset =>
      rw [frame, access] at lookup
      split at lookup
      · cases lookup
      · rename_i idle
        exact absurd lookup idle
  | claim =>
      by_cases idle : state.shared.lookup = .notStarted
      · exact Or.inl
          (goes (by rw [frame, access, if_pos idle]) (rfl : Frame.storeOwner.leads = true))
      · exact stays (by rw [frame, access, if_neg idle]) (by rw [frame]; rfl)
  | storeOwner =>
      exact Or.inl (goes (by rw [frame]; rfl) (rfl : Frame.findVdso.leads = true))
  | findVdso =>
      exact Or.inl (goes (by rw [frame]; rfl) (rfl : Frame.storeDone.leads = true))
  | storeDone =>
      rw [frame] at lookup
      cases lookup

theorem Claimed.begin (claimed : Claimed state) (thread : Nat) :
    Claimed (begin state thread) := by
  intro running
  refine (claimed running).imp_left fun ⟨other, one, member, leads⟩ => ⟨other, one, ?_, leads⟩
  by_cases same : other = thread
  · subst same
    rw [begin_self]
    exact List.mem_cons_of_mem _ member
  · rw [begin_of_ne same]
    exact member

theorem claimed_step (claimed : Claimed state) (hands : handsOn state label)
    (stepped : step vdso state label = some next) : Claimed next := by
  cases label with
  | call thread =>
      cases stepped
      exact claimed.begin thread
  | fork thread pid =>
      cases stepped
      intro running
      refine (hands running).imp_left fun ⟨one, member, leads⟩ => ⟨thread, one, ?_, leads⟩
      rw [forked_self]
      exact member
  | step thread =>
      obtain ⟨call, outer, split, rfl⟩ := step_eq_some stepped
      exact claimed.advance split

/-! ## An orphaned claim -/

theorem Orphaned.advance (orphaned : Orphaned state)
    (split : state.stack thread = call :: outer) :
    Orphaned (advance vdso state thread call outer) := by
  have still : call.frame.leads = false :=
    orphaned.calls thread call (by rw [split]; exact List.mem_cons_self)
  have moved : (access vdso state.pid state.shared call.frame).1 = state.shared ∧
      ∀ one ∈ (access vdso state.pid state.shared call.frame).2.calls call outer,
        one ∈ outer ∨ one.frame.leads = false := by
    have goes : ∀ {frame : Frame}, frame.leads = false →
        ∀ one ∈ (Next.goes frame).calls call outer, one ∈ outer ∨ one.frame.leads = false := by
      intro frame still one member
      rcases List.mem_cons.mp member with rfl | inside
      · exact Or.inr still
      · exact Or.inl inside
    cases frame : call.frame with
    | testDone =>
        refine ⟨rfl, goes ?_⟩
        rw [orphaned.running]
        rfl
    | testRunning =>
        refine ⟨rfl, goes ?_⟩
        rw [orphaned.running]
        rfl
    | testOwner =>
        refine ⟨rfl, goes ?_⟩
        rw [orphaned.owner, if_neg (not_not_intro rfl)]
        rfl
    | claim =>
        rw [access, if_neg (by rw [orphaned.running]; nofun)]
        exact ⟨rfl, fun one member => Or.inl member⟩
    | load => exact ⟨rfl, fun one member => Or.inl member⟩
    | reset => simp [frame, Frame.leads] at still
    | storeOwner => simp [frame, Frame.leads] at still
    | findVdso => simp [frame, Frame.leads] at still
    | storeDone => simp [frame, Frame.leads] at still
  obtain ⟨same, calls⟩ := moved
  refine ⟨?_, ?_, fun other one member => ?_⟩
  · rw [VdsoClock.advance, same]
    exact orphaned.running
  · rw [VdsoClock.advance, same]
    exact orphaned.owner
  · by_cases here : other = thread
    · subst here
      rw [advance_self] at member
      refine (calls one member).elim (fun inside => orphaned.calls other one ?_) id
      rw [split]
      exact List.mem_cons_of_mem _ inside
    · rw [advance_of_ne here] at member
      exact orphaned.calls other one member

theorem Orphaned.begin (orphaned : Orphaned state) (thread : Nat) :
    Orphaned (begin state thread) := by
  refine ⟨orphaned.running, orphaned.owner, fun other one member => ?_⟩
  by_cases same : other = thread
  · subst same
    rw [begin_self] at member
    rcases List.mem_cons.mp member with rfl | member
    · rfl
    · exact orphaned.calls other one member
  · rw [begin_of_ne same] at member
    exact orphaned.calls other one member

theorem Orphaned.never (orphaned : Orphaned state) : ¬ Recovers vdso state := by
  rintro ⟨later, final, own, ran, done⟩
  have still : Orphaned final := by
    refine @invariant_of_run _ _ (step vdso) (fun label => ∀ thread pid, label ≠ .fork thread pid)
      Orphaned ?_ _ _ _ own orphaned ran
    intro state label next inside held stepped
    cases label with
    | call thread =>
        cases stepped
        exact held.begin thread
    | fork thread pid => exact absurd rfl (inside thread pid)
    | step thread =>
        obtain ⟨call, outer, split, rfl⟩ := step_eq_some stepped
        exact held.advance split
  rw [still.running] at done
  cases done

theorem orphaned_of_not_handsOn (breaks : ¬ handsOn state label)
    (stepped : step vdso state label = some next) : Orphaned next := by
  cases label with
  | call thread => exact absurd trivial breaks
  | step thread => exact absurd trivial breaks
  | fork thread pid =>
      cases stepped
      simp only [handsOn, Classical.not_imp, not_or, not_exists, not_and, Bool.not_eq_true,
        ne_eq, not_not] at breaks
      obtain ⟨running, calls, owner⟩ := breaks
      refine ⟨running, owner, fun other one member => ?_⟩
      by_cases same : other = thread
      · subst same
        rw [forked_self] at member
        exact calls one member
      · rw [forked_of_ne same] at member
        cases member

theorem claimed_initial (pid : Nat) : Claimed (initial pid) :=
  nofun

/--
No call ever waits, and yet the lookup can be done at every moment of a run exactly when
every child forked in the middle of it has the thread of the claim or another pid than the
claim: a child whose pid is the claim's again never gets the clock.
-/
theorem recovers_iff_handsOn (vdso : Option Nat) (pid : Nat) (labels : List Label) :
    Throughout (step vdso) (Recovers vdso) (initial pid) labels ↔
      Meets (step vdso) handsOn (initial pid) labels :=
  @throughout_iff_meets _ _ (step vdso) (fun _ => True) handsOn Claimed (Recovers vdso)
    (fun _ _ _ _ claimed hands stepped => claimed_step claimed hands stepped)
    (fun _ claimed => claimed.recovers)
    (fun _ _ _ _ _ breaks stepped => (orphaned_of_not_handsOn breaks stepped).never)
    _ _ (fun _ _ => trivial) (claimed_initial pid)

end ChaosLibs.Common.VdsoClock
