import ChaosLibs.Machine.LabelledRun
import Mathlib.Logic.Function.Basic

/-!
# The registry of OVERRIDE lists

The table of `chaos_dns_owned.c` with its spin lock, the threads of any number of
processes that take it, one access at a time, and `fork`: the child has the lock and
the table as they are, and only the forking thread.  `chaos_dns_config_after_fork`
leaves the lock alone.
-/

namespace ChaosLibs.Dns.OwnedRegistry

open ChaosLibs.Machine

/-- `CHAOS_DNS_MAX_OWNED`. -/
abbrev chaosDnsMaxOwned : Nat := 256

/-- `chaos_dns_owned_block_t`: the nodes `[first, first + count)`. -/
structure Block where
  first : Nat
  count : Nat
deriving DecidableEq, Repr

/-- What a thread takes the lock for. -/
inductive Call where
  /-- `chaos_dns_owned_copy`, once the block is filled. -/
  | copy (block : Block)
  /-- `chaos_dns_owned_contains`. -/
  | contains (node : Nat)
  /-- `chaos_dns_owned_free`. -/
  | free (node : Nat)
deriving DecidableEq, Repr

/-- Whether the scan of a call ends at an entry. -/
def Call.stopsAt : Call → Option Block → Bool
  | .copy _, entry => entry.isNone
  | .contains node, entry | .free node, entry =>
      entry.any fun block =>
        decide (block.first ≤ node ∧ node < block.first + block.count)

/-- What a call stores in the entry it stopped at; a lookup stores nothing. -/
def Call.stores : Call → Option (Option Block)
  | .copy block => some (some block)
  | .contains _ => none
  | .free _ => some none

/-- Where a thread is. -/
inductive Stage where
  | outside
  /-- In the loop of `chaos_dns_owned_acquire`. -/
  | acquiring (call : Call)
  /-- The lock is taken, the entry at `index` is next. -/
  | scanning (call : Call) (index : Nat)
  /-- The scan stopped at an entry that is to be written. -/
  | storing (entry : Option Block) (index : Fin chaosDnsMaxOwned)
  /-- `chaos_dns_owned_release` is next. -/
  | releasing
deriving DecidableEq, Repr

/-- The thread is between the acquisition and the release. -/
def Stage.Inside : Stage → Prop
  | .outside | .acquiring _ => False
  | .scanning _ _ | .storing _ _ | .releasing => True

/-- `g_chaos_dns_owned_lock`, `g_chaos_dns_owned`, and the threads that there are. -/
structure Process where
  lock : Bool
  table : Fin chaosDnsMaxOwned → Option Block
  threads : Nat → Option Stage

/-- The processes by their ids. -/
abbrev State := Nat → Option Process

/-- One process with one thread. -/
def initial : State :=
  Function.update (fun _ => none) 0
    (some ⟨false, fun _ => none,
      Function.update (fun _ => none) 0 (some .outside)⟩)

/-- A thread goes on to a stage. -/
def Process.goto (process : Process) (thread : Nat) (stage : Stage) : Process :=
  { process with threads := Function.update process.threads thread (some stage) }

/-- One access of a thread in a call. -/
def Process.advance (process : Process) (thread : Nat) : Stage → Option Process
  | .outside => none
  | .acquiring call =>
      -- `__sync_lock_test_and_set` returns what was there.
      if process.lock then some process
      else some { process.goto thread (.scanning call 0) with lock := true }
  | .scanning call index =>
      if inside : index < chaosDnsMaxOwned then
        if call.stopsAt (process.table ⟨index, inside⟩) then
          some (process.goto thread
            (call.stores.elim .releasing fun entry =>
              .storing entry ⟨index, inside⟩))
        else some (process.goto thread (.scanning call (index + 1)))
      else some (process.goto thread .releasing)
  | .storing entry index =>
      some
        { process.goto thread .releasing with
          table := Function.update process.table index entry }
  | .releasing => some { process.goto thread .outside with lock := false }

/-- `chaos_dns_config_after_fork`, of the registry. -/
def chaosDnsConfigAfterFork (process : Process) : Process :=
  process

/-- The child of a thread's fork. -/
def Process.forked (process : Process) (thread : Nat) : Process :=
  chaosDnsConfigAfterFork
    { process with
      threads := Function.update (fun _ => none) thread (some .outside) }

/-- A step of a thread of a process. -/
inductive Label where
  /-- A thread comes to the lock. -/
  | call (pid thread : Nat) (call : Call)
  | advance (pid thread : Nat)
  | fork (pid thread child : Nat)
  /-- A thread starts another. -/
  | spawn (pid thread other : Nat)
  /-- A thread that is in no call ends. -/
  | ended (pid thread : Nat)
deriving DecidableEq, Repr

/-- What a thread of a process does. -/
def Process.threadStep (process : Process) : Label → Option Process
  | .call _ thread call =>
      match process.threads thread with
      | some .outside => some (process.goto thread (.acquiring call))
      | _ => none
  | .advance _ thread => (process.threads thread).bind (process.advance thread)
  | .fork _ _ _ => none
  | .spawn _ thread other =>
      match process.threads thread, process.threads other with
      | some .outside, none => some (process.goto other .outside)
      | _, _ => none
  | .ended _ thread =>
      match process.threads thread with
      | some .outside =>
          some
            { process with
              threads := Function.update process.threads thread none }
      | _ => none

/-- The process of a step. -/
def Label.pid : Label → Nat
  | .call pid _ _ | .advance pid _ | .fork pid _ _ | .spawn pid _ _
  | .ended pid _ => pid

/-- One step. -/
def step (state : State) (label : Label) : Option State :=
  match label with
  | .fork pid thread child =>
      match state pid, state child with
      | some process, none =>
          if process.threads thread = some .outside then
            some (Function.update state child (some (process.forked thread)))
          else none
      | _, _ => none
  | .call pid _ _ | .advance pid _ | .spawn pid _ _ | .ended pid _ =>
      ((state pid).bind fun process => process.threadStep label).map
        fun process => Function.update state pid (some process)

/-! ## Who holds the lock -/

/-- Some thread of the process is inside the critical section. -/
def Process.Occupied (process : Process) : Prop :=
  ∃ thread stage, process.threads thread = some stage ∧ stage.Inside

/-- In every process the lock is held only by a thread of it. -/
def HeldFromInside (state : State) : Prop :=
  ∀ pid process, state pid = some process → process.lock = true →
    process.Occupied

/-- A process forks only while its lock is free. -/
def ForksUnlocked (state : State) : Label → Prop
  | .fork pid _ _ => ∀ process, state pid = some process → process.lock = false
  | .call _ _ _ | .advance _ _ | .spawn _ _ _ | .ended _ _ => True

variable {state next : State} {process after : Process} {label : Label}

theorem heldFromInside_initial : HeldFromInside initial := by
  intro pid process found held
  unfold initial at found
  by_cases same : pid = 0
  · rw [same, Function.update_self] at found
    cases found
    cases held
  · rw [Function.update_of_ne same] at found
    cases found

/-- A thread that was not inside is no longer needed for the lock to be occupied. -/
theorem Process.Occupied.of_threads
    (occupied : process.Occupied) (thread : Nat)
    (outside : ∀ stage, process.threads thread = some stage → ¬ stage.Inside)
    (others : ∀ other, other ≠ thread →
      after.threads other = process.threads other) :
    after.Occupied := by
  rcases occupied with ⟨other, stage, found, inside⟩
  have different : other ≠ thread := by
    rintro rfl
    exact outside stage found inside
  exact ⟨other, stage, (others other different).trans found, inside⟩

theorem Process.Occupied.of_outside
    {thread : Nat} (occupied : process.Occupied)
    (outside : process.threads thread = some .outside)
    (others : ∀ other, other ≠ thread →
      after.threads other = process.threads other) :
    after.Occupied := by
  refine occupied.of_threads thread ?_ others
  intro stage found inside
  cases outside.symm.trans found
  exact inside

theorem occupied_goto
    (thread : Nat) {stage : Stage} (inside : stage.Inside) :
    (process.goto thread stage).Occupied :=
  ⟨thread, stage, Function.update_self _ _ _, inside⟩

/-- A step of a thread leaves the lock free, or held from inside. -/
theorem occupied_threadStep
    (occupied : process.lock = true → process.Occupied)
    (stepped : process.threadStep label = some after)
    (held : after.lock = true) : after.Occupied := by
  cases label with
  | call pid thread call =>
      dsimp only [Process.threadStep] at stepped
      split at stepped
      · rename_i outside
        cases stepped
        exact (occupied held).of_outside outside
          fun other different => Function.update_of_ne different _ _
      · cases stepped
  | advance pid thread =>
      rcases Option.bind_eq_some_iff.mp stepped with ⟨stage, found, moved⟩
      cases stage with
      | outside => cases moved
      | acquiring call =>
          dsimp only [Process.advance] at moved
          split at moved
          · cases moved
            exact occupied held
          · cases moved
            exact ⟨thread, .scanning call 0, Function.update_self _ _ _, trivial⟩
      | scanning call index =>
          dsimp only [Process.advance] at moved
          split at moved
          · split at moved
            · cases moved
              apply occupied_goto
              cases call with
              | copy block => trivial
              | contains node => trivial
              | free node => trivial
            · cases moved
              exact occupied_goto thread trivial
          · cases moved
            exact occupied_goto thread trivial
      | storing entry index =>
          cases moved
          exact ⟨thread, .releasing, Function.update_self _ _ _, trivial⟩
      | releasing =>
          cases moved
          cases held
  | fork pid thread child => cases stepped
  | spawn pid thread other =>
      dsimp only [Process.threadStep] at stepped
      split at stepped
      · rename_i absent
        cases stepped
        refine (occupied held).of_threads other ?_ ?_
        · intro stage found
          cases absent.symm.trans found
        · exact fun other different => Function.update_of_ne different _ _
      · cases stepped
  | ended pid thread =>
      dsimp only [Process.threadStep] at stepped
      split at stepped
      · rename_i outside
        cases stepped
        exact (occupied held).of_outside outside
          fun other different => Function.update_of_ne different _ _
      · cases stepped

/-- A child that is forked while the lock is held has nobody to release it. -/
theorem not_occupied_forked (process : Process) (thread : Nat) :
    ¬ (process.forked thread).Occupied := by
  rintro ⟨other, stage, found, inside⟩
  change Function.update (fun _ => none) thread (some .outside) other =
    some stage at found
  by_cases same : other = thread
  · rw [same, Function.update_self] at found
    cases found
    exact inside
  · rw [Function.update_of_ne same] at found
    cases found

/-- What a fork makes. -/
theorem of_fork
    {pid thread child : Nat} (stepped : step state (.fork pid thread child) = some next) :
    ∃ process, state pid = some process ∧ state child = none ∧
      next = Function.update state child (some (process.forked thread)) := by
  dsimp only [step] at stepped
  split at stepped
  · rename_i process running free
    split at stepped
    · cases stepped
      exact ⟨process, running, free, rfl⟩
    · cases stepped
  · cases stepped

/-- What any other step makes. -/
theorem of_threadStep
    (stepped : step state label = some next)
    (other : ∀ pid thread child, label ≠ .fork pid thread child) :
    ∃ process after, state label.pid = some process ∧
      process.threadStep label = some after ∧
        next = Function.update state label.pid (some after) := by
  cases label with
  | fork pid thread child => exact absurd rfl (other pid thread child)
  | call pid thread call =>
      rcases Option.map_eq_some_iff.mp stepped with ⟨after, moved, rfl⟩
      rcases Option.bind_eq_some_iff.mp moved with ⟨process, running, moved⟩
      exact ⟨process, after, running, moved, rfl⟩
  | advance pid thread =>
      rcases Option.map_eq_some_iff.mp stepped with ⟨after, moved, rfl⟩
      rcases Option.bind_eq_some_iff.mp moved with ⟨process, running, moved⟩
      exact ⟨process, after, running, moved, rfl⟩
  | spawn pid thread started =>
      rcases Option.map_eq_some_iff.mp stepped with ⟨after, moved, rfl⟩
      rcases Option.bind_eq_some_iff.mp moved with ⟨process, running, moved⟩
      exact ⟨process, after, running, moved, rfl⟩
  | ended pid thread =>
      rcases Option.map_eq_some_iff.mp stepped with ⟨after, moved, rfl⟩
      rcases Option.bind_eq_some_iff.mp moved with ⟨process, running, moved⟩
      exact ⟨process, after, running, moved, rfl⟩

theorem heldFromInside_step
    (held : HeldFromInside state) (unlocked : ForksUnlocked state label)
    (stepped : step state label = some next) : HeldFromInside next := by
  by_cases fork : ∃ pid thread child, label = .fork pid thread child
  · rcases fork with ⟨pid, thread, child, rfl⟩
    rcases of_fork stepped with ⟨process, running, -, rfl⟩
    intro other found here locked
    by_cases same : other = child
    · rw [same, Function.update_self] at here
      cases here
      have free := unlocked process running
      have locked : process.lock = true := locked
      rw [free] at locked
      cases locked
    · rw [Function.update_of_ne same] at here
      exact held other found here locked
  · have other : ∀ pid thread child, label ≠ .fork pid thread child :=
      fun pid thread child same => fork ⟨pid, thread, child, same⟩
    rcases of_threadStep stepped other with
      ⟨process, after, running, moved, rfl⟩
    intro pid found here locked
    by_cases same : pid = label.pid
    · rw [same, Function.update_self] at here
      cases here
      exact occupied_threadStep (held _ process running) moved locked
    · rw [Function.update_of_ne same] at here
      exact held pid found here locked

/-- A fork while the lock is held leaves it held in the child for ever. -/
theorem not_heldFromInside_of_fork
    (locked : ¬ ForksUnlocked state label)
    (stepped : step state label = some next) : ¬ HeldFromInside next := by
  cases label with
  | call pid thread call => exact absurd trivial locked
  | advance pid thread => exact absurd trivial locked
  | spawn pid thread other => exact absurd trivial locked
  | ended pid thread => exact absurd trivial locked
  | fork pid thread child =>
      rcases of_fork stepped with ⟨process, running, -, rfl⟩
      intro held
      apply locked
      intro found here
      cases running.symm.trans here
      by_contra taken
      exact not_occupied_forked process thread
        (held child _ (Function.update_self _ _ _)
          (Bool.eq_true_of_not_eq_false taken))

/--
For every schedule of the threads of any number of processes: the lock is held only
by threads of its process, in every state, if and only if no process forks while
its lock is held.
-/
theorem heldFromInside_throughout_iff (labels : List Label) :
    Throughout step HeldFromInside initial labels ↔
      Meets step ForksUnlocked initial labels :=
  throughout_iff_meets
    (fun _ _ _ _ held unlocked stepped =>
      heldFromInside_step held unlocked stepped)
    (fun _ held => held)
    (fun _ _ _ _ _ locked stepped => not_heldFromInside_of_fork locked stepped)
    (fun _ _ => trivial) heldFromInside_initial

/-! ## The child that spins -/

/-- The process holds its lock, and has no thread that would release it. -/
def Abandoned (pid : Nat) (state : State) : Prop :=
  ∃ process, state pid = some process ∧ process.lock = true ∧
    ¬ process.Occupied

theorem abandoned_threadStep
    (locked : process.lock = true) (empty : ¬ process.Occupied)
    (stepped : process.threadStep label = some after) :
    after.lock = true ∧ ¬ after.Occupied := by
  -- A stage that a thread of the process is in is not inside.
  have outside : ∀ thread stage, process.threads thread = some stage →
      ¬ stage.Inside :=
    fun thread stage found inside => empty ⟨thread, stage, found, inside⟩
  have kept : ∀ thread stage, ¬ Stage.Inside stage →
      ¬ (process.goto thread stage).Occupied := by
    intro thread stage new occupied
    refine empty (occupied.of_threads thread ?_ ?_)
    · intro other found
      cases (Function.update_self thread _ _).symm.trans found
      exact new
    · exact fun other different => (Function.update_of_ne different _ _).symm
  cases label with
  | call pid thread call =>
      dsimp only [Process.threadStep] at stepped
      split at stepped
      · cases stepped
        exact ⟨locked, kept thread _ id⟩
      · cases stepped
  | advance pid thread =>
      rcases Option.bind_eq_some_iff.mp stepped with ⟨stage, found, moved⟩
      cases stage with
      | outside => cases moved
      | acquiring call =>
          dsimp only [Process.advance] at moved
          rw [if_pos locked] at moved
          cases moved
          exact ⟨locked, empty⟩
      | scanning call index => exact absurd trivial (outside thread _ found)
      | storing entry index => exact absurd trivial (outside thread _ found)
      | releasing => exact absurd trivial (outside thread _ found)
  | fork pid thread child => cases stepped
  | spawn pid thread other =>
      dsimp only [Process.threadStep] at stepped
      split at stepped
      · cases stepped
        exact ⟨locked, kept other _ id⟩
      · cases stepped
  | ended pid thread =>
      dsimp only [Process.threadStep] at stepped
      split at stepped
      · cases stepped
        refine ⟨locked, fun occupied => empty (occupied.of_threads thread ?_ ?_)⟩
        · intro stage found
          cases (Function.update_self thread _ _).symm.trans found
        · exact fun other different => (Function.update_of_ne different _ _).symm
      · cases stepped

theorem abandoned_step
    {pid : Nat} (abandoned : Abandoned pid state)
    (stepped : step state label = some next) : Abandoned pid next := by
  rcases abandoned with ⟨process, running, locked, empty⟩
  by_cases fork : ∃ parent thread child, label = .fork parent thread child
  · rcases fork with ⟨parent, thread, child, rfl⟩
    rcases of_fork stepped with ⟨-, -, free, rfl⟩
    have different : pid ≠ child := by
      rintro rfl
      cases running.symm.trans free
    exact ⟨process, (Function.update_of_ne different _ _).trans running, locked,
      empty⟩
  · have other : ∀ parent thread child, label ≠ .fork parent thread child :=
      fun parent thread child same => fork ⟨parent, thread, child, same⟩
    rcases of_threadStep stepped other with ⟨own, after, found, moved, rfl⟩
    by_cases same : pid = label.pid
    · rw [← same, running] at found
      cases found
      rw [same]
      exact ⟨after, Function.update_self _ _ _,
        abandoned_threadStep locked empty moved⟩
    · exact ⟨process, (Function.update_of_ne same _ _).trans running, locked,
        empty⟩

/-- No schedule gets such a process out of it: who comes to the lock spins for ever. -/
theorem abandoned_throughout
    {pid : Nat} (abandoned : Abandoned pid state) (labels : List Label) :
    Throughout step (Abandoned pid) state labels :=
  @throughout_of_preserved State Label step (fun _ => True) (Abandoned pid)
    (fun _ _ _ _ abandoned stepped => abandoned_step abandoned stepped)
    state labels (fun _ _ => trivial) abandoned

/-- Thread 1 takes the lock for a `freeaddrinfo`, and thread 0 forks process 7. -/
def forkWhileScanning : List Label :=
  [.spawn 0 0 1, .call 0 1 (.free 5), .advance 0 1, .fork 0 0 7]

/-- The lock of process 7 is held, and stays so in every schedule. -/
theorem forkWhileScanning_abandons :
    ∃ final, run step initial forkWhileScanning = some final ∧
      ¬ HeldFromInside final ∧
        ∀ labels, Throughout step (Abandoned 7) final labels := by
  have observed :
      (run step initial forkWhileScanning).map (fun final =>
        (final 7).map fun process => process.lock) = some (some true) := by
    decide +kernel
  rcases Option.map_eq_some_iff.mp observed with ⟨final, ran, held⟩
  rcases Option.map_eq_some_iff.mp held with ⟨child, found, locked⟩
  rcases (@run_concat_eq_some State Label step initial final
    [.spawn 0 0 1, .call 0 1 (.free 5), .advance 0 1] (.fork 0 0 7)).mp ran with
      ⟨before, -, forked⟩
  rcases of_fork forked with ⟨parent, -, -, rfl⟩
  rw [Function.update_self] at found
  cases found
  have empty := not_occupied_forked parent 0
  refine ⟨_, ran, fun inside => ?_, abandoned_throughout ?_⟩
  · exact empty (inside 7 _ (Function.update_self _ _ _) locked)
  · exact ⟨_, Function.update_self _ _ _, locked, empty⟩

end ChaosLibs.Dns.OwnedRegistry
