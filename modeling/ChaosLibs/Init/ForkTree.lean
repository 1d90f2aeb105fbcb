import ChaosLibs.Init.TraceeTable
import ChaosLibs.Machine.LabelledRun
import ChaosLibs.Process.CallSequence

/-!
# FAIL_AFTER in a tree of processes

Processes that fork, load new images and make process calls, under one load of the
rules.  The supervisor keeps the FAIL_AFTER counters by the entries of its process
table (`chaos_init_process.c`): a process that is new to its entry takes over the
snapshot of its parent's fork, if there is one.  In the preloaded library each
image has its own.  What either decides is recorded by the identity of the process,
which changes with its image.
-/

namespace ChaosLibs.Init.ForkTree

open ChaosLibs.Common.HitSlots
open ChaosLibs.Init.TraceeSlots
open ChaosLibs.Init.TraceeTable
open ChaosLibs.Process.CallSequence
open ChaosLibs.Process.Rule

/-! ## The counters of the supervisor -/

/-- Counters, with the process-table serial they belong to and their rule load. -/
structure Kept where
  counters : FailAfterCounters
  owner : Nat
  load : Nat

/-- `g_chaos_init_process_counters*` and `g_chaos_init_process_forked*`. -/
structure Books where
  counters : Index → Kept
  forked : Index → Kept

/-- The arrays of static storage. -/
def Books.initial : Books :=
  ⟨fun _ => ⟨fun _ => 0, 0, 0⟩, fun _ => ⟨fun _ => 0, 0, 0⟩⟩

/-- The entry of the parent, when it owns a fork snapshot of the load. -/
def snapshotOf (table : Table) (parentOf : Nat → Nat) (tracee : Index)
    (load : Nat) (books : Books) : Option Index :=
  (chaosInitTraceeFind table (parentOf (table.entries tracee).tgid)).filter
    fun parent =>
      (books.forked parent).owner == (table.entries parent).serial &&
        (books.forked parent).load == load

/-- `chaos_init_process_counters_of`; `parentOf` is `chaos_init_parent_of`. -/
def chaosInitProcessCountersOf (table : Table) (parentOf : Nat → Nat)
    (tracee : Index) (load : Nat) (books : Books) : Books :=
  let serial := (table.entries tracee).serial
  if (books.counters tracee).owner = serial ∧
      (books.counters tracee).load = load then
    books
  else
    match
      if (books.counters tracee).owner ≠ serial then
        snapshotOf table parentOf tracee load books
      else none with
    | none =>
        { books with
          counters := Function.update books.counters tracee
            ⟨fun _ => 0, serial, load⟩ }
    | some parent =>
        { counters := Function.update books.counters tracee
            ⟨(books.forked parent).counters, serial, load⟩
          forked := Function.update books.forked parent
            { books.forked parent with owner := 0 } }

/-! ## The processes -/

/--
A process: `parent` is 0 when it is none of them, and `heir` the child of its last
fork.
-/
structure Process where
  parent : Nat
  identity : Nat
  heir : Option Nat

/-- What is recorded of an image of a process. -/
structure Life where
  pid : Nat
  /-- Whether an `execve` started it. -/
  image : Bool
  /-- The counters its parent had at the fork that made it. -/
  inherited : FailAfterCounters
  /-- The counters it starts with in the supervisor, once it makes a process call. -/
  start : Option FailAfterCounters
  /-- Whether that call came before the next fork of its parent. -/
  first : Bool
  calls : List ProcessCall
  supervised : List Bool
  preloaded : List Bool

/-- Nothing is recorded yet. -/
def Life.blank (pid : Nat) (image : Bool) (inherited : FailAfterCounters) : Life :=
  ⟨pid, image, inherited, none, false, [], [], []⟩

/-- The rules that all processes run under, and the slots they start with. -/
structure Loading where
  process : ProcessRules
  fresh : Pool chaosProcessMaxRules
  isFresh : Fresh process fresh
  load : Nat

/-- What a process has counted before its first call. -/
def Loading.counted (loading : Loading) (counters : FailAfterCounters) : Counted :=
  ⟨loading.fresh, counters⟩

/-- The processes by their ids, the supervisor, and the library in each image. -/
structure State where
  processes : Nat → Option Process
  threads : Nat → Option Nat
  identities : Nat
  table : Table
  pools : Index → Pool chaosProcessMaxRules
  books : Books
  library : Nat → Counted
  lives : Nat → Life

variable (loading : Loading)

/-- Before any process. -/
def initial : State where
  processes := fun _ => none
  threads := fun _ => none
  identities := 0
  table := .initial
  pools := fun _ => loading.fresh
  books := .initial
  library := fun _ => loading.counted fun _ => 0
  lives := fun _ => .blank 0 false fun _ => 0

/-- `CHAOS_INIT_PROCESS_OF`. -/
def State.lookup (state : State) : Lookup := fun tid =>
  (state.threads tid).bind fun pid =>
    (state.processes pid).map fun process => (pid, process.identity)

/-- `chaos_init_parent_of`. -/
def State.parentOf (state : State) (pid : Nat) : Nat :=
  (state.processes pid).elim 0 Process.parent

/-- Whether the process of an entry has made no process call under its serial. -/
def State.isNew (state : State) (index : Index) : Bool :=
  (state.books.counters index).owner != (state.table.entries index).serial

/-- The snapshot the process of an entry finds. -/
def State.snapshot (state : State) (index : Index) : Option Index :=
  snapshotOf state.table state.parentOf index loading.load state.books

/-- Whether the process of an entry is the child of its parent's last fork. -/
def State.isHeir (state : State) (index : Index) : Bool :=
  (state.processes (state.parentOf (state.table.entries index).tgid)).any
    fun parent => parent.heir == some (state.table.entries index).start

/-- `chaos_init_tracee_of`; a dropped entry starts over. -/
def State.enter (state : State) (tid : Nat) : Option (Index × State) :=
  (chaosInitTraceeOf state.lookup tid state.table).map
    fun (index, table, dropped) =>
      (index,
        { state with
          table := table
          pools := fun other =>
            if other ∈ dropped then loading.fresh else state.pools other })

/-- The error a call fails with, 0 for none. -/
def errorOf (failing : Option ChaosProcessRule) : Nat :=
  failing.elim 0 fun rule => rule.errnum

/-- `chaos_init_process_decide` for the process of an entry. -/
def State.verdict (state : State) (index : Index) (call : ProcessCall) :
    Option ChaosProcessRule × Counted :=
  supervisedCall loading.process.state call
    ⟨state.pools index,
      ((chaosInitProcessCountersOf state.table state.parentOf index loading.load
        state.books).counters index).counters⟩

/-- Whether the call is a fork that goes ahead. -/
def State.forks (state : State) (index : Index) (call : ProcessCall) : Prop :=
  call.operation = .fork ∧ errorOf (state.verdict loading index call).1 = 0

instance (state : State) (index : Index) (call : ProcessCall) :
    Decidable (state.forks loading index call) :=
  inferInstanceAs (Decidable (_ ∧ _))

/-- The books after a call is decided, with the snapshot of a fork. -/
def State.booksAfter (state : State) (index : Index) (call : ProcessCall) :
    Books :=
  let books := chaosInitProcessCountersOf state.table state.parentOf index
    loading.load state.books
  let kept : Kept :=
    { books.counters index with
      counters := (state.verdict loading index call).2.counters }
  { counters := Function.update books.counters index kept
    forked :=
      if state.forks loading index call then
        Function.update books.forked index
          ⟨kept.counters, (state.table.entries index).serial, loading.load⟩
      else books.forked }

/-- What is recorded of the process of an entry once a call is decided. -/
def State.lifeAfter (state : State) (index : Index) (call : ProcessCall) : Life :=
  let identity := (state.table.entries index).start
  let life := state.lives identity
  { life with
    start :=
      if state.isNew index then
        some ((chaosInitProcessCountersOf state.table state.parentOf index
          loading.load state.books).counters index).counters
      else life.start
    first := if state.isNew index then state.isHeir index else life.first
    calls := life.calls ++ [call]
    supervised := life.supervised ++
      [failsAfter (state.verdict loading index call).1]
    preloaded := life.preloaded ++
      [failsAfter (libraryCall loading.process.state call
        (state.library identity)).1] }

/-- A fork leaves its parent without an heir until there is a child. -/
def State.processesAfter (state : State) (index : Index) (call : ProcessCall) :
    Nat → Option Process :=
  if state.forks loading index call then
    Function.update state.processes (state.table.entries index).tgid
      ((state.processes (state.table.entries index).tgid).map fun process =>
        { process with heir := none })
  else state.processes

/-- A process call is decided, in both modes. -/
def State.decide (state : State) (index : Index) (call : ProcessCall) : State :=
  let identity := (state.table.entries index).start
  { state with
    processes := state.processesAfter loading index call
    pools := Function.update state.pools index
      (state.verdict loading index call).2.pool
    books := state.booksAfter loading index call
    library := Function.update state.library identity
      (libraryCall loading.process.state call (state.library identity)).2
    lives := Function.update state.lives identity
      (state.lifeAfter loading index call) }

/-! ## What comes of a call -/

/-- What a process call does beyond its result. -/
inductive CallEffect where
  | returns
  | thread (tid : Nat)
  | child (pid : Nat)
  | image
deriving DecidableEq, Repr

/-- The calls that may have an effect. -/
def CallEffect.Of : CallEffect → ChaosProcessOperation → Prop
  | .returns, _ => True
  | .thread _, operation => operation = .pthreadCreate
  | .child _, operation => operation = .fork
  | .image, operation => operation = .execve ∨ operation = .execveat

instance (effect : CallEffect) (operation : ChaosProcessOperation) :
    Decidable (effect.Of operation) := by
  cases effect with
  | returns => exact isTrue trivial
  | thread tid => exact inferInstanceAs (Decidable (operation = .pthreadCreate))
  | child pid => exact inferInstanceAs (Decidable (operation = .fork))
  | image =>
      exact inferInstanceAs
        (Decidable (operation = .execve ∨ operation = .execveat))

/-- No thread or process has the number. -/
def State.Unused (state : State) (number : Nat) : Prop :=
  number ≠ 0 ∧ (state.threads number).isNone ∧ (state.processes number).isNone

instance (state : State) (number : Nat) : Decidable (state.Unused number) :=
  inferInstanceAs (Decidable (_ ∧ _ ∧ _))

/-- A new process. -/
def State.born (state : State) (pid parent : Nat)
    (inherited : FailAfterCounters) (counted : Counted) : State :=
  { state with
    processes := Function.update state.processes pid
      (some ⟨parent, state.identities, none⟩)
    threads := Function.update state.threads pid (some pid)
    identities := state.identities + 1
    library := Function.update state.library state.identities counted
    lives := Function.update state.lives state.identities
      (.blank pid false inherited) }

/-- A process has a child of its last fork. -/
def State.withHeir (state : State) (pid : Nat) (process : Process)
    (child : Nat) : State :=
  { state with
    processes := Function.update state.processes pid
      (some { process with heir := some child }) }

/-- `fork`: the child is its parent's heir. -/
def State.forkChild (state : State) (index : Index) (parent : Nat)
    (process : Process) (child : Nat) : State :=
  (state.born child parent (state.books.counters index).counters
    (chaosProcessConfigAfterFork loading.process.state
      (state.library process.identity))).withHeir parent process state.identities

/-- `execve`: a new identity, and no other thread. -/
def State.newImage (state : State) (pid : Nat) (process : Process) : State :=
  { state with
    processes := Function.update state.processes pid
      (some { process with identity := state.identities })
    threads := fun tid =>
      if state.threads tid = some pid ∧ tid ≠ pid then none
      else state.threads tid
    identities := state.identities + 1
    library := Function.update state.library state.identities
      (loading.counted fun _ => 0)
    lives := Function.update state.lives state.identities
      (.blank pid true fun _ => 0) }

/-- What comes of a call of the process of an entry. -/
def State.carryOut (state : State) (index : Index) : CallEffect → Option State
  | .returns => some state
  | .thread tid =>
      if state.Unused tid then
        some
          { state with
            threads := Function.update state.threads tid
              (some (state.table.entries index).tgid) }
      else none
  | .child pid =>
      let parent := (state.table.entries index).tgid
      if state.Unused pid then
        (state.processes parent).map fun process =>
          state.forkChild loading index parent process pid
      else none
  | .image =>
      let pid := (state.table.entries index).tgid
      (state.processes pid).map fun process =>
        state.newImage loading pid process

/-! ## The machine -/

/-- A step: of a process, or of a call of the libraries. -/
inductive Label where
  /-- The application, or another process of the supervisor's. -/
  | start (pid : Nat)
  /-- A process call, and what comes of it. -/
  | call (tid : Nat) (call : ProcessCall) (effect : CallEffect)
  /-- A notified call of another library. -/
  | touch (tid : Nat)
  /-- A thread that is not the first of its process ends. -/
  | ended (tid : Nat)
  /-- A process ends; its children get another parent. -/
  | exit (pid : Nat)

/-- What a process call does to the state. -/
def State.callOf (state : State) (index : Index) (call : ProcessCall)
    (effect : CallEffect) : Option State :=
  if effect.Of call.operation ∧
      (effect = .returns ∨
        errorOf (state.verdict loading index call).1 = 0) then
    (state.decide loading index call).carryOut loading index effect
  else none

/-- A process ends, with its threads. -/
def State.exited (state : State) (pid : Nat) : State :=
  { state with
    processes := fun other =>
      if other = pid then none
      else (state.processes other).map fun process =>
        { process with
          parent := if process.parent = pid then 0 else process.parent }
    threads := fun tid =>
      if state.threads tid = some pid then none else state.threads tid }

/-- One step. -/
def step (state : State) : Label → Option State
  | .start pid =>
      if state.Unused pid then
        some (state.born pid 0 (fun _ => 0) (loading.counted fun _ => 0))
      else none
  | .call tid call effect =>
      (state.enter loading tid).bind fun (index, entered) =>
        entered.callOf loading index call effect
  | .touch tid => (state.enter loading tid).map Prod.snd
  | .ended tid =>
      if (state.processes tid).isNone then
        some { state with threads := Function.update state.threads tid none }
      else none
  | .exit pid =>
      (state.processes pid).map fun _ => state.exited pid

end ChaosLibs.Init.ForkTree
