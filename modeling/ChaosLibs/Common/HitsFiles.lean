import ChaosLibs.Common.StatusPublish

/-!
# The hits files of several processes

`chaos_hits_write_for` by any number of processes that share a directory, one system
call a step.  Until a process owns its file it only creates; what it takes for its own
file is what this module is about.

The number that `chaos_hits_file_number_for` chooses is an input: nothing depends on
its being free.
-/

namespace ChaosLibs.Common.HitsFiles

open ChaosLibs.Common.CString
open ChaosLibs.Common.StatusPublish
open ChaosLibs.Machine

/-! ## Names -/

/-- The libraries that write hits files. -/
inductive Library where
  | io
  | net
  | process
  | dns
  | time
  | memory
deriving DecidableEq, Repr

/-- `CHAOS_<LIB>_HITS_PREFIX`. -/
def Library.hitsPrefix : Library → Bytes
  | .io => bytes "/tmp/.chaos-io.hits"
  | .net => bytes "/tmp/.chaos-net.hits"
  | .process => bytes "/tmp/.chaos-process.hits"
  | .dns => bytes "/tmp/.chaos-dns.hits"
  | .time => bytes "/tmp/.chaos-time.hits"
  | .memory => bytes "/tmp/.chaos-memory.hits"

/-- `<prefix>.<number>`. -/
def Library.hitsPath (library : Library) (number : Nat) : Bytes :=
  library.hitsPrefix ++ bytes "." ++ bytes (toString number)

/-- `sizeof(path)`. -/
def pathSize : Nat := 128

/-- The attempts at a number. -/
def numberAttempts : Nat := 4

/-! ## Processes -/

/-- Where a process is in `chaos_hits_write_for`. -/
inductive Stage where
  | idle
  | publishing (attempt : Nat) (publication : Publication) (pc : Pc)

/-- A process, with the number and the flag that it passes in and out. -/
structure Process where
  library : Library
  number : Nat
  owned : Bool
  stage : Stage

/-- The file that a process writes. -/
def Process.path (process : Process) : Bytes :=
  process.library.hitsPath process.number

/-- One round of the loop of `chaos_hits_write_for`. -/
def Process.attempt (process : Process) (attempt : Nat) (data : Bytes) (pid : Nat)
    (nonce : UInt64) : Process :=
  if pathSize ≤ process.path.length then { process with stage := .idle }
  else
    let publication : Publication :=
      ⟨process.path, data, !process.owned, pid, nonce⟩
    { process with stage := .publishing attempt publication (publication.attempt 0) }

/-- The rest of a round, the publication having returned. -/
def Process.resume (process : Process) (attempt : Nat) (publication : Publication)
    (result : Int) (number : Nat) (nonce : UInt64) : Process :=
  if !publication.exclusive then { process with stage := .idle }
  else if result = 0 then { process with owned := true, stage := .idle }
  else
    let chosen := { process with number := number }
    if attempt + 1 < numberAttempts then
      chosen.attempt (attempt + 1) publication.data publication.pid nonce
    else { chosen with stage := .idle }

/-! ## The shared directory -/

/--
The files and the processes.  `creator` remembers whose exclusive publication created
a file, and `foreign` whether a process has replaced or emptied one that it had not
created; neither is read.
-/
structure World where
  files : Files
  process : Nat → Process
  creator : Bytes → Option Nat
  foreign : Bool

/-- What a process does next. -/
inductive Action where
  /-- `chaos_hits_write_for` is called. -/
  | call (data : Bytes) (pid : UInt32) (nonce : UInt64)
  /-- A system call returns. -/
  | answer (answer : Answer)
  /-- The publication has returned. -/
  | resume (number : Nat) (nonce : UInt64)

/-- A process that moves, and what it does. -/
abbrev Label := Nat × Action

/-- A system call replaces or empties what the target names. -/
def replaces : Pc → Answer → Bool
  | .rename _, .ok _ | .openExisting _, .ok _ => true
  | _, _ => false

/-- A system call creates the target. -/
def creates : Pc → Answer → Bool
  | .link _, .ok _ => true
  | _, _ => false

/-- A process's system call returns. -/
def World.afterCall (world : World) (mover attempt : Nat) (publication : Publication)
    (pc : Pc) (answer : Answer) (next : Pc × Files) : World where
  files := next.2
  process := Function.update world.process mover
    { world.process mover with stage := .publishing attempt publication next.1 }
  creator :=
    if creates pc answer then
      Function.update world.creator publication.path (some mover)
    else world.creator
  foreign :=
    world.foreign ||
      (replaces pc answer && (world.files.names publication.path).isSome &&
        world.creator publication.path != some mover)

/-- One step of one process. -/
def step (world : World) (label : Label) : Option World :=
  let process := world.process label.1
  match process.stage, label.2 with
  | .idle, .call data pid nonce =>
      some
        { world with
          process := Function.update world.process label.1
            (process.attempt 0 data pid.toNat nonce) }
  | .publishing attempt publication (.done result), .resume number nonce =>
      some
        { world with
          process := Function.update world.process label.1
            (process.resume attempt publication result number nonce) }
  | .publishing attempt publication pc, .answer answer =>
      (publication.step (pc, world.files) answer).map
        (world.afterCall label.1 attempt publication pc answer)
  | _, _ => none

/-- Processes that own no file yet, over any files. -/
def World.initial (files : Files) (library : Nat → Library) (number : Nat → Nat) :
    World where
  files := files
  process mover := ⟨library mover, number mover, false, .idle⟩
  creator _ := none
  foreign := false

/-! ## Conditions and the property -/

/-- `link` works: it fails only for a name that is taken. -/
def linkWorks (world : World) (label : Label) : Bool :=
  match (world.process label.1).stage, label.2 with
  | .publishing _ _ (.link _), .answer (.error errno) => errno == eexist
  | _, _ => true

/-- A system call on the staging file after whose answer the publication gives up. -/
def abandons : Pc → Answer → Bool
  | .openStaging attempt, .error errno =>
      !(errno == eexist && decide (attempt + 1 < stagingAttempts))
  | .write _ _ _, .ok count => count == 0
  | .write _ _ _, .error errno => errno != eintr
  | _, _ => false

/-- No exclusive publication gives up before its `link`. -/
def completes (world : World) (label : Label) : Bool :=
  match (world.process label.1).stage, label.2 with
  | .publishing _ publication pc, .answer answer =>
      !(publication.exclusive && abandons pc answer)
  | _, _ => true

/-- The publication of a stage replaces its target. -/
def Stage.replacing : Stage → Option Bytes
  | .publishing _ publication _ =>
      if publication.exclusive then none else some publication.path
  | .idle => none

/--
A process that has set its flag has created its file itself, no process is replacing a
file that it has not created, and none has done so.
-/
structure Safe (world : World) : Prop where
  owned : ∀ mover, (world.process mover).owned = true →
    world.creator (world.process mover).path = some mover
  replacing : ∀ mover path, (world.process mover).stage.replacing = some path →
    world.creator path = some mover
  foreign : world.foreign = false

end ChaosLibs.Common.HitsFiles
