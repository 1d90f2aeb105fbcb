import ChaosLibs.Io.RacyRefresh
import ChaosLibs.Io.RefreshThreads

/-!
# A rule file that cannot be read

A file whose `open` is denied is rejected, and the rejection is published with the
stamp of the file.  The stamp says nothing about the permissions: a file that becomes
readable is read when its stamp changes, too.

Any number of threads refresh, with any answers, while the file changes in any way.
-/

namespace ChaosLibs.Io.UnreadableFile

open ChaosLibs.Machine
open ChaosLibs.Common.CString
open ChaosLibs.Io.ChangeStamp
open ChaosLibs.Io.Rule
open ChaosLibs.Io.ConfigParser
open ChaosLibs.Io.Refresh
open ChaosLibs.Io.RefreshThreads
open ChaosLibs.Io.RacyRefresh (stepsLeft stepsLeft_readChunk)

/-! ## The file and the machine -/

/-- The rule file; its permissions are no part of what the stamp is made of. -/
structure File where
  content : Bytes
  stat : FileStat
  readable : Bool

/-- The change stamp of the file. -/
def File.stamp (file : File) : UInt64 :=
  chaosIoConfigHashMtime file.stat

/-- A chunk that `read` returns at an offset; only the end of the file is empty. -/
def File.reads (file : File) (offset : Nat) (chunk : Bytes) : Bool :=
  chunk == (file.content.drop offset).take (chunk.length - 1 + 1)

/-- The system call that a thread makes next succeeds. -/
def File.succeeds (file : File) (pc : RefreshPc) (answers : Answers) : Bool :=
  match pc with
  | .stat => answers.stat == some file.stat
  | .openFile _ _ => file.readable && answers.opened == .opened
  | .readFile _ _ data =>
      match answers.read with
      | .bytes chunk => file.reads data.length chunk
      | _ => false
  | .statFile _ _ _ => answers.fstat == some file.stat
  | _ => true

/--
The threads and the file.  `changed` has the threads whose call is past its `stat`, has
not found the stamp of the file cached and has not lost the claim, while none of its
system calls has failed and the file is as it was at its `stat`.  `returned` is the thread
whose call has just ended.
-/
structure World where
  process : Process
  file : File
  changed : Nat → Bool
  returned : Option Nat

/-- After `chaos_io_config_init`. -/
def World.initial (file : File) : World :=
  ⟨Process.initial, file, fun _ => false, none⟩

/-- What can happen next. -/
inductive Label where
  /-- The file is written, replaced or given other permissions. -/
  | change (file : File)
  /-- A thread takes its next step. -/
  | thread (mover : Nat) (answers : Answers)

/-- Whether a call is one that has found the stamp changed, after its step to `next`. -/
def World.finds (world : World) (mover : Nat) (answers : Answers) (next : RefreshPc) :
    Bool :=
  match world.process.threads mover with
  | .idle | .throttle => false
  | .stat => world.file.succeeds .stat answers
  | .loadStamp observed => world.changed mover && world.process.cache.cached != observed
  | .claim _ _ => world.changed mover && owns next
  | pc => world.changed mover && world.file.succeeds pc answers

/-- One step. -/
def step (world : World) : Label → Option World
  | .change file =>
      some { world with file := file, changed := fun _ => false, returned := none }
  | .thread mover answers =>
      let process := world.process.advance mover answers
      let next := process.threads mover
      some
        { world with
          process := process
          changed := Function.update world.changed mover (world.finds mover answers next)
          returned :=
            if world.process.threads mover ≠ .idle ∧ next = .idle then some mover
            else none }

/-- The active snapshot is the parse of what the file holds. -/
def World.IsCurrent (world : World) : Prop :=
  world.process.cache.active.loaded = loadedOf world.file.content

/--
A call that has found the stamp of the file changed leaves the parse of the file, and
each of its steps leaves fewer to take.
-/
structure Loads (world : World) : Prop where
  current : ∀ mover, world.returned = some mover → world.changed mover = true →
    world.IsCurrent
  ends : ∀ mover answers after, world.changed mover = true →
    world.process.threads mover ≠ .idle →
      step world (.thread mover answers) = some after → after.changed mover = true →
        after.returned = some mover ∨
          stepsLeft world.file.content.length (after.process.threads mover) <
            stepsLeft world.file.content.length (world.process.threads mover)

/-! ## What a call knows -/

/-- What a call that has found the stamp changed knows, by where its thread stands. -/
def Knows (file : File) (cache : Cache) : RefreshPc → Prop
  | .idle => cache.active.loaded = loadedOf file.content
  | .loadStamp observed => observed = file.stamp
  | .claim observed cached => observed = file.stamp ∧ cached ≠ observed
  | .clearProvisional observed previous | .openFile observed previous =>
      observed = file.stamp ∧ previous ≠ observed
  | .readFile observed previous data =>
      observed = file.stamp ∧ previous ≠ observed ∧ data <+: file.content
  | .statFile observed previous data | .readClock observed previous data _
  | .compare observed previous data =>
      observed = file.stamp ∧ previous ≠ observed ∧ data = file.content
  | .resolve _ _ loaded => loaded = loadedOf file.content
  | .storeContent _ _ snapshot | .publish _ snapshot =>
      snapshot.loaded = loadedOf file.content
  | .storeStamp _ => cache.active.loaded = loadedOf file.content
  | _ => False

variable {file : File} {cache : Cache} {answers : Answers}

/-- What a chunk of the read loop leaves a call knowing. -/
theorem knows_readChunk {observed previous : UInt64} {data chunk : Bytes}
    (knows : Knows file cache (.readFile observed previous data))
    (reads : file.reads data.length chunk = true) :
    Knows file cache (readChunk observed previous data chunk) := by
  rcases knows with ⟨present, different, read⟩
  have next := eq_of_beq reads
  have further : data ++ chunk <+: file.content := by
    rw [next]
    exact prefix_readChunk read
  unfold readChunk
  split
  · rename_i ended
    exact ⟨present, different, eq_of_readChunk_nil read (next.symm.trans ended)⟩
  · split
    · rename_i full
      exact (loadedOf_tooLarge (full.trans further.length_le)).symm
    · exact ⟨present, different, further⟩

/-- What the step of a call that has found the stamp changed leaves it knowing. -/
theorem knows_advance {world : World} {mover : Nat}
    (knows : world.changed mover = true → world.process.threads mover ≠ .idle →
      Knows world.file world.process.cache (world.process.threads mover))
    (finds : world.finds mover answers
      (advance world.process.cache (world.process.threads mover) answers).2 = true) :
    Knows world.file
      (advance world.process.cache (world.process.threads mover) answers).1
      (advance world.process.cache (world.process.threads mover) answers).2 := by
  unfold World.finds at finds
  cases place : world.process.threads mover with
  | idle => simp [place] at finds
  | throttle => simp [place] at finds
  | stat =>
      simp only [place, File.succeeds, beq_iff_eq] at finds
      simp only [advance, finds]
      rfl
  | loadStamp observed =>
      simp only [place, Bool.and_eq_true, bne_iff_ne] at finds knows
      simp only [advance, if_neg finds.2]
      exact ⟨knows finds.1 (by simp), finds.2⟩
  | claim observed cached =>
      simp only [place, Bool.and_eq_true] at finds knows
      rcases finds with ⟨changed, claimed⟩
      simp only [advance] at claimed ⊢
      split at claimed
      · cases claimed
      · rename_i free
        rw [if_neg free]
        split at claimed
        · rename_i same
          rw [if_pos same]
          exact knows changed (by simp)
        · cases claimed
  | clearProvisional observed previous =>
      simp only [place, Bool.and_eq_true] at finds knows
      have present := knows finds.1 (by simp)
      have found : observed ≠ chaosIoMtimeMissing := by
        rw [present.1]
        exact chaosIoConfigHashMtime_ne_missing _
      simp only [advance, if_neg found]
      exact present
  | openFile observed previous =>
      simp only [place, File.succeeds, Bool.and_eq_true, beq_iff_eq] at finds knows
      rcases finds with ⟨changed, -, opened⟩
      simp only [advance, opened]
      exact ⟨(knows changed (by simp)).1, (knows changed (by simp)).2, List.nil_prefix⟩
  | readFile observed previous data =>
      simp only [place, File.succeeds, Bool.and_eq_true] at finds knows
      rcases finds with ⟨changed, reads⟩
      simp only [advance]
      split at reads
      · rename_i chunk answer
        rw [answer]
        exact knows_readChunk (knows changed (by simp)) reads
      · cases reads
  | statFile observed previous data =>
      simp only [place, File.succeeds, Bool.and_eq_true, beq_iff_eq] at finds knows
      have present := knows finds.1 (by simp)
      have same : chaosIoConfigHashMtime world.file.stat = observed := present.1.symm
      rw [advance_statFile finds.2, if_neg (not_not_intro same)]
      exact present
  | readClock observed previous data stat =>
      simp only [place, Bool.and_eq_true] at finds knows
      exact knows finds.1 (by simp)
  | compare observed previous data =>
      simp only [place, Bool.and_eq_true] at finds knows
      rcases knows finds.1 (by simp) with ⟨-, different, whole⟩
      simp only [advance]
      rw [if_neg fun same => different same.1.symm, whole]
      rfl
  | resolve observed content loaded =>
      simp only [place, Bool.and_eq_true] at finds knows
      exact knows finds.1 (by simp)
  | storeContent observed content snapshot =>
      simp only [place, Bool.and_eq_true] at finds knows
      exact knows finds.1 (by simp)
  | publish observed snapshot =>
      simp only [place, Bool.and_eq_true] at finds knows
      exact knows finds.1 (by simp)
  | storeStamp observed =>
      simp only [place, Bool.and_eq_true] at finds knows
      exact knows finds.1 (by simp)
  | testProvisional observed =>
      simp only [place, Bool.and_eq_true] at finds knows
      exact (knows finds.1 (by simp)).elim
  | testLinks observed =>
      simp only [place, Bool.and_eq_true] at finds knows
      exact (knows finds.1 (by simp)).elim
  | forgetContent =>
      simp only [place, Bool.and_eq_true] at finds knows
      exact (knows finds.1 (by simp)).elim
  | linksDue observed previous data =>
      simp only [place, Bool.and_eq_true] at finds knows
      exact (knows finds.1 (by simp)).elim
  | linksMoved observed previous data =>
      simp only [place, Bool.and_eq_true] at finds knows
      exact (knows finds.1 (by simp)).elim
  | linksKept previous =>
      simp only [place, Bool.and_eq_true] at finds knows
      exact (knows finds.1 (by simp)).elim
  | keep previous =>
      simp only [place, Bool.and_eq_true] at finds knows
      exact (knows finds.1 (by simp)).elim
  | fail previous =>
      simp only [place, Bool.and_eq_true] at finds knows
      exact (knows finds.1 (by simp)).elim

/-- A step of a call that has found the stamp changed ends it or leaves fewer. -/
theorem stepsLeft_advance {world : World} {mover : Nat}
    (knows : Knows world.file world.process.cache (world.process.threads mover))
    (working : world.process.threads mover ≠ .idle)
    (finds : world.finds mover answers
      (advance world.process.cache (world.process.threads mover) answers).2 = true) :
    (advance world.process.cache (world.process.threads mover) answers).2 = .idle ∨
      stepsLeft world.file.content.length
          (advance world.process.cache (world.process.threads mover) answers).2 <
        stepsLeft world.file.content.length (world.process.threads mover) := by
  unfold World.finds at finds
  cases place : world.process.threads mover with
  | idle => exact absurd place working
  | readFile observed previous data =>
      simp only [place, File.succeeds, Bool.and_eq_true] at finds
      rcases finds with ⟨-, reads⟩
      simp only [advance]
      split at reads
      · rename_i chunk answer
        refine Or.inr ?_
        rw [answer, eq_of_beq reads]
        exact stepsLeft_readChunk.2
      · cases reads
  | openFile observed previous =>
      simp only [place, File.succeeds, Bool.and_eq_true, beq_iff_eq] at finds
      refine Or.inr ?_
      simp [advance, finds.2.2, stepsLeft]
  | statFile observed previous data =>
      simp only [place, File.succeeds, Bool.and_eq_true, beq_iff_eq] at finds
      rw [advance_statFile finds.2]
      split <;> simp [stepsLeft]
  | loadStamp | clearProvisional | compare =>
      simp only [advance]
      split <;> simp [stepsLeft]
  | claim =>
      simp only [advance]
      split
      · exact Or.inl rfl
      · split <;> simp [stepsLeft]
  | readClock | resolve | storeContent | publish | storeStamp => simp [advance, stepsLeft]
  | _ =>
      rw [place] at knows
      exact knows.elim

/-! ## Runs -/

/-- What holds of the world in every run. -/
structure LoadsInvariant (world : World) : Prop where
  exclusive : Exclusive world.process
  knows : ∀ thread, world.changed thread = true → world.process.threads thread ≠ .idle →
    Knows world.file world.process.cache (world.process.threads thread)
  current : ∀ thread, world.returned = some thread → world.changed thread = true →
    world.IsCurrent

theorem loadsInvariant_initial (file : File) : LoadsInvariant (World.initial file) where
  exclusive := exclusive_initial
  knows _ changed := by cases changed
  current _ returned := by cases returned

/-- Only a thread that has the claim changes what a publication leaves. -/
theorem knows_other {after : Cache} {pc : RefreshPc} (knows : Knows file cache pc)
    (working : pc ≠ .idle) (active : owns pc = true → after.active = cache.active) :
    Knows file after pc := by
  cases pc with
  | idle => exact absurd rfl working
  | storeStamp observed =>
      dsimp only [Knows] at knows ⊢
      rw [active rfl]
      exact knows
  | _ => exact knows

theorem active_advance_of_not_owns {pc : RefreshPc} (outside : owns pc = false) :
    (advance cache pc answers).1.active = cache.active := by
  have kind := claimStep_advance cache pc answers
  generalize advance cache pc answers = next at kind
  cases kind with
  | outside _ _ _ _ _ active => exact active
  | won _ _ _ => rfl
  | under before _ _ _ => exact absurd (outside.symm.trans before) nofun
  | ended _ before _ => exact absurd (outside.symm.trans before) nofun

theorem loadsInvariant_step {world after : World} {label : Label}
    (invariant : LoadsInvariant world) (stepped : step world label = some after) :
    LoadsInvariant after := by
  cases label with
  | change file =>
      cases stepped
      exact ⟨invariant.exclusive, nofun, nofun⟩
  | thread mover answers =>
      cases stepped
      have exclusive := exclusive_advance invariant.exclusive mover answers
      have moved : (world.process.advance mover answers).threads mover =
          (advance world.process.cache (world.process.threads mover) answers).2 :=
        Function.update_self _ _ _
      have mine : world.finds mover answers
          ((world.process.advance mover answers).threads mover) = true →
            Knows world.file (world.process.advance mover answers).cache
              ((world.process.advance mover answers).threads mover) := by
        rw [moved]
        exact knows_advance (invariant.knows mover)
      refine ⟨exclusive, ?_, ?_⟩
      · intro thread changed working
        dsimp only at changed working ⊢
        by_cases here : thread = mover
        · rw [here, Function.update_self] at changed
          rw [here]
          exact mine changed
        · rw [Function.update_of_ne here] at changed
          have still : (world.process.advance mover answers).threads thread =
              world.process.threads thread := Function.update_of_ne here _ _
          rw [still] at working ⊢
          refine knows_other (invariant.knows thread changed working) working ?_
          intro holds
          exact active_advance_of_not_owns
            (invariant.exclusive.not_owns holds (Ne.symm here))
      · intro thread returned changed
        dsimp only at returned changed
        split at returned
        · rename_i ended
          cases returned
          rw [Function.update_self] at changed
          have knows := mine changed
          rw [ended.2] at knows
          exact knows
        · cases returned

/-- A file with one rule, written in second `sec`, that may be opened or not. -/
def ruleFile (sec : Int) (readable : Bool) : File :=
  ⟨bytes "/a:open:EIO:1.0\n", ⟨sec, 0, 16, 7, 1⟩, readable⟩

/-- A step of thread 0. -/
def step0 (answers : Answers) : Label :=
  .thread 0 answers

/-- The first check, whose `open` is denied. -/
def deniedCheck : List Label :=
  [step0 {}, step0 { stat := some (ruleFile 1000 false).stat }, step0 {}, step0 {}, step0 {},
    step0 { opened := .denied }, step0 {}, step0 {}, step0 {}, step0 {}]

/-- The file may be opened, and 5 ms later its next check begins. -/
def permittedCheck : List Label :=
  [.change (ruleFile 1000 true), step0 {}, step0 { monotonicNs := 5000000 },
    step0 { stat := some (ruleFile 1000 true).stat }, step0 {}, step0 {}, step0 {}]

/-- The file is written again in second 2000, too. -/
def touchedCheck : List Label :=
  [.change (ruleFile 2000 true), step0 {}, step0 { monotonicNs := 5000000 },
    step0 { stat := some (ruleFile 2000 true).stat }, step0 {}, step0 {}, step0 {},
    step0 { opened := .opened }, step0 { read := .bytes (ruleFile 2000 true).content },
    step0 { read := .bytes [] }, step0 { fstat := some (ruleFile 2000 true).stat },
    step0 { realtimeMs := 3000000 }, step0 {}, step0 {}, step0 {}, step0 {}, step0 {}]

example :
    (run step (World.initial (ruleFile 1000 false)) (deniedCheck ++ touchedCheck)).map
        (fun final => (final.returned, final.changed 0, final.process.cache.active.loaded)) =
      some (some 0, true, loadedOf (ruleFile 2000 true).content) := by
  decide +kernel

end ChaosLibs.Io.UnreadableFile
