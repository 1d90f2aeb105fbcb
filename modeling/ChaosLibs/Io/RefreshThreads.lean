import ChaosLibs.Io.Refresh
import ChaosLibs.Machine.LabelledRun

/-!
# Threads that refresh

Any number of threads inside `chaos_io_config_refresh`.  The compare-and-swap
of the cached stamp against `CHAOS_IO_MTIME_RELOADING` is the reload claim: at
most one thread is past it, and for as long as one is, the stamp says so.
-/

namespace ChaosLibs.Io.RefreshThreads

open ChaosLibs.Common.CString
open ChaosLibs.Io.ChangeStamp
open ChaosLibs.Io.Refresh

/-- The shared words and where every thread stands. -/
structure Process where
  cache : Cache
  threads : Nat → RefreshPc

/-- After `chaos_io_config_init`. -/
def Process.initial : Process :=
  ⟨Cache.initial, fun _ => .idle⟩

/-- One thread takes its next step. -/
def Process.advance
    (process : Process) (thread : Nat) (answers : Answers) : Process :=
  let next := Refresh.advance process.cache (process.threads thread) answers
  ⟨next.1, Function.update process.threads thread next.2⟩

/-- The thread holds the reload claim. -/
def owns : RefreshPc → Bool
  | .idle | .throttle | .stat | .loadStamp _ | .testProvisional _
  | .testLinks _ | .claim _ _ => false
  | _ => true

/-- The previous stamp a reload in progress may restore. -/
def previousOf : RefreshPc → Option UInt64
  | .clearProvisional _ previous | .openFile _ previous
  | .readFile _ previous _ | .statFile _ previous _
  | .readClock _ previous _ _ | .compare _ previous _
  | .linksDue _ previous _ | .linksMoved _ previous _ | .linksKept previous
  | .keep previous | .fail previous => some previous
  | _ => none

/-! ## What a step can do to the claim -/

/-- The four kinds of steps: before a claim, winning it, under it, ending it. -/
inductive ClaimStep (cache : Cache) (pc : RefreshPc) :
    Cache × RefreshPc → Prop where
  | outside {next : Cache × RefreshPc}
      (before : owns pc = false) (after : owns next.2 = false)
      (cached : next.1.cached = cache.cached)
      (provisional : next.1.provisional = cache.provisional)
      (content : next.1.content = cache.content)
      (active : next.1.active = cache.active) :
      ClaimStep cache pc next
  | won (observed : UInt64)
      (here : pc = .claim observed cache.cached)
      (free : cache.cached ≠ chaosIoMtimeReloading) :
      ClaimStep cache pc
        ({ cache with cached := chaosIoMtimeReloading },
          .clearProvisional observed cache.cached)
  | under {next : Cache × RefreshPc}
      (before : owns pc = true) (after : owns next.2 = true)
      (cached : next.1.cached = cache.cached)
      (previous : ∀ stamp, previousOf next.2 = some stamp →
        previousOf pc = some stamp) :
      ClaimStep cache pc next
  | ended (stamp : UInt64) (before : owns pc = true)
      (here : pc = .storeStamp stamp ∨ pc = .keep stamp ∨ pc = .fail stamp) :
      ClaimStep cache pc ({ cache with cached := stamp }, .idle)

theorem claimStep_readChunk
    {cache : Cache} {observed previous : UInt64} {data chunk : Bytes} :
    ClaimStep cache (.readFile observed previous data)
      (cache, readChunk observed previous data chunk) := by
  unfold readChunk
  split
  · exact .under rfl rfl rfl (by simp [previousOf])
  · split
    · exact .under rfl rfl rfl (by simp [previousOf])
    · exact .under rfl rfl rfl (by simp [previousOf])

theorem claimStep_advance
    (cache : Cache) (pc : RefreshPc) (answers : Answers) :
    ClaimStep cache pc (advance cache pc answers) := by
  cases pc with
  | idle =>
      simp only [advance]
      split <;> exact .outside rfl rfl rfl rfl rfl rfl
  | throttle =>
      simp only [advance]
      split <;> exact .outside rfl rfl rfl rfl rfl rfl
  | stat => exact .outside rfl rfl rfl rfl rfl rfl
  | loadStamp observed =>
      simp only [advance]
      split <;> exact .outside rfl rfl rfl rfl rfl rfl
  | testProvisional observed =>
      simp only [advance]
      split <;> exact .outside rfl rfl rfl rfl rfl rfl
  | testLinks observed =>
      simp only [advance]
      split <;> exact .outside rfl rfl rfl rfl rfl rfl
  | claim observed cached =>
      simp only [advance]
      split
      · exact .outside rfl rfl rfl rfl rfl rfl
      · rename_i free
        split
        · rename_i same
          subst same
          exact .won observed rfl free
        · exact .outside rfl rfl rfl rfl rfl rfl
  | clearProvisional observed previous =>
      simp only [advance]
      split <;> exact .under rfl rfl rfl (by simp [previousOf])
  | forgetContent => exact .under rfl rfl rfl (by simp [advance, previousOf])
  | openFile observed previous =>
      simp only [advance]
      split <;> exact .under rfl rfl rfl (by simp [previousOf])
  | readFile observed previous data =>
      simp only [advance]
      split
      · exact claimStep_readChunk
      · exact .under rfl rfl rfl (by simp [previousOf])
      · exact .under rfl rfl rfl (by simp [previousOf])
      · exact .under rfl rfl rfl (by simp [previousOf])
  | statFile observed previous data =>
      simp only [advance]
      split
      · exact .under rfl rfl rfl (by simp [previousOf])
      · split <;> exact .under rfl rfl rfl (by simp [previousOf])
  | readClock observed previous data stat =>
      exact .under rfl rfl rfl (by simp [advance, previousOf])
  | compare observed previous data =>
      simp only [advance]
      split <;> exact .under rfl rfl rfl (by simp [previousOf])
  | linksDue observed previous data =>
      simp only [advance]
      split <;> exact .under rfl rfl rfl (by simp [previousOf])
  | linksMoved observed previous data =>
      simp only [advance]
      split <;> exact .under rfl rfl rfl (by simp [previousOf])
  | linksKept previous =>
      exact .under rfl rfl rfl (by simp [advance, previousOf])
  | resolve observed content loaded =>
      exact .under rfl rfl rfl (by simp [advance, previousOf])
  | storeContent observed content snapshot =>
      exact .under rfl rfl rfl (by simp [advance, previousOf])
  | publish observed snapshot =>
      exact .under rfl rfl rfl (by simp [advance, previousOf])
  | storeStamp observed => exact .ended observed rfl (by simp)
  | keep previous => exact .ended previous rfl (by simp)
  | fail previous => exact .ended previous rfl (by simp)

/-! ## At most one claim -/

/-- The stamp shows the claim, at most one thread holds it, and it restores no claim. -/
structure Exclusive (process : Process) : Prop where
  shown : ∀ thread, owns (process.threads thread) = true →
    process.cache.cached = chaosIoMtimeReloading
  unique : ∀ left right, owns (process.threads left) = true →
    owns (process.threads right) = true → left = right
  restores : ∀ thread previous,
    previousOf (process.threads thread) = some previous →
      previous ≠ chaosIoMtimeReloading

theorem exclusive_initial : Exclusive Process.initial where
  shown := by simp [Process.initial, owns]
  unique := by simp [Process.initial, owns]
  restores := by simp [Process.initial, previousOf]

theorem owns_of_previousOf {pc : RefreshPc} {stamp : UInt64}
    (restores : previousOf pc = some stamp) : owns pc = true := by
  cases pc <;> simp [previousOf] at restores <;> rfl

/-- While one thread holds the claim, no other thread does. -/
theorem Exclusive.not_owns
    {process : Process} (exclusive : Exclusive process) {thread other : Nat}
    (holds : owns (process.threads thread) = true) (different : other ≠ thread) :
    owns (process.threads other) = false := by
  by_contra also
  exact different
    (exclusive.unique other thread (Bool.eq_true_of_not_eq_false also) holds)

theorem exclusive_advance
    {process : Process} (exclusive : Exclusive process)
    (thread : Nat) (answers : Answers) :
    Exclusive (process.advance thread answers) := by
  have kind :=
    claimStep_advance process.cache (process.threads thread) answers
  unfold Process.advance
  generalize Refresh.advance process.cache (process.threads thread) answers =
    next at kind ⊢
  cases kind with
  | outside before after cached provisional content active =>
      refine ⟨?_, ?_, ?_⟩
      · intro other holds
        simp only [Function.update_apply] at holds ⊢
        split at holds
        · simp [after] at holds
        · exact cached.trans (exclusive.shown other holds)
      · intro left right leftHolds rightHolds
        simp only [Function.update_apply] at leftHolds rightHolds
        split at leftHolds
        · simp [after] at leftHolds
        · split at rightHolds
          · simp [after] at rightHolds
          · exact exclusive.unique left right leftHolds rightHolds
      · intro other stamp restores
        simp only [Function.update_apply] at restores
        split at restores
        · rw [owns_of_previousOf restores] at after
          exact absurd after (by simp)
        · exact exclusive.restores other stamp restores
  | won observed here free =>
      have noOwner : ∀ other, owns (process.threads other) = false := by
        intro other
        by_contra holds
        exact free
          (exclusive.shown other (Bool.eq_true_of_not_eq_false holds))
      refine ⟨fun _ _ => rfl, ?_, ?_⟩
      · intro left right leftHolds rightHolds
        simp only [Function.update_apply] at leftHolds rightHolds
        split at leftHolds
        · rename_i leftSame
          split at rightHolds
          · rename_i rightSame
            rw [leftSame, rightSame]
          · simp [noOwner right] at rightHolds
        · simp [noOwner left] at leftHolds
      · intro other stamp restores
        simp only [Function.update_apply] at restores
        split at restores
        · simp only [previousOf, Option.some.injEq] at restores
          exact restores ▸ free
        · exact exclusive.restores other stamp restores
  | under before after cached previous =>
      refine ⟨?_, ?_, ?_⟩
      · intro other _
        exact cached.trans (exclusive.shown thread before)
      · intro left right leftHolds rightHolds
        simp only [Function.update_apply] at leftHolds rightHolds
        have same : ∀ other : Nat,
            owns (if other = thread then next.2
              else process.threads other) = true → other = thread := by
          intro other holds
          by_contra different
          rw [if_neg different,
            exclusive.not_owns before different] at holds
          exact Bool.false_ne_true holds
        rw [same left leftHolds, same right rightHolds]
      · intro other stamp restores
        simp only [Function.update_apply] at restores
        split at restores
        · exact exclusive.restores thread stamp (previous stamp restores)
        · exact exclusive.restores other stamp restores
  | ended stamp before here =>
      have noOwner : ∀ other : Nat,
          owns (if other = thread then RefreshPc.idle
            else process.threads other) = false := by
        intro other
        split
        · rfl
        · rename_i different
          exact exclusive.not_owns before different
      refine ⟨?_, ?_, ?_⟩
      · intro other holds
        simp only [Function.update_apply] at holds
        simp [noOwner other] at holds
      · intro left right leftHolds
        simp only [Function.update_apply] at leftHolds
        simp [noOwner left] at leftHolds
      · intro other previous restores
        simp only [Function.update_apply] at restores
        split at restores
        · simp [previousOf] at restores
        · exact exclusive.restores other previous restores

end ChaosLibs.Io.RefreshThreads
