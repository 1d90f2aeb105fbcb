import ChaosLibs.Io.RefreshThreads

/-!
# Retries after a transient read failure

A claimed reload whose read fails for now restores the stamp it found.  The
next call reads the file again when the stamp it observes differs from that
one.  When the failed read was itself a provisional re-read of an equal stamp,
the restored stamp is the observed one, and the provisional flag is gone: it
was cleared with the claim.  The next call then takes the snapshot for current.
-/

namespace ChaosLibs.Io.RefreshRetry

open ChaosLibs.Machine
open ChaosLibs.Common.CString
open ChaosLibs.Io.ChangeStamp
open ChaosLibs.Io.Refresh
open ChaosLibs.Io.RefreshThreads

/-! ## The machine -/

/--
A process with a ghost record: `failed` is the stamp restored by the last
claimed reload when its read failed, and no reload has been claimed since;
`begun` tells the calls that began after that failure; `missed` is set when
such a call, past the throttle, returns without claiming a reload.
-/
structure State where
  process : Process
  failed : Option UInt64
  begun : Nat → Bool
  missed : Bool

/-- After `chaos_io_config_init`. -/
def initial : State :=
  ⟨Process.initial, none, fun _ => false, false⟩

/-- Past the throttle and before the claim. -/
def checking : RefreshPc → Bool
  | .stat | .loadStamp _ | .testProvisional _ | .testLinks _ | .claim _ _ =>
      true
  | _ => false

/-- The failure that is pending after a step from `before` to `after`. -/
def pendingAfter (failed : Option UInt64) (before after : RefreshPc) :
    Option UInt64 :=
  match before with
  | .fail previous => some previous
  | _ => if !owns before && owns after then none else failed

/-- The calls that began since the last failure, after a step of `thread`. -/
def begunAfter (begun : Nat → Bool) (thread : Nat) : RefreshPc → Nat → Bool
  | .fail _ => fun _ => false
  | .idle => Function.update begun thread true
  | _ => begun

/-- A call that begins leaves the other threads' marks alone. -/
theorem begunAfter_idle_of_ne (begun : Nat → Bool) {thread other : Nat}
    (different : other ≠ thread) :
    begunAfter begun thread .idle other = begun other :=
  Function.update_of_ne different _ _

/-- A thread's next step, with the answers it gets. -/
structure Action where
  thread : Nat
  answers : Answers

/-- One step of the process. -/
def step (state : State) (action : Action) : Option State :=
  let before := state.process.threads action.thread
  let process := state.process.advance action.thread action.answers
  let after := process.threads action.thread
  some
    { process := process
      failed := pendingAfter state.failed before after
      begun := begunAfter state.begun action.thread before
      missed := state.missed ||
        (state.begun action.thread && state.failed.isSome && checking before &&
          after == .idle) }

/-! ## The invariant -/

/-- What a call that began after the failure knows of the restored stamp. -/
def SawRestored (previous : UInt64) : RefreshPc → Prop
  | .testProvisional observed | .testLinks observed => observed = previous
  | .claim _ cached => cached = previous
  | _ => True

/-- The claim is held, and the file has not been read to its end. -/
def reading : RefreshPc → Bool
  | .openFile _ _ | .readFile _ _ _ | .statFile _ _ _ | .fail _ => true
  | _ => false

/-- While a failure is pending, its stamp is cached and nothing is provisional. -/
structure RetryInvariant (state : State) : Prop where
  exclusive : Exclusive state.process
  cached : ∀ previous, state.failed = some previous →
    state.process.cache.cached = previous ∧
      state.process.cache.provisional = false ∧
      previous ≠ chaosIoMtimeReloading
  saw : ∀ previous thread, state.failed = some previous →
    state.begun thread = true →
      SawRestored previous (state.process.threads thread)
  cleared : ∀ thread, reading (state.process.threads thread) = true →
    state.process.cache.provisional = false

theorem retryInvariant_initial : RetryInvariant initial where
  exclusive := exclusive_initial
  cached := by simp [initial]
  saw := by simp [initial]
  cleared := by simp [initial, Process.initial, reading]

theorem owns_of_reading {pc : RefreshPc} (reads : reading pc = true) :
    owns pc = true := by
  cases pc <;> simp [reading] at reads <;> rfl

/-- A reading thread has cleared the provisional flag and not set it since. -/
theorem provisional_of_reading
    {cache : Cache} {pc : RefreshPc} {answers : Answers}
    (before : reading pc = true → cache.provisional = false)
    (after : reading (advance cache pc answers).2 = true) :
    (advance cache pc answers).1.provisional = false := by
  cases pc with
  | clearProvisional observed previous => rfl
  | openFile observed previous =>
      have cleared := before rfl
      simp only [advance]
      split <;> exact cleared
  | readFile observed previous data =>
      have cleared := before rfl
      simp only [advance]
      split <;> exact cleared
  | statFile observed previous data =>
      have cleared := before rfl
      simp only [advance]
      split
      · exact cleared
      · split <;> exact cleared
  | idle => simp only [advance] at after; split at after <;> simp [reading] at after
  | throttle =>
      simp only [advance] at after; split at after <;> simp [reading] at after
  | stat => simp [advance, reading] at after
  | loadStamp observed =>
      simp only [advance] at after; split at after <;> simp [reading] at after
  | testProvisional observed =>
      simp only [advance] at after; split at after <;> simp [reading] at after
  | testLinks observed =>
      simp only [advance] at after; split at after <;> simp [reading] at after
  | claim observed cached =>
      simp only [advance] at after
      split at after
      · simp [reading] at after
      · split at after <;> simp [reading] at after
  | forgetContent => simp [advance, reading] at after
  | readClock observed previous data stat => simp [advance, reading] at after
  | compare observed previous data =>
      simp only [advance] at after; split at after <;> simp [reading] at after
  | linksDue observed previous data =>
      simp only [advance] at after; split at after <;> simp [reading] at after
  | linksMoved observed previous data =>
      simp only [advance] at after; split at after <;> simp [reading] at after
  | linksKept previous => simp [advance, reading] at after
  | resolve observed content loaded => simp [advance, reading] at after
  | storeContent observed content snapshot => simp [advance, reading] at after
  | publish observed snapshot => simp [advance, reading] at after
  | storeStamp observed => simp [advance, reading] at after
  | keep previous => simp [advance, reading] at after
  | fail previous => simp [advance, reading] at after

/-- Before the claim a step loads the restored stamp or keeps what it loaded. -/
theorem sawRestored_advance
    {cache : Cache} {pc : RefreshPc} {answers : Answers} {previous : UInt64}
    (cached : cache.cached = previous)
    (before : owns pc = false) (saw : SawRestored previous pc) :
    SawRestored previous (advance cache pc answers).2 := by
  cases pc <;> simp only [owns, reduceCtorEq] at before
  case idle => simp only [advance]; split <;> trivial
  case throttle => simp only [advance]; split <;> trivial
  case stat => trivial
  case loadStamp observed =>
    simp only [advance]
    split
    · rename_i same
      exact same.symm.trans cached
    · exact cached
  case testProvisional observed =>
    simp only [advance]
    split <;> exact saw
  case testLinks observed =>
    simp only [advance]
    split
    · exact saw
    · trivial
  case claim observed loaded =>
    simp only [advance]
    split
    · trivial
    · split <;> trivial

theorem process_step (state : State) (action : Action) :
    (state.process.advance action.thread action.answers).threads action.thread =
      (advance state.process.cache (state.process.threads action.thread)
        action.answers).2 := by
  simp [Process.advance]

/-- While a failure is pending, no thread holds the claim. -/
theorem RetryInvariant.not_owns
    {state : State} (retry : RetryInvariant state) {previous : UInt64}
    (pending : state.failed = some previous) (thread : Nat) :
    owns (state.process.threads thread) = false := by
  by_contra holds
  have shown :=
    retry.exclusive.shown thread (Bool.eq_true_of_not_eq_false holds)
  rcases retry.cached previous pending with ⟨cached, -, regular⟩
  exact regular (cached.symm.trans shown)

/-- A failure is pending after a step if it has just happened or was pending. -/
theorem pendingAfter_eq_some
    {failed : Option UInt64} {before after : RefreshPc} {previous : UInt64}
    (pending : pendingAfter failed before after = some previous) :
    before = .fail previous ∨
      (∀ stamp, before ≠ .fail stamp) ∧ failed = some previous ∧
        (owns before = false → owns after = false) := by
  unfold pendingAfter at pending
  split at pending
  · rename_i stamp
    rw [Option.some.injEq] at pending
    exact Or.inl (pending ▸ rfl)
  · rename_i notFail
    split at pending
    · simp at pending
    · rename_i notWon
      refine Or.inr ⟨notFail, pending, ?_⟩
      intro outside
      simpa [outside] using notWon

/-- Every step keeps the invariant. -/
theorem retryInvariant_step
    {state next : State} {action : Action}
    (retry : RetryInvariant state) (stepped : step state action = some next) :
    RetryInvariant next := by
  have exclusive := exclusive_advance retry.exclusive action.thread action.answers
  have kind := claimStep_advance state.process.cache
    (state.process.threads action.thread) action.answers
  have reads := @provisional_of_reading state.process.cache
    (state.process.threads action.thread) action.answers
    (retry.cleared action.thread)
  have moves := @sawRestored_advance state.process.cache
    (state.process.threads action.thread) action.answers
  simp only [step, Option.some.injEq] at stepped
  subst stepped
  simp only [process_step]
  generalize moved : advance state.process.cache
    (state.process.threads action.thread) action.answers = after at *
  have cache : (state.process.advance action.thread action.answers).cache =
      after.1 := by
    simp only [Process.advance, moved]
  have threads : (state.process.advance action.thread action.answers).threads =
      Function.update state.process.threads action.thread after.2 := by
    simp only [Process.advance, moved]
  have cleared : ∀ thread,
      reading (Function.update state.process.threads action.thread after.2
        thread) = true → after.1.provisional = false := by
    intro thread reads'
    by_cases same : thread = action.thread
    · subst same
      exact reads (by simpa only [Function.update_self] using reads')
    · simp only [Function.update_of_ne same] at reads'
      have holds := owns_of_reading reads'
      have notOwner := retry.exclusive.not_owns holds (Ne.symm same)
      have before := retry.cleared thread reads'
      cases kind with
      | outside _ _ _ provisional _ _ => rw [provisional, before]
      | won _ _ _ => exact before
      | under owner _ _ _ => simp [notOwner] at owner
      | ended _ owner _ => simp [notOwner] at owner
  refine ⟨exclusive, ?_, ?_, ?_⟩
  · intro previous pending
    simp only [cache]
    rcases pendingAfter_eq_some pending with here | ⟨-, still, outside⟩
    · have restored : after.1 =
          { state.process.cache with cached := previous } := by
        rw [← moved, here]
        rfl
      rw [restored]
      exact ⟨rfl, retry.cleared action.thread (by simp [here, reading]),
        retry.exclusive.restores action.thread previous
          (by simp [here, previousOf])⟩
    · have notOwner := retry.not_owns still action.thread
      have stays := outside notOwner
      cases kind with
      | outside _ _ cached provisional _ _ =>
          rw [cached, provisional]
          exact retry.cached previous still
      | won observed here free => simp [owns] at stays
      | under before _ _ _ => simp [notOwner] at before
      | ended stamp before _ => simp [notOwner] at before
  · intro previous thread pending begun
    simp only [threads]
    rcases pendingAfter_eq_some pending with here | ⟨notFail, still, -⟩
    · rw [here] at begun
      exact Bool.noConfusion begun
    · have notOwner := retry.not_owns still action.thread
      by_cases same : thread = action.thread
      · subst same
        have before :
            SawRestored previous (state.process.threads action.thread) := by
          cases phase : state.process.threads action.thread with
          | fail stamp => exact absurd phase (notFail stamp)
          | idle => trivial
          | _ =>
              rw [phase] at begun
              rw [← phase]
              exact retry.saw previous action.thread still begun
        simpa only [Function.update_self] using
          moves (retry.cached previous still).1 notOwner before
      · have earlier : state.begun thread = true := by
          cases phase : state.process.threads action.thread with
          | fail stamp => exact absurd phase (notFail stamp)
          | idle =>
              rw [phase] at begun
              exact (begunAfter_idle_of_ne state.begun same).symm.trans begun
          | _ =>
              rw [phase] at begun
              exact begun
        simpa only [Function.update_of_ne same] using
          retry.saw previous thread still earlier
  · intro thread reads'
    simp only [cache]
    simp only [threads] at reads'
    exact cleared thread reads'

/-! ## Retries -/

/--
Every call that began after a transient failure and got past the throttle has
claimed a reload, and a reload whose call saw a file opens it next.
-/
structure Retries (state : State) : Prop where
  claimed : state.missed = false
  opens : ∀ thread observed previous answers,
    state.process.threads thread = .clearProvisional observed previous →
    observed ≠ chaosIoMtimeMissing →
    (state.process.advance thread answers).threads thread =
      .openFile observed previous

theorem retries_of_not_missed {state : State} (claimed : state.missed = false) :
    Retries state := by
  refine ⟨claimed, ?_⟩
  intro thread observed previous answers phase present
  simp [Process.advance, phase, advance, present]

/--
Condition on a call that began after a transient failure, at its last test:
it observed another stamp than the one the failed reload restored, or the
links of the active snapshot are due for a re-check.
-/
def StampChangedOrLinksDue (state : State) (action : Action) : Prop :=
  ∀ previous observed, state.failed = some previous →
    state.begun action.thread = true →
    state.process.threads action.thread = .testLinks observed →
    observed ≠ previous ∨
      chaosIoConfigLinksDue state.process.cache.active
        action.answers.monotonicMs = true

/-- A call past the throttle gives up only at the link test. -/
theorem RetryInvariant.idle_of_checking
    {state : State} (retry : RetryInvariant state) {previous : UInt64}
    {thread : Nat} {answers : Answers}
    (pending : state.failed = some previous) (begun : state.begun thread = true)
    (past : checking (state.process.threads thread) = true)
    (idle : (advance state.process.cache (state.process.threads thread)
      answers).2 = .idle) :
    ∃ observed, state.process.threads thread = .testLinks observed ∧
      chaosIoConfigLinksDue state.process.cache.active
        answers.monotonicMs = false := by
  have saw := retry.saw previous thread pending begun
  rcases retry.cached previous pending with ⟨cached, -, regular⟩
  cases phase : state.process.threads thread <;>
    simp only [phase, checking, reduceCtorEq] at past
  case stat => simp [phase, advance] at idle
  case loadStamp observed =>
    simp only [phase, advance] at idle
    split at idle <;> simp at idle
  case testProvisional observed =>
    simp only [phase, advance] at idle
    split at idle <;> simp at idle
  case testLinks observed =>
    simp only [phase, advance] at idle
    split at idle
    · simp at idle
    · rename_i notDue
      exact ⟨observed, rfl, Bool.eq_false_of_not_eq_true notDue⟩
  case claim observed loaded =>
    -- the loaded stamp is the restored one, so the compare-and-swap wins
    simp only [phase, SawRestored] at saw
    simp [phase, advance, saw, regular, cached] at idle

/-- The invariant together with the property it is for. -/
structure RetryingInvariant (state : State) : Prop where
  retry : RetryInvariant state
  retries : Retries state

/--
In every run, every call that begins after a transient read failure and gets
past the throttle claims a reload, exactly as long as each observes another
stamp than the restored one or meets links that are due.
-/
theorem retries_throughout_iff (labels : List Action) :
    Throughout step Retries initial labels ↔
      Meets step StampChangedOrLinksDue initial labels := by
  have within : ∀ label ∈ labels, True := fun _ _ => trivial
  have start : RetryingInvariant initial :=
    ⟨retryInvariant_initial, retries_of_not_missed rfl⟩
  refine throughout_iff_meets ?_ ?_ ?_ within start
  · rintro state action next - ⟨retry, retries⟩ changed stepped
    refine ⟨retryInvariant_step retry stepped, retries_of_not_missed ?_⟩
    simp only [step, Option.some.injEq] at stepped
    subst stepped
    by_contra missed
    simp only [process_step, retries.claimed, Bool.false_or,
      Bool.not_eq_false, Bool.and_eq_true, beq_iff_eq,
      Option.isSome_iff_exists] at missed
    rcases missed with ⟨⟨⟨begun, previous, pending⟩, past⟩, idle⟩
    rcases retry.idle_of_checking pending begun past idle with
      ⟨observed, phase, notDue⟩
    have saw := retry.saw previous action.thread pending begun
    simp only [phase, SawRestored] at saw
    rcases changed previous observed pending begun phase with
      different | due
    · exact different saw
    · rw [notDue] at due
      exact Bool.false_ne_true due
  · rintro state ⟨-, retries⟩
    exact retries
  · rintro state action next - ⟨retry, -⟩ unchanged stepped retries
    unfold StampChangedOrLinksDue at unchanged
    push Not at unchanged
    rcases unchanged with ⟨previous, observed, pending, begun, phase, -, notDue⟩
    simp only [step, Option.some.injEq] at stepped
    subst stepped
    have claimed := retries.claimed
    simp [process_step, pending, begun, phase, checking, advance, notDue]
      at claimed

/-! ## A provisional re-read that fails -/

/-- A rule file written 5 ms after the epoch of the wall clock's second 1000. -/
def freshStat : FileStat :=
  ⟨1000, 5000000, 16, 7, 1⟩

/-- One step of thread 0. -/
def step0 (answers : Answers) : Action :=
  ⟨0, answers⟩

/--
The first call loads the fresh file, so its load is provisional; the second,
a provisional re-read, finds no descriptor for its `open`; the third observes
the same stamp.
-/
def failedReread : List Action :=
  [step0 {}, step0 { stat := some freshStat }, step0 {}, step0 {}, step0 {},
    step0 { opened := .opened },
    step0 { read := .bytes (bytes "/a:open:EIO:1.0\n") },
    step0 { read := .bytes [] }, step0 { fstat := some freshStat },
    step0 { realtimeMs := 1000008 }, step0 {}, step0 {}, step0 {}, step0 {},
    step0 {}] ++
  [step0 {}, step0 { monotonicNs := 5000000 },
    step0 { stat := some freshStat }, step0 {}, step0 {}, step0 {}, step0 {},
    step0 { opened := .failed }, step0 {}] ++
  [step0 {}, step0 { monotonicNs := 10000000 },
    step0 { stat := some freshStat }, step0 {}, step0 {}, step0 {}]

/-- The third call returns without a reload. -/
theorem failedReread_misses_retry :
    ∃ final, run step initial failedReread = some final ∧
      final.failed = some (chaosIoConfigHashMtime freshStat) ∧
      final.begun 0 = true ∧ final.process.threads 0 = .idle ∧
      final.process.cache.cached = chaosIoConfigHashMtime freshStat ∧
      final.process.cache.provisional = false ∧
      ¬ Retries final := by
  have ended :
      (run step initial failedReread).map
          (fun final =>
            (final.failed, final.begun 0, final.process.threads 0,
              final.process.cache.cached, final.process.cache.provisional,
              final.missed)) =
        some (some (chaosIoConfigHashMtime freshStat), true, .idle,
          chaosIoConfigHashMtime freshStat, false, true) := by
    decide +kernel
  rcases Option.map_eq_some_iff.mp ended with ⟨final, ran, values⟩
  simp only [Prod.mk.injEq] at values
  rcases values with ⟨failed, begun, idle, cached, provisional, missed⟩
  refine ⟨final, ran, failed, begun, idle, cached, provisional, ?_⟩
  intro retries
  rw [retries.claimed] at missed
  exact Bool.false_ne_true missed

end ChaosLibs.Io.RefreshRetry
