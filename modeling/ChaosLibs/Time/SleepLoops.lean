import ChaosLibs.Machine.LabelledRun
import ChaosLibs.Time.Wrappers

/-!
# Programs that sleep and read clocks

The loop that sleeps on after a signal, with what the call before left; the loop that waits
for a deadline on a shifted clock; and the four ways to read the wall clock.  Real time is
in nanoseconds.  Other threads count hits between the calls.
-/

namespace ChaosLibs.Time.SleepLoops

open ChaosLibs.Common.HitSlots
open ChaosLibs.Machine
open ChaosLibs.Time.ClockTimes
open ChaosLibs.Time.ConfigParser
open ChaosLibs.Time.DeadlineCorrection (ChaosTimeEffect Carried undoesRegress)
open ChaosLibs.Time.Wrappers

/-- How far a loop is: it goes on, its sleep is over, or a call has failed. -/
inductive Progress where
  | waits
  | finished
  | failed (errnum : Nat)
deriving DecidableEq

/-- What the kernel makes of a sleep. -/
inductive Answer where
  | slept (wake : Int)
  | interrupted (wake : Int) (remaining : Timespec)
  | failed (wake : Int) (errnum : Nat)

/-! ## A sleep that is resumed -/

/-- The calls that tell what is left of a sleep. -/
inductive SleepCall where
  | nanosleep
  | clockNanosleep (clock : Int)

def SleepCall.issue (meeting : Meeting) (slots : Slots) (request : Timespec) :
    SleepCall → SleepOutcome
  | .nanosleep => Wrappers.nanosleep meeting slots request
  | .clockNanosleep clock => Wrappers.clockNanosleep meeting slots clock false request

/-- A thread in `while (nanosleep(&request, &remaining) && errno == EINTR) request = remaining`. -/
structure Sleeper where
  now : Int
  request : Timespec
  remaining : Timespec
  slots : Slots
  progress : Progress

inductive SleepLabel where
  /-- A call that, behind its LATENCY, comes to the kernel or returns at `begins`. -/
  | call (call : SleepCall) (meeting : Meeting) (begins : Int) (answer : Answer)
  | others (slots : Slots)

/-- The kernel sleeps for the request, or says at least what is left of it. -/
def sleepKernel (state : Sleeper) (begins : Int) (slots : Slots) (request : Timespec) :
    Answer → Option Sleeper
  | .slept wake =>
      if begins + request.ns ≤ wake then
        some { state with now := wake, slots := slots, progress := .finished }
      else none
  | .interrupted wake remaining =>
      if begins ≤ wake ∧ begins + request.ns ≤ wake + remaining.ns then
        some
          { state with
            now := wake
            slots := slots
            request := remaining
            remaining := remaining }
      else none
  | .failed wake errnum =>
      if begins ≤ wake ∧ errnum ≠ eintr then
        some { state with now := wake, slots := slots, progress := .failed errnum }
      else none

/-- The loop on an error that was injected; the buffer may be left as it was. -/
def sleepInjected (state : Sleeper) (begins : Int) (slots : Slots) (errnum : Nat)
    (written : Option Timespec) : Sleeper :=
  if errnum = eintr then
    { state with
      now := begins
      slots := slots
      request := written.getD state.remaining
      remaining := written.getD state.remaining }
  else { state with now := begins, slots := slots, progress := .failed errnum }

/-- One step of the loop. -/
def sleepStep (state : Sleeper) : SleepLabel → Option Sleeper
  | .others slots => some { state with slots := slots }
  | .call call meeting begins answer =>
      if state.progress ≠ .waits ∨ begins < state.now then none
      else
        match (call.issue meeting state.slots state.request).result with
        | .error (errnum, written) =>
            some (sleepInjected state begins
              (call.issue meeting state.slots state.request).slots errnum written)
        | .ok request =>
            sleepKernel state begins (call.issue meeting state.slots state.request).slots
              request answer

/-- What a relative sleep comes to: the whole request goes to the kernel, and an injected
interruption leaves the whole request. -/
theorem issue_cases (call : SleepCall) (meeting : Meeting) (slots : Slots)
    (request : Timespec) :
    (call.issue meeting slots request).result = .ok request ∨
      ∃ errnum, (call.issue meeting slots request).result =
        .error (errnum, if errnum = eintr then some request else none) := by
  cases call with
  | nanosleep =>
      dsimp only [SleepCall.issue, Wrappers.nanosleep]
      split
      · exact Or.inr ⟨_, rfl⟩
      · exact Or.inl rfl
  | clockNanosleep clock =>
      dsimp only [SleepCall.issue, Wrappers.clockNanosleep]
      split
      · next errnum _ =>
          refine Or.inr ⟨errnum, ?_⟩
          simp only [and_true]
      · exact Or.inl rfl

/-- Until a time, there is to be slept. -/
structure Owes (due : Int) (state : Sleeper) : Prop where
  waits : state.progress = .waits → due ≤ state.now + state.request.ns
  finished : state.progress = .finished → due ≤ state.now

theorem Owes.step {due : Int} {state next : Sleeper} {label : SleepLabel}
    (owes : Owes due state) (stepped : sleepStep state label = some next) :
    Owes due next := by
  cases label with
  | others slots => exact Option.some.inj stepped ▸ ⟨owes.waits, owes.finished⟩
  | call call meeting begins answer =>
      dsimp only [sleepStep] at stepped
      split at stepped
      · cases stepped
      next waiting =>
        rw [not_or, not_not] at waiting
        have left := owes.waits waiting.1
        rcases issue_cases call meeting state.slots state.request with result | ⟨errnum, result⟩
        · rw [result] at stepped
          cases answer with
          | slept wake =>
              dsimp only [sleepKernel] at stepped
              split at stepped
              · cases stepped
                exact ⟨nofun, fun _ => by dsimp only; omega⟩
              · cases stepped
          | interrupted wake remaining =>
              dsimp only [sleepKernel] at stepped
              split at stepped
              · cases stepped
                exact ⟨fun _ => by dsimp only; omega, fun finished => by
                  rw [waiting.1] at finished; cases finished⟩
              · cases stepped
          | failed wake errnum =>
              dsimp only [sleepKernel] at stepped
              split at stepped
              · cases stepped
                exact ⟨nofun, nofun⟩
              · cases stepped
        · rw [result] at stepped
          dsimp only at stepped
          cases stepped
          unfold sleepInjected
          split
          · exact ⟨fun _ => by dsimp only [Option.getD]; omega, fun finished => by
              rw [waiting.1] at finished; cases finished⟩
          · exact ⟨nofun, nofun⟩

/-- A rule with no qualifier that always fires. -/
def certainRule (kind : ChaosTimeSelectorKind) (effect : ChaosTimeEffect) (errnum : Nat)
    (offsetMs : Int) (hit : Option (SlotId chaosTimeMaxRules)) : ChaosTimeRule where
  probability := ⟨1, 1⟩
  policy := {}
  callSize := 2 ^ 64 - 1
  hit := hit
  hitGeneration := 0
  selector := ⟨kind, 0⟩
  effect := effect
  errnum := errnum
  latencyMs := 0
  offsetMs := offsetMs

/-- A call under these rules. -/
def meetingOf (rules : List ChaosTimeRule) : Meeting :=
  ⟨fun _ => rules, fun _ => 0, fun _ => 0⟩

def zeroSlots : Slots := fun _ => HitSlot.zero

/-- `nanosleep:ERRNO:EINTR`. -/
def injectsEintr : Meeting :=
  meetingOf [certainRule (.operation .nanosleep) .errno eintr 0 none]

/-- An injected interruption, one by a signal after two seconds, and the rest. -/
def interruptedTwice : List SleepLabel :=
  [.call .nanosleep injectsEintr 100 (.slept 0),
    .call (.clockNanosleep 1) (meetingOf []) 100 (.interrupted 2000000100 ⟨1, 5⟩),
    .call .nanosleep (meetingOf []) 2000000200 (.slept 3000000205)]

/-- The calls that read a clock. -/
inductive Reader where
  | clockGettime (clock : Int)
  | gettimeofday
  | time
  | timespecGet

/-- The clock that a call reads. -/
def Reader.clock : Reader → Int
  | .clockGettime clock => clock
  | .gettimeofday | .time | .timespecGet => clockRealtime

/-- The nanoseconds that a call tells apart. -/
def Reader.grain : Reader → Int
  | .clockGettime _ | .timespecGet => 1
  | .gettimeofday => 1000
  | .time => 1000000000

/-- The nanoseconds since the epoch that a call returns. -/
def Reader.shows (meeting : Meeting) (slots : Slots) (real : Except Nat Timespec) :
    Reader → Except Nat Int
  | .clockGettime clock =>
      (Wrappers.clockGettime meeting clock slots real).result.map Timespec.ns
  | .gettimeofday =>
      (Wrappers.gettimeofday meeting slots real none).result.map fun value =>
        value.sec * 1000000000 + value.usec * 1000
  | .time => (Wrappers.time meeting slots real).result.map fun seconds => seconds * 1000000000
  | .timespecGet => (Wrappers.timespecGet meeting slots real).result.map Timespec.ns

/-- What a call makes of the clock's reading, in nanoseconds. -/
def Reader.returned (value : Timespec) : Reader → Int
  | .clockGettime _ | .timespecGet => value.ns
  | .gettimeofday => value.sec * 1000000000 + value.nsec.tdiv 1000 * 1000
  | .time => value.sec * 1000000000

theorem Reader.grain_pos (reader : Reader) : 0 < reader.grain := by
  cases reader
  · exact Int.one_pos
  · exact of_decide_eq_true rfl
  · exact of_decide_eq_true rfl
  · exact Int.one_pos

/-- Every call reads the clock as `clock_gettime` does. -/
theorem Reader.shows_eq_map (meeting : Meeting) (slots : Slots) (real : Except Nat Timespec)
    (reader : Reader) :
    reader.shows meeting slots real =
      (Wrappers.chaosTimeReadClock meeting reader.clock slots real).result.map fun value =>
        reader.returned value := by
  cases reader with
  | clockGettime clock => rfl
  | gettimeofday =>
      dsimp only [shows, clock, Wrappers.gettimeofday]
      cases (Wrappers.chaosTimeReadClock meeting clockRealtime slots real).result <;> rfl
  | time =>
      dsimp only [shows, clock, Wrappers.time]
      cases (Wrappers.chaosTimeReadClock meeting clockRealtime slots real).result <;> rfl
  | timespecGet => rfl

/-- A call returns the reading, cut to its grain. -/
theorem Reader.returned_eq (reader : Reader) {value : Timespec} (reading : value.Reading) :
    reader.returned value = value.ns - value.ns % reader.grain := by
  have nonneg := reading.nsec
  have below := reading.below
  cases reader with
  | clockGettime clock => exact (by rw [grain, Int.emod_one, Int.sub_zero]; rfl)
  | gettimeofday =>
      rw [returned, grain, Timespec.ns, Int.tdiv_eq_ediv_of_nonneg nonneg]
      omega
  | time =>
      rw [returned, grain, Timespec.ns]
      omega
  | timespecGet => exact (by rw [grain, Int.emod_one, Int.sub_zero]; rfl)

/-! ## A clock that is shifted -/

/-- Every reading of a clock carries the same shift: an OFFSET that fires each time, and a
REGRESS that has jumped. -/
structure Shifted (meeting : Meeting) (clock : Int) (slots : Slots) (offsetMs regressMs : Int) :
    Prop where
  carried : Carried (clockRules meeting clock) (shiftMoment meeting slots)
  offset : (clockRules meeting clock).offsetMs = offsetMs
  regress : (clockRules meeting clock).regressMs = regressMs

variable {meeting : Meeting} {clock offsetMs regressMs : Int} {slots after : Slots}

theorem current_of_sameRules (same : SameRules slots after) (slot : SlotId chaosTimeMaxRules)
    (generation : Nat) :
    chaosHitSlotCurrent (after slot) generation = chaosHitSlotCurrent (slots slot) generation := by
  rw [chaosHitSlotCurrent, chaosHitSlotCurrent, (same slot).1]

/-- Hits of other calls do not take the shift away. -/
theorem Shifted.of_sameRules (shifted : Shifted meeting clock slots offsetMs regressMs)
    (same : SameRules slots after) : Shifted meeting clock after offsetMs regressMs where
  offset := shifted.offset
  regress := shifted.regress
  carried :=
    { offset := by
        intro rule there
        rcases shifted.carried.offset rule there with ⟨undoes, current⟩
        exact ⟨undoes, fun slot own =>
          (current_of_sameRules same slot _).trans (current slot own)⟩
      regress := by
        intro rule there
        rcases shifted.carried.regress rule there with ⟨undoes, step⟩
        refine ⟨?_, step⟩
        unfold undoesRegress at undoes ⊢
        cases own : rule.gates.hit with
        | none =>
            rw [own] at undoes
            exact undoes
        | some slot =>
            rw [own] at undoes
            dsimp only [shiftMoment] at undoes ⊢
            rw [current_of_sameRules same, (same slot).2]
            exact undoes }

theorem Shifted.regressMs_nonneg (shifted : Shifted meeting clock slots offsetMs regressMs) :
    0 ≤ regressMs := by
  rw [← shifted.regress]
  exact shifted.carried.regressMs_nonneg

/-- What a shifted clock shows. -/
def shownNs (offsetMs regressMs ns : Int) : Int :=
  max 0 (max 0 (ns + shiftNs offsetMs) - shiftNs regressMs)

/-- When the real clock comes to what the shifted one is to show. -/
def realNs (offsetMs regressMs ns : Int) : Int :=
  max 0 (max 0 (ns - shiftNs offsetMs) + shiftNs regressMs)

theorem shownNs_mono (offsetMs regressMs : Int) {earlier later : Int}
    (ordered : earlier ≤ later) :
    shownNs offsetMs regressMs earlier ≤ shownNs offsetMs regressMs later := by
  unfold shownNs
  omega

/-- By then it shows it. -/
theorem le_shownNs {regressMs ns real : Int} (step : 0 ≤ regressMs) (offsetMs : Int)
    (come : realNs offsetMs regressMs ns ≤ real) : ns ≤ shownNs offsetMs regressMs real := by
  unfold realNs at come
  unfold shownNs
  simp only [shiftNs] at come ⊢
  omega

/-- A reading that no ERRNO keeps from the program is the shifted one. -/
theorem readClock_eq (shifted : Shifted meeting clock slots offsetMs regressMs)
    {real value : Timespec} (reading : real.Reading)
    (read : (Wrappers.chaosTimeReadClock meeting clock slots (.ok real)).result = .ok value) :
    value = ofNs (shownNs offsetMs regressMs real.ns) := by
  unfold Wrappers.chaosTimeReadClock at read
  dsimp only at read
  split at read
  · cases read
  · have still := shifted.of_sameRules (sameRules_faults meeting .clockGettime clock slots)
    rw [← Except.ok.inj read, DeadlineCorrection.chaosTimeReadClock_eq still.carried reading,
      still.offset, still.regress]
    rfl

/-- Whichever call reads a clock, it returns what the clock shows, to its own grain. -/
theorem shows_eq {reader : Reader}
    (shifted : Shifted meeting reader.clock slots offsetMs regressMs) {real : Timespec}
    (reading : real.Reading) {ns : Int} (shown : reader.shows meeting slots (.ok real) = .ok ns) :
    ns = shownNs offsetMs regressMs real.ns -
      shownNs offsetMs regressMs real.ns % reader.grain := by
  have after : 0 ≤ shownNs offsetMs regressMs real.ns := le_max_left _ _
  rw [Reader.shows_eq_map] at shown
  cases read : (Wrappers.chaosTimeReadClock meeting reader.clock slots (.ok real)).result with
  | error errnum =>
      rw [read] at shown
      cases shown
  | ok value =>
      rw [read] at shown
      have same := readClock_eq shifted reading read
      subst same
      rw [← Except.ok.inj shown]
      exact (reader.returned_eq (reading_ofNs after)).trans (by rw [ns_ofNs])

/-- Times keep their order when they are cut to a grain. -/
theorem cut_le_cut {earlier later grain : Int} (positive : 0 < grain)
    (ordered : earlier ≤ later) : earlier - earlier % grain ≤ later - later % grain := by
  rw [Int.emod_def, Int.emod_def, Int.sub_sub_self, Int.sub_sub_self]
  exact Int.mul_le_mul_of_nonneg_left (Int.ediv_le_ediv positive ordered) positive.le

/-- The realtime clock 1.5 s ahead, and 0.5 s back again. -/
def aheadAndBack : Meeting :=
  meetingOf [certainRule (.clockId 0 []) .offset 0 1500 none,
    certainRule (.clockId 0 []) .regress 0 500 (some 0)]

/-- The REGRESS rule has jumped. -/
def jumpedSlots : Slots := fun _ => { HitSlot.zero with state := 2 }

theorem shifted_aheadAndBack : Shifted aheadAndBack clockRealtime jumpedSlots 1500 500 where
  carried :=
    { offset := by
        intro rule there
        cases there
        exact ⟨rfl, nofun⟩
      regress := by
        intro rule there
        cases there
        exact ⟨rfl, by decide⟩ }
  offset := rfl
  regress := rfl

/-- A thread that sleeps until a deadline. -/
structure Waiter where
  now : Int
  slots : Slots
  progress : Progress

inductive WaitLabel where
  | call (meeting : Meeting) (answer : Answer)
  | others (slots : Slots)

/-- The kernel sleeps until its clock comes to the deadline. -/
def waitKernel (state : Waiter) (slots : Slots) (deadline : Timespec) :
    Answer → Option Waiter
  | .slept wake =>
      if deadline.ns ≤ wake then some ⟨wake, slots, .finished⟩ else none
  | .interrupted wake _ => some ⟨wake, slots, state.progress⟩
  | .failed wake errnum => if errnum ≠ eintr then some ⟨wake, slots, .failed errnum⟩ else none

/-- One step of `while (clock_nanosleep(clock, TIMER_ABSTIME, &deadline, NULL) == EINTR);`. -/
def waitStep (clock : Int) (deadline : Timespec) (state : Waiter) :
    WaitLabel → Option Waiter
  | .others slots => some { state with slots := slots }
  | .call meeting answer =>
      if state.progress ≠ .waits then none
      else
        match (Wrappers.clockNanosleep meeting state.slots clock true deadline).result with
        | .error (errnum, _) =>
            some
              { state with
                slots := (Wrappers.clockNanosleep meeting state.slots clock true deadline).slots
                progress := if errnum = eintr then .waits else .failed errnum }
        | .ok request =>
            waitKernel state
              (Wrappers.clockNanosleep meeting state.slots clock true deadline).slots request
              answer

/-- What the thread's calls meet: the clock is shifted, always by the same. -/
def AlwaysShifted (clock offsetMs regressMs : Int) (state : Waiter) : WaitLabel → Prop
  | .others _ => True
  | .call meeting _ => Shifted meeting clock state.slots offsetMs regressMs

/-- When the wait is over, the real clock has come to what the shifted one is to show. -/
def ReachedOnce (offsetMs regressMs : Int) (deadline : Timespec) (state : Waiter) : Prop :=
  state.progress = .finished → realNs offsetMs regressMs deadline.ns ≤ state.now

theorem issued_deadline {deadline issued : Timespec} (reading : deadline.Reading)
    (shifted : Shifted meeting clock slots offsetMs regressMs)
    (result : (Wrappers.clockNanosleep meeting slots clock true deadline).result = .ok issued) :
    issued.ns = realNs offsetMs regressMs deadline.ns := by
  unfold Wrappers.clockNanosleep at result
  dsimp only at result
  split at result
  · cases result
  · have still := shifted.of_sameRules (sameRules_faults meeting .nanosleep 0 slots)
    rw [← Except.ok.inj result, DeadlineCorrection.clockNanosleep_eq still.carried reading,
      ns_ofNs, still.offset, still.regress]
    rfl

theorem reachedOnce_step {deadline : Timespec} (reading : deadline.Reading)
    {state next : Waiter} {label : WaitLabel}
    (reached : ReachedOnce offsetMs regressMs deadline state)
    (shifted : AlwaysShifted clock offsetMs regressMs state label)
    (stepped : waitStep clock deadline state label = some next) :
    ReachedOnce offsetMs regressMs deadline next := by
  cases label with
  | others slots => exact Option.some.inj stepped ▸ reached
  | call meeting answer =>
      dsimp only [waitStep] at stepped
      split at stepped
      · cases stepped
      next waiting =>
        split at stepped
        · cases stepped
          intro finished
          dsimp only at finished
          split at finished <;> cases finished
        · next issued result =>
            have placed := issued_deadline reading shifted result
            cases answer with
            | slept wake =>
                dsimp only [waitKernel] at stepped
                split at stepped
                · cases stepped
                  exact fun _ => by dsimp only; omega
                · cases stepped
            | interrupted wake remaining =>
                cases stepped
                intro finished
                rw [not_not.mp waiting] at finished
                cases finished
            | failed wake errnum =>
                dsimp only [waitKernel] at stepped
                split at stepped
                · cases stepped
                  exact fun finished => Progress.noConfusion finished
                · cases stepped

/-- Under these rules the realtime clock is shifted, and absolute sleeps are interrupted. -/
def aheadAndInterrupted : Meeting :=
  meetingOf (certainRule (.operation .nanosleep) .errno eintr 0 none ::
    (aheadAndBack.rules .offset))

theorem shifted_aheadAndInterrupted :
    Shifted aheadAndInterrupted clockRealtime jumpedSlots 1500 500 where
  carried :=
    { offset := by
        intro rule there
        cases there
        exact ⟨rfl, nofun⟩
      regress := by
        intro rule there
        cases there
        exact ⟨rfl, by decide⟩ }
  offset := rfl
  regress := rfl

/-- A wait for 13 s on the shifted clock, which is 12 s on the real one. -/
def waitsForThirteen : List WaitLabel :=
  [.call aheadAndInterrupted (.slept 0), .call aheadAndBack (.interrupted 11000000000 ⟨0, 0⟩),
    .call aheadAndBack (.slept 12000000000)]

end ChaosLibs.Time.SleepLoops
