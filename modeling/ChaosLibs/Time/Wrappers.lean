import ChaosLibs.Time.ConfigParser

/-!
# The wrappers of libchaos-time

The calls of `chaos_time_hooks.c` outside the library's own code: LATENCY and ERRNO before
the real call, OFFSET and REGRESS behind a reading.  `gettimeofday`, `time` and
`timespec_get` are readings of the realtime clock, and an absolute sleep waits for the
deadline that the real clock will show.
-/

namespace ChaosLibs.Time.Wrappers

open ChaosLibs.Common.HitSlots
open ChaosLibs.Common.RuleFiring
open ChaosLibs.Time.ClockTimes
open ChaosLibs.Time.ConfigParser
open ChaosLibs.Time.DeadlineCorrection (ChaosTimeEffect ClockRules Carried)

/-- The slots of libchaos-time. -/
abbrev Slots := Pool chaosTimeMaxRules

/-- What a call meets when it asks for an effect: the rules as they are loaded by then, the
wall clock, and the draw. -/
structure Meeting where
  rules : ChaosTimeEffect → List ChaosTimeRule
  now : ChaosTimeEffect → Int
  sample : ChaosTimeEffect → UInt32

/-- `chaos_time_config_match`. -/
def chaosTimeConfigMatch (meeting : Meeting) (effect : ChaosTimeEffect)
    (operation : ChaosTimeOperation) (clock : Int) : Option ChaosTimeRule :=
  chaosTimeConfigSelectRule (meeting.rules effect) effect operation clock

/-- `chaos_time_rule_should_trigger`: the slots after the hit, when the rule fires. -/
def chaosTimeRuleShouldTrigger (rule : ChaosTimeRule) (meeting : Meeting) (slots : Slots) :
    Option Slots :=
  ruleShouldTrigger rule.toGates (meeting.now rule.effect) (meeting.sample rule.effect) slots

/-! ## Before the real call -/

/-- The sleeps of a delay, in microseconds: a second each but for the last. -/
def delayChunks (remainingUs : Nat) : List Nat :=
  if remainingUs = 0 then []
  else
    let chunk := if 1000000 < remainingUs then 1000000 else remainingUs
    chunk :: delayChunks (remainingUs - chunk)
termination_by remainingUs
decreasing_by
  split <;> omega

/-- `chaos_time_rule_apply_latency`: what it sleeps. -/
def chaosTimeRuleApplyLatency (rule : ChaosTimeRule) (meeting : Meeting) (slots : Slots) :
    List Nat × Slots :=
  if rule.effect ≠ .latency then ([], slots)
  else
    match chaosTimeRuleShouldTrigger rule meeting slots with
    | none => ([], slots)
    | some after => (delayChunks (rule.latencyMs * 1000), after)

/-- `chaos_time_rule_apply_errno`: the error it sets. -/
def chaosTimeRuleApplyErrno (rule : ChaosTimeRule) (meeting : Meeting) (slots : Slots) :
    Option (Nat × Slots) :=
  if rule.effect ≠ .errno then none
  else (chaosTimeRuleShouldTrigger rule meeting slots).map fun after => (rule.errnum, after)

/-- What comes before a real call. -/
structure Before where
  slept : List Nat
  injected : Option Nat
  slots : Slots

/-- LATENCY and then ERRNO, each with its own look for a rule. -/
def faults (meeting : Meeting) (operation : ChaosTimeOperation) (clock : Int)
    (slots : Slots) : Before :=
  let delayed :=
    match chaosTimeConfigMatch meeting .latency operation clock with
    | none => ([], slots)
    | some rule => chaosTimeRuleApplyLatency rule meeting slots
  match (chaosTimeConfigMatch meeting .errno operation clock).bind fun rule =>
      chaosTimeRuleApplyErrno rule meeting delayed.2 with
  | none => ⟨delayed.1, none, delayed.2⟩
  | some (errnum, after) => ⟨delayed.1, some errnum, after⟩

/-- What a wrapper does; `error` is the error number. -/
structure Outcome (Result : Type) where
  slept : List Nat
  slots : Slots
  result : Except Nat Result

/-! ## Readings -/

/-- A rule as far as a shift of a clock reads it. -/
def shiftRule (rule : ChaosTimeRule) : DeadlineCorrection.ChaosTimeRule chaosTimeMaxRules where
  effect := rule.effect
  gates := rule.toGates
  offsetMs := rule.offsetMs

/-- The OFFSET and the REGRESS rule of a clock. -/
def clockRules (meeting : Meeting) (clock : Int) : ClockRules chaosTimeMaxRules where
  offset := (chaosTimeConfigMatch meeting .offset .clockGettime clock).map shiftRule
  regress := (chaosTimeConfigMatch meeting .regress .clockGettime clock).map shiftRule

/-- What the shifts of a clock meet. -/
def shiftMoment (meeting : Meeting) (slots : Slots) :
    DeadlineCorrection.Moment chaosTimeMaxRules where
  offsetNow := meeting.now .offset
  regressNow := meeting.now .regress
  offsetSample := meeting.sample .offset
  regressSample := meeting.sample .regress
  pool := slots

/-- `chaos_time_read_clock`, and what the real clock says. -/
def chaosTimeReadClock (meeting : Meeting) (clock : Int) (slots : Slots)
    (real : Except Nat Timespec) : Outcome Timespec :=
  let before := faults meeting .clockGettime clock slots
  match before.injected with
  | some errnum => ⟨before.slept, before.slots, .error errnum⟩
  | none =>
      match real with
      | .error errnum => ⟨before.slept, before.slots, .error errnum⟩
      | .ok value =>
          let read := DeadlineCorrection.chaosTimeReadClock (clockRules meeting clock)
            (shiftMoment meeting before.slots) value
          ⟨before.slept, read.2, .ok read.1⟩

/-- `CLOCK_REALTIME`. -/
def clockRealtime : Int := 0

/-- `struct timeval`. -/
structure Timeval where
  sec : Int
  usec : Int
deriving DecidableEq, Repr

def clockGettime (meeting : Meeting) (clock : Int) (slots : Slots)
    (real : Except Nat Timespec) : Outcome Timespec :=
  chaosTimeReadClock meeting clock slots real

/-- `gettimeofday`; `zone` is the error of the real call that fills a time zone. -/
def gettimeofday (meeting : Meeting) (slots : Slots) (real : Except Nat Timespec)
    (zone : Option Nat) : Outcome Timeval :=
  let now := chaosTimeReadClock meeting clockRealtime slots real
  { now with
    result :=
      match now.result, zone with
      | .error errnum, _ => .error errnum
      | .ok _, some errnum => .error errnum
      | .ok value, none => .ok ⟨value.sec, value.nsec.tdiv 1000⟩ }

/-- `time`, which reports an error as -1. -/
def time (meeting : Meeting) (slots : Slots) (real : Except Nat Timespec) : Outcome Int :=
  let now := chaosTimeReadClock meeting clockRealtime slots real
  { now with result := now.result.map Timespec.sec }

/-- `timespec_get` of `TIME_UTC`, which reports an error as 0. -/
def timespecGet (meeting : Meeting) (slots : Slots) (real : Except Nat Timespec) :
    Outcome Timespec :=
  chaosTimeReadClock meeting clockRealtime slots real

/-! ## Sleeps -/

/-- `EINTR`. -/
def eintr : Nat := 4

/-- A sleep up to the real call: the request that the kernel gets, or an error, with what
the wrapper writes to `remaining`. -/
structure SleepOutcome where
  slept : List Nat
  slots : Slots
  result : Except (Nat × Option Timespec) Timespec

def nanosleep (meeting : Meeting) (slots : Slots) (request : Timespec) : SleepOutcome :=
  let before := faults meeting .nanosleep 0 slots
  { slept := before.slept
    slots := before.slots
    result :=
      match before.injected with
      | some errnum => .error (errnum, if errnum = eintr then some request else none)
      | none => .ok request }

/-- `clock_nanosleep`; the rules are those of `nanosleep`, whatever the clock is. -/
def clockNanosleep (meeting : Meeting) (slots : Slots) (clock : Int) (abstime : Bool)
    (request : Timespec) : SleepOutcome :=
  let before := faults meeting .nanosleep 0 slots
  { slept := before.slept
    slots := before.slots
    result :=
      match before.injected with
      | some errnum =>
          .error (errnum, if errnum = eintr ∧ abstime = false then some request else none)
      | none =>
          .ok (DeadlineCorrection.clockNanosleep (clockRules meeting clock)
            (shiftMoment meeting before.slots) abstime request) }

/-- `sleep`: the seconds of the real call; an injected error leaves all of them unslept. -/
def sleep (meeting : Meeting) (slots : Slots) (seconds : Nat) : Outcome Nat :=
  let before := faults meeting .nanosleep 0 slots
  ⟨before.slept, before.slots, before.injected.elim (.ok seconds) .error⟩

def usleep (meeting : Meeting) (slots : Slots) (usec : Nat) : Outcome Nat :=
  let before := faults meeting .usleep 0 slots
  ⟨before.slept, before.slots, before.injected.elim (.ok usec) .error⟩

/-! ## Delays -/

/-- The sleeps add up to the delay, and none is longer than `usleep` takes. -/
theorem delayChunks_spec (remainingUs : Nat) :
    (delayChunks remainingUs).sum = remainingUs ∧
      ∀ chunk ∈ delayChunks remainingUs, 0 < chunk ∧ chunk ≤ 1000000 := by
  fun_induction delayChunks remainingUs with
  | case1 => exact ⟨rfl, nofun⟩
  | case2 remainingUs some chunk induction =>
      have within : 0 < chunk ∧ chunk ≤ 1000000 ∧ chunk ≤ remainingUs := by
        dsimp only [chunk]
        split <;> omega
      refine ⟨?_, ?_⟩
      · rw [List.sum_cons, induction.1]
        omega
      · intro other member
        rcases List.mem_cons.mp member with rfl | later
        · exact ⟨within.1, within.2.1⟩
        · exact induction.2 other later

/-! ## The slots before a real call -/

/-- Slots that differ in their hits at most. -/
def SameRules (slots after : Slots) : Prop :=
  ∀ slot, (after slot).generation = (slots slot).generation ∧
    (after slot).state = (slots slot).state

theorem SameRules.refl (slots : Slots) : SameRules slots slots :=
  fun _ => ⟨rfl, rfl⟩

theorem SameRules.trans {slots middle after : Slots} (first : SameRules slots middle)
    (second : SameRules middle after) : SameRules slots after :=
  fun slot => ⟨(second slot).1.trans (first slot).1, (second slot).2.trans (first slot).2⟩

theorem sameRules_of_trigger {rule : ChaosTimeRule} {meeting : Meeting} {slots after : Slots}
    (fires : chaosTimeRuleShouldTrigger rule meeting slots = some after) :
    SameRules slots after := by
  have hit := chaosPolicyFire_of_ruleShouldTrigger fires
  exact fun slot => ⟨generation_of_chaosPolicyFire hit slot,
    DeadlineCorrection.state_of_chaosPolicyFire hit slot⟩

theorem sameRules_latency (rule : ChaosTimeRule) (meeting : Meeting) (slots : Slots) :
    SameRules slots (chaosTimeRuleApplyLatency rule meeting slots).2 := by
  unfold chaosTimeRuleApplyLatency
  split
  · exact SameRules.refl slots
  · split
    · exact SameRules.refl slots
    · next after fires => exact sameRules_of_trigger fires

theorem sameRules_errno {rule : ChaosTimeRule} {meeting : Meeting} {slots after : Slots}
    {errnum : Nat} (injected : chaosTimeRuleApplyErrno rule meeting slots = some (errnum, after)) :
    SameRules slots after := by
  unfold chaosTimeRuleApplyErrno at injected
  split at injected
  · cases injected
  · rcases Option.map_eq_some_iff.mp injected with ⟨later, fires, same⟩
    cases same
    exact sameRules_of_trigger fires

/-- What comes before a real call counts hits, and leaves REGRESS where it is. -/
theorem sameRules_faults (meeting : Meeting) (operation : ChaosTimeOperation) (clock : Int)
    (slots : Slots) : SameRules slots (faults meeting operation clock slots).slots := by
  have delayed : SameRules slots
      (match chaosTimeConfigMatch meeting .latency operation clock with
        | none => ([], slots)
        | some rule => chaosTimeRuleApplyLatency rule meeting slots).2 := by
    split
    · exact SameRules.refl slots
    · exact sameRules_latency _ meeting slots
  unfold faults
  dsimp only
  split
  · exact delayed
  · next errnum after injected =>
      rcases Option.bind_eq_some_iff.mp injected with ⟨rule, -, applied⟩
      exact delayed.trans (sameRules_errno applied)

end ChaosLibs.Time.Wrappers
