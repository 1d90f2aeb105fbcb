import ChaosLibs.Common.RuleFiring
import ChaosLibs.Time.ClockTimes

/-!
# Absolute deadlines on a shifted clock

What the rules of libchaos-time do to a reading of a clock, and how `clock_nanosleep`
takes it back from a deadline that the program has computed from such a reading.

A reading is shifted by OFFSET and then by REGRESS.  The deadline is shifted back in the
same order, and each of the two shifts stops at the epoch.
-/

namespace ChaosLibs.Time.DeadlineCorrection

open ChaosLibs.Common.HitSlots
open ChaosLibs.Common.PolicyGates
open ChaosLibs.Common.RuleFiring
open ChaosLibs.Common.RulePolicy
open ChaosLibs.Time.ClockTimes

/-! ## Rules -/

/-- `chaos_time_effect_t`, the parse failure left out. -/
inductive ChaosTimeEffect where
  | errno
  | latency
  | offset
  | regress
deriving DecidableEq, Repr

variable {limit : Nat}

/-- `chaos_time_rule_t`, as far as a shift of a clock reads it. -/
structure ChaosTimeRule (limit : Nat) where
  effect : ChaosTimeEffect
  gates : Gates limit
  offsetMs : Int

/-- The OFFSET and the REGRESS rule that are matched for a clock. -/
structure ClockRules (limit : Nat) where
  offset : Option (ChaosTimeRule limit)
  regress : Option (ChaosTimeRule limit)

/-- What a call meets: two readings of the wall clock, two draws and the slots. -/
structure Moment (limit : Nat) where
  offsetNow : Int
  regressNow : Int
  offsetSample : UInt32
  regressSample : UInt32
  pool : Pool limit

/-! ## Readings -/

/-- `chaos_time_rule_apply_offset`, and the slots after it. -/
def chaosTimeRuleApplyOffset (rule : ChaosTimeRule limit) (now : Int) (sample : UInt32)
    (pool : Pool limit) (value : Timespec) : Timespec × Pool limit :=
  if rule.effect ≠ .offset then (value, pool)
  else
    match ruleShouldTrigger rule.gates now sample pool with
    | none => (value, pool)
    | some after => (chaosTimeAddOffsetMs value rule.offsetMs, after)

/-- A store into the state of a slot. -/
def setState (state : Nat) (slot : HitSlot) : HitSlot :=
  { slot with state := state }

/-- `chaos_time_rule_apply_regress` of one thread, and the slots after it. -/
def chaosTimeRuleApplyRegress (rule : ChaosTimeRule limit) (now : Int) (sample : UInt32)
    (pool : Pool limit) (value : Timespec) : Timespec × Pool limit :=
  match rule.gates.hit with
  | none => (value, pool)
  | some slot =>
      if rule.effect ≠ .regress ∨
          chaosHitSlotCurrent (pool slot) rule.gates.hitGeneration = false then
        (value, pool)
      else if !chaosPolicyWindowOpen rule.gates.policy now then (value, pool)
      else if (pool slot).state = 0 then (value, pool.modify slot (setState 1))
      else if (pool slot).state = 2 then
        (chaosTimeAddOffsetMs value (-rule.offsetMs), pool)
      else if (pool slot).state ≠ 1 then (value, pool)
      else
        match ruleShouldTrigger rule.gates now sample (pool.modify slot (setState 3)) with
        | none => (value, pool)
        | some after =>
            (chaosTimeAddOffsetMs value (-rule.offsetMs), after.modify slot (setState 2))

/-- `chaos_time_read_clock` of a clock that reads `value`, LATENCY and ERRNO apart. -/
def chaosTimeReadClock (rules : ClockRules limit) (moment : Moment limit)
    (value : Timespec) : Timespec × Pool limit :=
  let shifted :=
    match rules.offset with
    | none => (value, moment.pool)
    | some rule =>
        chaosTimeRuleApplyOffset rule moment.offsetNow moment.offsetSample moment.pool value
  match rules.regress with
  | none => shifted
  | some rule =>
      chaosTimeRuleApplyRegress rule moment.regressNow moment.regressSample shifted.2
        shifted.1

/-! ## Deadlines -/

/-- Every reading carries the shift of an OFFSET rule. -/
def undoesOffset (rule : ChaosTimeRule limit) (now : Int) : Bool :=
  rule.effect == .offset &&
    (rule.gates.probability.decimals != 0 &&
      decide (rule.gates.probability.scale ≤ rule.gates.probability.decimals)) &&
    rule.gates.policy.first == 0 && !rule.gates.policy.hasSizeAbove &&
    !rule.gates.policy.hasSizeBelow && chaosPolicyWindowOpen rule.gates.policy now

/-- A REGRESS rule has jumped. -/
def undoesRegress (rule : ChaosTimeRule limit) (now : Int) (pool : Pool limit) : Bool :=
  rule.effect == .regress &&
    match rule.gates.hit with
    | none => false
    | some slot =>
        chaosHitSlotCurrent (pool slot) rule.gates.hitGeneration &&
          (pool slot).state == 2 && chaosPolicyWindowOpen rule.gates.policy now

/-- `chaos_time_rule_unshift_deadline`: the deadline, and whether it was changed. -/
def chaosTimeRuleUnshiftDeadline (rules : ClockRules limit) (moment : Moment limit)
    (deadline : Timespec) : Timespec × Bool :=
  let first :=
    match rules.offset with
    | none => (deadline, false)
    | some rule =>
        if undoesOffset rule moment.offsetNow then
          (chaosTimeAddOffsetMs deadline (-rule.offsetMs), true)
        else (deadline, false)
  match rules.regress with
  | none => first
  | some rule =>
      if undoesRegress rule moment.regressNow moment.pool then
        (chaosTimeAddOffsetMs first.1 rule.offsetMs, true)
      else first

/-- The request with which `clock_nanosleep` calls the real function. -/
def clockNanosleep (rules : ClockRules limit) (moment : Moment limit) (abstime : Bool)
    (request : Timespec) : Timespec :=
  if abstime then
    let corrected := chaosTimeRuleUnshiftDeadline rules moment request
    if corrected.2 then corrected.1 else request
  else request

/-! ## Shifts that every reading carries -/

/-- The shift of the OFFSET rule, 0 without one. -/
def ClockRules.offsetMs (rules : ClockRules limit) : Int :=
  (rules.offset.map ChaosTimeRule.offsetMs).getD 0

/-- The step of the REGRESS rule, 0 without one. -/
def ClockRules.regressMs (rules : ClockRules limit) : Int :=
  (rules.regress.map ChaosTimeRule.offsetMs).getD 0

/-- An OFFSET rule that fires on every read, and a REGRESS rule that has jumped. -/
structure Carried (rules : ClockRules limit) (moment : Moment limit) : Prop where
  offset : ∀ rule, rules.offset = some rule →
    undoesOffset rule moment.offsetNow = true ∧
      ∀ slot, rule.gates.hit = some slot →
        chaosHitSlotCurrent (moment.pool slot) rule.gates.hitGeneration = true
  regress : ∀ rule, rules.regress = some rule →
    undoesRegress rule moment.regressNow moment.pool = true ∧ 0 < rule.offsetMs

/-- The time so long after another. -/
def plus (time delay : Timespec) : Timespec :=
  ofNs (time.ns + delay.ns)

variable {rules : ClockRules limit} {moment : Moment limit}

theorem Carried.regressMs_nonneg (carried : Carried rules moment) :
    0 ≤ rules.regressMs := by
  unfold ClockRules.regressMs
  cases there : rules.regress with
  | none => exact Int.le_refl 0
  | some rule => exact (carried.regress rule there).2.le

/-- An OFFSET rule that every reading carries fires. -/
theorem ruleShouldTrigger_of_undoesOffset {rule : ChaosTimeRule limit} {now : Int}
    {pool : Pool limit} (undoes : undoesOffset rule now = true)
    (current : ∀ slot, rule.gates.hit = some slot →
      chaosHitSlotCurrent (pool slot) rule.gates.hitGeneration = true) (sample : UInt32) :
    ∃ after, ruleShouldTrigger rule.gates now sample pool = some after := by
  simp only [undoesOffset, Bool.and_eq_true, bne_iff_ne, beq_iff_eq, decide_eq_true_eq,
    Bool.not_eq_true'] at undoes
  rcases undoes with ⟨⟨⟨⟨⟨-, some, certain⟩, first⟩, above⟩, below⟩, opened⟩
  have size : chaosPolicySizeOk rule.gates.policy rule.gates.callSize = true := by
    rw [chaosPolicySizeOk, above, below]
    rfl
  have hit : probabilityHitSample rule.gates.probability sample = true := by
    rw [probabilityHitSample, if_neg some, if_pos certain]
  have fires : ∃ after, chaosPolicyFire rule.gates pool = Option.some after := by
    unfold chaosPolicyFire
    split
    · exact ⟨pool, rfl⟩
    · rename_i slot held
      rw [current slot held, if_neg (by decide), if_pos first]
      exact ⟨_, rfl⟩
  rcases fires with ⟨after, fires⟩
  exact ⟨after, by rw [ruleShouldTrigger, opened, size, hit, fires]; rfl⟩

/-- A hit leaves the state of every slot. -/
theorem state_of_chaosPolicyFire {gates : Gates limit} {pool after : Pool limit}
    (fires : chaosPolicyFire gates pool = some after) (slot : SlotId limit) :
    (after slot).state = (pool slot).state := by
  rw [slot_of_chaosPolicyFire fires slot]

/-- The OFFSET rule of a reading shifts it and leaves the slots with their rules. -/
theorem chaosTimeRuleApplyOffset_eq {rule : ChaosTimeRule limit} {now : Int}
    {pool : Pool limit} (undoes : undoesOffset rule now = true)
    (current : ∀ slot, rule.gates.hit = some slot →
      chaosHitSlotCurrent (pool slot) rule.gates.hitGeneration = true) (sample : UInt32)
    (value : Timespec) :
    ∃ after, chaosTimeRuleApplyOffset rule now sample pool value =
        (chaosTimeAddOffsetMs value rule.offsetMs, after) ∧
      ∀ slot, (after slot).generation = (pool slot).generation ∧
        (after slot).state = (pool slot).state := by
  rcases ruleShouldTrigger_of_undoesOffset undoes current sample with ⟨after, fires⟩
  have effect : rule.effect = .offset := by
    simp only [undoesOffset, Bool.and_eq_true, beq_iff_eq] at undoes
    exact undoes.1.1.1.1.1
  refine ⟨after, ?_, fun slot => ?_⟩
  · rw [chaosTimeRuleApplyOffset, if_neg (not_not_intro effect), fires]
  · have hit := chaosPolicyFire_of_ruleShouldTrigger fires
    exact ⟨generation_of_chaosPolicyFire hit slot, state_of_chaosPolicyFire hit slot⟩

/-- A REGRESS rule that has jumped shifts a reading back. -/
theorem chaosTimeRuleApplyRegress_eq {rule : ChaosTimeRule limit} {now : Int}
    {pool after : Pool limit} (undoes : undoesRegress rule now pool = true)
    (same : ∀ slot, (after slot).generation = (pool slot).generation ∧
      (after slot).state = (pool slot).state) (sample : UInt32) (value : Timespec) :
    (chaosTimeRuleApplyRegress rule now sample after value).1 =
      chaosTimeAddOffsetMs value (-rule.offsetMs) := by
  unfold undoesRegress at undoes
  cases held : rule.gates.hit with
  | none => simp [held] at undoes
  | some slot =>
      simp only [held, Bool.and_eq_true, beq_iff_eq] at undoes
      rcases undoes with ⟨effect, ⟨current, jumped⟩, opened⟩
      have stillCurrent : chaosHitSlotCurrent (after slot) rule.gates.hitGeneration = true := by
        rw [chaosHitSlotCurrent, (same slot).1]
        exact current
      have stillJumped : (after slot).state = 2 := (same slot).2.trans jumped
      simp [chaosTimeRuleApplyRegress, held, effect, stillCurrent, opened, stillJumped]

theorem shiftNs_neg (offsetMs : Int) : shiftNs (-offsetMs) = -shiftNs offsetMs :=
  Int.neg_mul offsetMs 1000000

/-- A reading is shifted by OFFSET and back by REGRESS, never past the epoch. -/
theorem chaosTimeReadClock_eq (carried : Carried rules moment) {value : Timespec}
    (reading : value.Reading) :
    (chaosTimeReadClock rules moment value).1 =
      ofNs (max 0 (max 0 (value.ns + shiftNs rules.offsetMs) - shiftNs rules.regressMs)) := by
  have shifted : ∃ after : Pool limit,
      (match rules.offset with
        | none => (value, moment.pool)
        | some rule =>
            chaosTimeRuleApplyOffset rule moment.offsetNow moment.offsetSample moment.pool
              value) =
        (ofNs (max 0 (value.ns + shiftNs rules.offsetMs)), after) ∧
      ∀ slot, (after slot).generation = (moment.pool slot).generation ∧
        (after slot).state = (moment.pool slot).state := by
    unfold ClockRules.offsetMs
    cases there : rules.offset with
    | none =>
        refine ⟨moment.pool, ?_, fun _ => ⟨rfl, rfl⟩⟩
        have same : value.ns + shiftNs 0 = value.ns := Int.add_zero _
        rw [Option.map_none, Option.getD_none, same, max_eq_right reading.ns_nonneg,
          reading.ofNs_ns]
    | some rule =>
        rcases carried.offset rule there with ⟨undoes, current⟩
        rcases chaosTimeRuleApplyOffset_eq undoes current moment.offsetSample value with
          ⟨after, applied, kept⟩
        exact ⟨after, by dsimp only; rw [applied, chaosTimeAddOffsetMs_eq reading]; rfl, kept⟩
  rcases shifted with ⟨after, offset, kept⟩
  have first : (ofNs (max 0 (value.ns + shiftNs rules.offsetMs))).Reading :=
    reading_ofNs (le_max_left _ _)
  unfold chaosTimeReadClock ClockRules.regressMs
  dsimp only
  rw [offset]
  cases there : rules.regress with
  | none =>
      have same : ∀ ns, ns - shiftNs 0 = ns := fun ns => Int.sub_zero ns
      rw [Option.map_none, Option.getD_none, same, max_eq_right (le_max_left _ _)]
  | some rule =>
      dsimp only
      rw [chaosTimeRuleApplyRegress_eq (carried.regress rule there).1 kept,
        chaosTimeAddOffsetMs_eq first, shiftNs_neg, ns_ofNs]
      rfl

/-- A deadline is shifted back in the same order, and neither shift passes the epoch. -/
theorem clockNanosleep_eq (carried : Carried rules moment) {request : Timespec}
    (reading : request.Reading) :
    clockNanosleep rules moment true request =
      ofNs (max 0 (max 0 (request.ns - shiftNs rules.offsetMs) + shiftNs rules.regressMs)) := by
  have none_sub : ∀ ns, ns - shiftNs 0 = ns := fun ns => Int.sub_zero ns
  have none_add : ∀ ns, ns + shiftNs 0 = ns := fun ns => Int.add_zero ns
  unfold clockNanosleep chaosTimeRuleUnshiftDeadline ClockRules.offsetMs
    ClockRules.regressMs
  cases offset : rules.offset with
  | none =>
      cases regress : rules.regress with
      | none =>
          simp only [if_true, Option.map_none, Option.getD_none, none_sub, none_add,
            max_eq_right reading.ns_nonneg, reading.ofNs_ns]
          rfl
      | some rule =>
          simp only [if_true, (carried.regress rule regress).1, Option.map_none,
            Option.map_some, Option.getD_none, Option.getD_some, none_sub,
            max_eq_right reading.ns_nonneg, chaosTimeAddOffsetMs_eq reading]
  | some first =>
      have shifted := chaosTimeAddOffsetMs_eq reading (-first.offsetMs)
      rw [shiftNs_neg, ← Int.sub_eq_add_neg] at shifted
      cases regress : rules.regress with
      | none =>
          simp only [if_true, (carried.offset first offset).1, Option.map_none,
            Option.map_some, Option.getD_none, Option.getD_some, none_add, shifted,
            max_eq_right (le_max_left _ _)]
      | some rule =>
          have after : (ofNs (max 0 (request.ns - shiftNs first.offsetMs))).Reading :=
            reading_ofNs (le_max_left _ _)
          simp only [if_true, (carried.offset first offset).1,
            (carried.regress rule regress).1, Option.map_some, Option.getD_some, shifted,
            chaosTimeAddOffsetMs_eq after, ns_ofNs]

/-! ## Deadlines from a reading -/

/--
A deadline that is so long after a reading that is not before the epoch is taken back to
the same time after the real one, exactly if no OFFSET shifts the clock or the step of
REGRESS is not longer than the real time of the deadline.
-/
theorem deadline_corrected_iff (rules : ClockRules limit) (read sleep : Moment limit)
    (atRead : Carried rules read) (atSleep : Carried rules sleep) (time delay : Timespec)
    (real : time.Reading) (later : delay.Reading)
    (representable : 0 ≤ time.ns + shiftNs rules.offsetMs - shiftNs rules.regressMs) :
    clockNanosleep rules sleep true
          (plus (chaosTimeReadClock rules read time).1 delay) =
        plus time delay ↔
      rules.offsetMs = 0 ∨ shiftNs rules.regressMs ≤ time.ns + delay.ns := by
  have step := atRead.regressMs_nonneg
  have start := real.ns_nonneg
  have length := later.ns_nonneg
  have shown : (plus (chaosTimeReadClock rules read time).1 delay) =
      ofNs (time.ns + shiftNs rules.offsetMs - shiftNs rules.regressMs + delay.ns) := by
    rw [plus, chaosTimeReadClock_eq atRead real, ns_ofNs]
    congr 1
    simp only [shiftNs] at representable ⊢
    omega
  rw [shown, clockNanosleep_eq atSleep (reading_ofNs (by omega)), ns_ofNs, plus]
  constructor
  · intro same
    have ns := congrArg Timespec.ns same
    rw [ns_ofNs, ns_ofNs] at ns
    simp only [shiftNs] at ns representable ⊢
    omega
  · intro enough
    congr 1
    simp only [shiftNs] at enough representable ⊢
    omega

/-- `OFFSET:<offsetMs>` and `REGRESS:<regressMs>` on one clock, each with its slot. -/
def bothRules (offsetMs regressMs : Int) : ClockRules 1 where
  offset := some ⟨.offset, ⟨⟨1, 1⟩, {}, 2 ^ 64 - 1, some 0, 0⟩, offsetMs⟩
  regress := some ⟨.regress, ⟨⟨1, 1⟩, {}, 2 ^ 64 - 1, some 1, 0⟩, regressMs⟩

/-- The REGRESS rule has jumped. -/
def jumped : Moment 1 where
  offsetNow := 0
  regressNow := 0
  offsetSample := 0
  regressSample := 0
  pool := fun _ => { HitSlot.zero with state := 2, used := true }

theorem carried_bothRules (offsetMs : Int) {regressMs : Int} (step : 0 < regressMs) :
    Carried (bothRules offsetMs regressMs) jumped where
  offset rule there := by
    cases there
    exact ⟨rfl, fun _ _ => rfl⟩
  regress rule there := by
    cases there
    exact ⟨rfl, step⟩

/-- Ten seconds after the epoch, a deadline one second later is corrected. -/
theorem deadline_corrected_iff_tenSeconds :
    clockNanosleep (bothRules 10000 5000) jumped true
        (plus (chaosTimeReadClock (bothRules 10000 5000) jumped ⟨10, 0⟩).1 ⟨1, 0⟩) =
      plus ⟨10, 0⟩ ⟨1, 0⟩ :=
  (deadline_corrected_iff (bothRules 10000 5000) jumped jumped
    (carried_bothRules 10000 (by decide)) (carried_bothRules 10000 (by decide)) ⟨10, 0⟩
    ⟨1, 0⟩ ⟨by decide, by decide, by decide⟩ ⟨by decide, by decide, by decide⟩
    (by decide)).mpr (Or.inr (by decide))

/-- Two seconds after the epoch, one that should be at 3 s is taken to 5 s. -/
theorem twoSeconds_not_corrected :
    Carried (bothRules 10000 5000) jumped ∧
      (chaosTimeReadClock (bothRules 10000 5000) jumped ⟨2, 0⟩).1 = ⟨7, 0⟩ ∧
      clockNanosleep (bothRules 10000 5000) jumped true
          (plus (chaosTimeReadClock (bothRules 10000 5000) jumped ⟨2, 0⟩).1 ⟨1, 0⟩) =
        ⟨5, 0⟩ ∧
      plus ⟨2, 0⟩ ⟨1, 0⟩ = ⟨3, 0⟩ := by
  have carried := carried_bothRules 10000 (show (0 : Int) < 5000 by decide)
  have shown : (chaosTimeReadClock (bothRules 10000 5000) jumped ⟨2, 0⟩).1 = ⟨7, 0⟩ := by
    rw [chaosTimeReadClock_eq carried ⟨by decide, by decide, by decide⟩]
    decide
  have deadline : (plus ⟨7, 0⟩ ⟨1, 0⟩).Reading := ⟨by decide, by decide, by decide⟩
  refine ⟨carried, shown, ?_, by decide⟩
  rw [shown, clockNanosleep_eq carried deadline]
  decide

end ChaosLibs.Time.DeadlineCorrection
