import Mathlib.Data.Rat.Floor
import ChaosLibs.Machine.Indices
import ChaosLibs.Time.AddOffset

/-!
# Timeouts of wait calls

`ppoll`, `pselect`, `epoll_pwait2` and `select` take their timeout as a structure, and both
modes read it as milliseconds: rounded up, capped at `INT32_MAX`, -1 for none or one that
the kernel refuses.  The cap is tested on the seconds alone, so the last 353 milliseconds
of the second that holds it pass it; and the library converts microseconds before it looks
at them.
-/

namespace ChaosLibs.Net.WaitTimeouts

open ChaosLibs.Time.AddOffset

/-! ## The readings -/

/-- `struct timespec` of a 64-bit process. -/
structure Timespec where
  tvSec : Int64
  tvNsec : Int64
deriving DecidableEq

/-- `struct timeval` of a 64-bit process. -/
structure Timeval where
  tvSec : Int64
  tvUsec : Int64
deriving DecidableEq

/-- `INT32_MAX`. -/
def int32Max : Int := 2147483647

/-- A result of signed 64-bit arithmetic; `none` at an overflow. -/
def checked (value : Int) : Option Int :=
  if Fits value then some value else none

/-- `chaos_net_wait_timespec_ms` and `chaos_init_net_timespec_ms` of a
structure; `none` at a signed overflow. -/
def timespecMs (sec nsec : Int) : Option Int :=
  if sec < 0 ∨ nsec < 0 ∨ 1000000000 ≤ nsec then some (-1)
  else if int32Max / 1000 < sec then some int32Max
  else
    (checked (sec * 1000)).bind fun whole =>
      (checked (nsec + 999999)).bind fun raised =>
        checked (whole + raised.tdiv 1000000)

/-- `chaos_net_wait_timespec_ms`. -/
def chaosNetWaitTimespecMs : Option Timespec → Option Int
  | none => some (-1)
  | some timeout => timespecMs timeout.tvSec.toInt timeout.tvNsec.toInt

/-- `chaos_net_wait_timeval_ms`. -/
def chaosNetWaitTimevalMs : Option Timeval → Option Int
  | none => some (-1)
  | some timeout =>
      (checked (timeout.tvUsec.toInt * 1000)).bind fun nsec =>
        timespecMs timeout.tvSec.toInt nsec

/-- What `chaos_init_read_memory` finds of a timeout at an address. -/
structure TimeoutMemory where
  timespecs : UInt64 → Option Timespec
  timevals : UInt64 → Option Timeval

/-- `chaos_init_net_timespec_ms`. -/
def chaosInitNetTimespecMs
    (memory : TimeoutMemory) (address : UInt64) : Option Int :=
  if address = 0 then some (-1)
  else
    match memory.timespecs address with
    | none => some (-1)
    | some timeout => timespecMs timeout.tvSec.toInt timeout.tvNsec.toInt

/-- The `select` case of `chaos_init_net_wait_timeout`. -/
def timevalMs (sec usec : Int) : Option Int :=
  if sec < 0 ∨ usec < 0 ∨ 1000000 ≤ usec then some (-1)
  else if int32Max / 1000 < sec then some int32Max
  else
    (checked (sec * 1000)).bind fun whole =>
      (checked (usec + 999)).bind fun raised =>
        checked (whole + raised.tdiv 1000)

/-- The wait calls. -/
inductive WaitNr where
  | ppoll
  | pselect6
  | epollPwait2
  | select
  | poll
  | epollWait
deriving DecidableEq, Repr

/-- A wait call of the tracee. -/
structure WaitCall where
  nr : WaitNr
  args : Fin 6 → UInt64

/-- An `int` argument in milliseconds. -/
def intMs (word : UInt64) : Option Int :=
  some (if word.toUInt32.toInt32.toInt < 0 then -1
    else word.toUInt32.toInt32.toInt)

/-- `chaos_init_net_wait_timeout`. -/
def chaosInitNetWaitTimeout
    (memory : TimeoutMemory) (call : WaitCall) : Option Int :=
  match call.nr with
  | .ppoll => chaosInitNetTimespecMs memory (call.args 2)
  | .pselect6 => chaosInitNetTimespecMs memory (call.args 4)
  | .epollPwait2 => chaosInitNetTimespecMs memory (call.args 3)
  | .select =>
      if call.args 4 = 0 then some (-1)
      else
        match memory.timevals (call.args 4) with
        | none => some (-1)
        | some timeout => timevalMs timeout.tvSec.toInt timeout.tvUsec.toInt
  | .poll => intMs (call.args 2)
  | .epollWait => intMs (call.args 3)

/-! ## Timeouts as the application passes them -/

/-- A timeout, `none` for `NULL`. -/
inductive Timeout where
  | timespec (value : Option Timespec)
  | timeval (value : Option Timeval)

/-- The library's reading. -/
def Timeout.library : Timeout → Option Int
  | .timespec value => chaosNetWaitTimespecMs value
  | .timeval value => chaosNetWaitTimevalMs value

/-- A pointer argument is `NULL`, or the value lies there. -/
def PointsTo {Value : Type} (read : UInt64 → Option Value) (address : UInt64)
    (value : Option Value) : Prop :=
  (value = none ∧ address = 0) ∨
    (value ≠ none ∧ address ≠ 0 ∧ read address = value)

/-- The wait call passes that timeout. -/
def Passes (memory : TimeoutMemory) (call : WaitCall) : Timeout → Prop
  | .timespec value =>
      (call.nr = .ppoll ∧ PointsTo memory.timespecs (call.args 2) value) ∨
        (call.nr = .pselect6 ∧ PointsTo memory.timespecs (call.args 4) value) ∨
        (call.nr = .epollPwait2 ∧ PointsTo memory.timespecs (call.args 3) value)
  | .timeval value =>
      call.nr = .select ∧ PointsTo memory.timevals (call.args 4) value

/-- Its seconds and nanoseconds. -/
def Timeout.fields : Timeout → Option (Int × Int)
  | .timespec value =>
      value.map fun timeout => (timeout.tvSec.toInt, timeout.tvNsec.toInt)
  | .timeval value =>
      value.map fun timeout => (timeout.tvSec.toInt, timeout.tvUsec.toInt * 1000)

/-- No field is out of range. -/
def Proper (fields : Int × Int) : Prop :=
  0 ≤ fields.1 ∧ 0 ≤ fields.2 ∧ fields.2 < 1000000000

/-- The timeout in milliseconds, rounded up and capped. -/
def millis (fields : Int × Int) : Int :=
  min int32Max ⌈((fields.1 * 1000000000 + fields.2 : Int) : ℚ) / 1000000⌉

/-- Both modes read the timeout as it should be. -/
structure ReadAsOne (timeout : Timeout) (supervisor : Option Int) : Prop where
  agree : timeout.library = supervisor
  exact : ∃ reading, timeout.library = some reading ∧
    reading ≤ int32Max ∧
    (reading = -1 ↔ ¬∃ fields, timeout.fields = some fields ∧ Proper fields) ∧
    ∀ fields, timeout.fields = some fields → Proper fields →
      reading = millis fields

/-- The cap and the conversion do no harm: the timeout does not lie in the part
of second `INT32_MAX / 1000` above the cap, and its microseconds can be
multiplied by 1000. -/
def Timeout.Tame : Timeout → Prop
  | .timespec value => ∀ timeout, value = some timeout →
      ¬(timeout.tvSec.toInt = int32Max / 1000 ∧
        647000000 < timeout.tvNsec.toInt ∧ timeout.tvNsec.toInt < 1000000000)
  | .timeval value => ∀ timeout, value = some timeout →
      Fits (timeout.tvUsec.toInt * 1000) ∧
      ¬(timeout.tvSec.toInt = int32Max / 1000 ∧
        647000 < timeout.tvUsec.toInt ∧ timeout.tvUsec.toInt < 1000000)

/-! ## What is read -/

theorem fits_of_small {value : Int} (least : 0 ≤ value)
    (most : value < 4000000000) : Fits value := by
  unfold Fits
  omega

theorem checked_of_small {value : Int} (least : 0 ≤ value)
    (most : value < 4000000000) : checked value = some value :=
  if_pos (fits_of_small least most)

/-- The reading of proper fields, by the test on the seconds. -/
theorem timespecMs_of_proper {sec nsec : Int} (proper : Proper (sec, nsec)) :
    timespecMs sec nsec =
      some (if int32Max / 1000 < sec then int32Max
        else sec * 1000 + (nsec + 999999) / 1000000) := by
  rcases proper with ⟨seconds, least, most⟩
  dsimp only at seconds least most
  rw [timespecMs, if_neg (by omega)]
  by_cases large : int32Max / 1000 < sec
  · rw [if_pos large, if_pos large]
  · have few : sec ≤ 2147483 := by
      rw [int32Max] at large
      omega
    have quotient : (nsec + 999999).tdiv 1000000 = (nsec + 999999) / 1000000 :=
      Int.tdiv_eq_ediv_of_nonneg (by omega)
    have whole : checked (sec * 1000) = some (sec * 1000) :=
      checked_of_small (by omega) (by omega)
    have raised : checked (nsec + 999999) = some (nsec + 999999) :=
      checked_of_small (by omega) (by omega)
    rw [if_neg large, if_neg large, whole, Option.bind_some, raised,
      Option.bind_some, quotient, checked_of_small (by omega) (by omega)]

theorem timespecMs_of_improper {sec nsec : Int}
    (improper : ¬Proper (sec, nsec)) :
    timespecMs sec nsec = some (-1) := by
  apply if_pos
  unfold Proper at improper
  dsimp only at improper
  omega

/-- The supervisor reads a timeval as the timespec it stands for. -/
theorem timevalMs_eq (sec usec : Int) :
    timevalMs sec usec = timespecMs sec (usec * 1000) := by
  by_cases proper : Proper (sec, usec * 1000)
  · have within := proper
    unfold Proper at within
    dsimp only at within
    have quotient : (usec + 999).tdiv 1000 =
        (usec * 1000 + 999999) / 1000000 := by
      rw [Int.tdiv_eq_ediv_of_nonneg (by omega)]
      omega
    rw [timespecMs_of_proper proper, timevalMs, if_neg (by omega)]
    by_cases large : int32Max / 1000 < sec
    · rw [if_pos large, if_pos large]
    · have few : sec ≤ 2147483 := by
        rw [int32Max] at large
        omega
      have whole : checked (sec * 1000) = some (sec * 1000) :=
        checked_of_small (by omega) (by omega)
      have raised : checked (usec + 999) = some (usec + 999) :=
        checked_of_small (by omega) (by omega)
      rw [if_neg large, if_neg large, whole, Option.bind_some, raised,
        Option.bind_some, quotient, checked_of_small (by omega) (by omega)]
  · rw [timespecMs_of_improper proper]
    apply if_pos
    unfold Proper at proper
    dsimp only at proper
    omega

/-- The reading that both modes aim at. -/
def Timeout.aimed (timeout : Timeout) : Option Int :=
  match timeout.fields with
  | none => some (-1)
  | some fields => timespecMs fields.1 fields.2

theorem chaosInitNetTimespecMs_eq
    {memory : TimeoutMemory} {address : UInt64} {value : Option Timespec}
    (points : PointsTo memory.timespecs address value) :
    chaosInitNetTimespecMs memory address = (Timeout.timespec value).aimed := by
  unfold chaosInitNetTimespecMs
  rcases points with ⟨rfl, null⟩ | ⟨some, base, lies⟩
  · rw [if_pos null]
    rfl
  · rw [if_neg base, lies]
    cases value with
    | none => exact absurd rfl some
    | some timeout => rfl

/-- The supervisor's reading of the timeout that a call passes. -/
theorem supervisor_reads
    {memory : TimeoutMemory} {call : WaitCall} {timeout : Timeout}
    (passes : Passes memory call timeout) :
    chaosInitNetWaitTimeout memory call = timeout.aimed := by
  unfold chaosInitNetWaitTimeout
  cases timeout with
  | timespec value =>
      rcases passes with ⟨nr, points⟩ | ⟨nr, points⟩ | ⟨nr, points⟩
      all_goals
        rw [nr]
        exact chaosInitNetTimespecMs_eq points
  | timeval value =>
      rcases passes with ⟨nr, ⟨rfl, null⟩ | ⟨some, base, lies⟩⟩
      · rw [nr]
        exact if_pos null
      · rw [nr]
        dsimp only
        rw [if_neg base, lies]
        cases value with
        | none => exact absurd rfl some
        | some timeout => exact timevalMs_eq _ _

/-- The microseconds of a timeval can be multiplied by 1000. -/
def Timeout.Converts : Timeout → Prop
  | .timespec _ => True
  | .timeval value => ∀ timeout, value = some timeout →
      Fits (timeout.tvUsec.toInt * 1000)

theorem library_of_converts {timeout : Timeout} (converts : timeout.Converts) :
    timeout.library = timeout.aimed := by
  cases timeout with
  | timespec value => cases value <;> rfl
  | timeval value =>
      cases value with
      | none => rfl
      | some timeout =>
          show (checked (timeout.tvUsec.toInt * 1000)).bind _ = _
          rw [checked, if_pos (converts timeout rfl)]
          rfl

theorem library_of_not_converts
    {timeout : Timeout} (overflows : ¬timeout.Converts) :
    timeout.library = none := by
  cases timeout with
  | timespec value => exact absurd trivial overflows
  | timeval value =>
      cases value with
      | none => exact absurd (fun _ absent => (nomatch absent)) overflows
      | some timeout =>
          have unfit : ¬Fits (timeout.tvUsec.toInt * 1000) := by
            intro fits
            apply overflows
            intro other same
            rwa [← Option.some.inj same]
          show (checked (timeout.tvUsec.toInt * 1000)).bind _ = _
          rw [checked, if_neg unfit]
          rfl

/-- The cap covers the timeout's milliseconds. -/
def Capped (fields : Int × Int) : Prop :=
  ¬(fields.1 = int32Max / 1000 ∧ 647000000 < fields.2 ∧
    fields.2 < 1000000000)

theorem tame_iff (timeout : Timeout) :
    timeout.Tame ↔ timeout.Converts ∧
      ∀ fields, timeout.fields = some fields → Capped fields := by
  cases timeout with
  | timespec value =>
      cases value with
      | none =>
          exact ⟨fun _ => ⟨trivial, fun _ absent => (nomatch absent)⟩,
            fun _ _ absent => (nomatch absent)⟩
      | some timeout =>
          constructor
          · intro tame
            refine ⟨trivial, fun fields same => ?_⟩
            rw [← Option.some.inj same]
            exact tame timeout rfl
          · rintro ⟨_, capped⟩ other same
            rw [← Option.some.inj same]
            exact capped _ rfl
  | timeval value =>
      cases value with
      | none =>
          exact ⟨fun _ => ⟨fun _ absent => (nomatch absent),
            fun _ absent => (nomatch absent)⟩, fun _ _ absent => (nomatch absent)⟩
      | some timeout =>
          constructor
          · intro tame
            refine ⟨fun other same => ?_, fun fields same => ?_⟩
            · rw [← Option.some.inj same]
              exact (tame timeout rfl).1
            · rw [← Option.some.inj same]
              have apart := (tame timeout rfl).2
              unfold Capped
              dsimp only
              omega
          · rintro ⟨converts, capped⟩ other same
            rw [← Option.some.inj same]
            have apart := capped _ rfl
            refine ⟨converts timeout rfl, ?_⟩
            unfold Capped at apart
            dsimp only at apart
            omega

theorem ceil_millis (sec nsec : Int) :
    ⌈((sec * 1000000000 + nsec : Int) : ℚ) / 1000000⌉ =
      sec * 1000 + (nsec + 999999) / 1000000 := by
  have ceil := Rat.ceil_intCast_div_natCast (sec * 1000000000 + nsec) 1000000
  push_cast at ceil ⊢
  rw [ceil]
  omega

/-- Proper fields are read as they should be exactly under the cap. -/
theorem millis_iff {fields : Int × Int} (proper : Proper fields) :
    timespecMs fields.1 fields.2 = some (millis fields) ↔ Capped fields := by
  rw [timespecMs_of_proper proper, Option.some_inj, millis, ceil_millis]
  rcases proper with ⟨seconds, least, most⟩
  unfold Capped
  by_cases large : int32Max / 1000 < fields.1
  · rw [if_pos large]
    simp only [int32Max] at large ⊢
    omega
  · rw [if_neg large]
    simp only [int32Max] at large ⊢
    omega

theorem millis_nonneg {fields : Int × Int} (proper : Proper fields) :
    0 ≤ millis fields := by
  rw [millis, ceil_millis]
  rcases proper with ⟨seconds, least, most⟩
  simp only [int32Max]
  omega

/-- What is aimed at is what should be read, under the cap. -/
theorem exact_of_capped
    {timeout : Timeout}
    (capped : ∀ fields, timeout.fields = some fields → Capped fields) :
    ∃ reading, timeout.aimed = some reading ∧
      reading ≤ int32Max ∧
      (reading = -1 ↔
        ¬∃ fields, timeout.fields = some fields ∧ Proper fields) ∧
      ∀ fields, timeout.fields = some fields → Proper fields →
        reading = millis fields := by
  unfold Timeout.aimed
  cases known : timeout.fields with
  | none =>
      refine ⟨-1, rfl, by decide, ?_, ?_⟩
      · exact ⟨fun _ ⟨_, absent, _⟩ => (nomatch absent), fun _ => rfl⟩
      · exact fun _ absent => (nomatch absent)
  | some fields =>
      by_cases proper : Proper fields
      · refine ⟨millis fields, (millis_iff proper).mpr (capped fields known),
          min_le_left _ _, ?_, ?_⟩
        · have nonneg := millis_nonneg proper
          constructor
          · intro negative
            omega
          · intro missing
            exact absurd ⟨fields, rfl, proper⟩ missing
        · intro other same _
          rw [Option.some.inj same]
      · refine ⟨-1, timespecMs_of_improper proper, by decide, ?_, ?_⟩
        · refine ⟨fun _ => ?_, fun _ => rfl⟩
          rintro ⟨other, same, within⟩
          rw [← Option.some.inj same] at within
          exact proper within
        · intro other same within
          rw [← Option.some.inj same] at within
          exact absurd within proper

/-- Longer timeouts that the cap covers are not read as fewer milliseconds. -/
theorem millis_mono {shorter longer : Int × Int}
    (length : shorter.1 * 1000000000 + shorter.2 ≤
      longer.1 * 1000000000 + longer.2) :
    millis shorter ≤ millis longer := by
  rw [millis, millis, ceil_millis, ceil_millis]
  omega

/-- Both modes read a timeout as one and as they should, without an overflow,
exactly when it is tame; and of two proper tame timeouts the longer is not read
as fewer milliseconds. -/
theorem readAsOne_iff_tame
    {memory : TimeoutMemory} {call : WaitCall} {timeout : Timeout}
    (passes : Passes memory call timeout) :
    (ReadAsOne timeout (chaosInitNetWaitTimeout memory call) ↔ timeout.Tame) ∧
      ∀ (longer : Timeout) (fields longerFields : Int × Int),
        timeout.Tame → longer.Tame →
        timeout.fields = some fields → longer.fields = some longerFields →
        Proper fields → Proper longerFields →
        fields.1 * 1000000000 + fields.2 ≤
          longerFields.1 * 1000000000 + longerFields.2 →
        ∃ reading longerReading, timeout.library = some reading ∧
          longer.library = some longerReading ∧ reading ≤ longerReading := by
  constructor
  · rw [tame_iff]
    constructor
    · intro read
      rcases read.exact with ⟨reading, known, _, _, exact⟩
      have converts : timeout.Converts := by
        by_contra overflows
        rw [library_of_not_converts overflows] at known
        cases known
      refine ⟨converts, fun fields same => ?_⟩
      by_cases proper : Proper fields
      · apply (millis_iff proper).mp
        rw [library_of_converts converts, Timeout.aimed, same] at known
        have aimed : timespecMs fields.1 fields.2 = some reading := known
        rw [aimed, exact fields same proper]
      · rintro ⟨second, above, below⟩
        apply proper
        refine ⟨?_, by omega, below⟩
        rw [second]
        decide
    · rintro ⟨converts, capped⟩
      have library := library_of_converts converts
      refine ⟨by rw [library, supervisor_reads passes], ?_⟩
      rw [library]
      exact exact_of_capped capped
  · intro longer fields longerFields tame longerTame same longerSame proper
      longerProper length
    have first := (tame_iff timeout).mp tame
    have second := (tame_iff longer).mp longerTame
    refine ⟨millis fields, millis longerFields, ?_, ?_, millis_mono length⟩
    · rw [library_of_converts first.1, Timeout.aimed, same]
      exact (millis_iff proper).mpr (first.2 fields same)
    · rw [library_of_converts second.1, Timeout.aimed, longerSame]
      exact (millis_iff longerProper).mpr (second.2 longerFields longerSame)

/-- A `ppoll` of 1.5 ms, a tame timeout, is read as 2 ms. -/
theorem readAsOne_iff_tame_shortPoll :
    ReadAsOne (.timespec (some ⟨0, 1500000⟩))
      (chaosInitNetWaitTimeout
        ⟨fun _ => some ⟨0, 1500000⟩, fun _ => none⟩
        ⟨.ppoll, fun _ => 4096⟩) := by
  have passes : Passes ⟨fun _ => some ⟨0, 1500000⟩, fun _ => none⟩
      ⟨.ppoll, fun _ => 4096⟩ (.timespec (some ⟨0, 1500000⟩)) :=
    Or.inl ⟨rfl, Or.inr ⟨by decide, by decide, rfl⟩⟩
  apply (readAsOne_iff_tame passes).1.mpr
  intro timeout same
  rw [← Option.some.inj same]
  decide

/-- A `ppoll` just over the cap is read as more than `INT32_MAX` by both modes;
and the microseconds of a `select` overflow in the library alone. -/
theorem cappedPoll_not_readAsOne :
    (Passes ⟨fun _ => some ⟨2147483, 647000001⟩, fun _ => none⟩
        ⟨.ppoll, fun _ => 4096⟩ (.timespec (some ⟨2147483, 647000001⟩)) ∧
      chaosInitNetWaitTimeout
        ⟨fun _ => some ⟨2147483, 647000001⟩, fun _ => none⟩
        ⟨.ppoll, fun _ => 4096⟩ = some 2147483648 ∧
      ¬ReadAsOne (.timespec (some ⟨2147483, 647000001⟩))
        (chaosInitNetWaitTimeout
          ⟨fun _ => some ⟨2147483, 647000001⟩, fun _ => none⟩
          ⟨.ppoll, fun _ => 4096⟩)) ∧
      chaosNetWaitTimevalMs (some ⟨0, 4611686018427387904⟩) = none := by
  have reads : chaosInitNetWaitTimeout
      ⟨fun _ => some ⟨2147483, 647000001⟩, fun _ => none⟩
      ⟨.ppoll, fun _ => 4096⟩ = some 2147483648 := by decide
  refine ⟨⟨Or.inl ⟨rfl, Or.inr ⟨by decide, by decide, rfl⟩⟩, reads, ?_⟩,
    by decide⟩
  intro read
  rcases read.exact with ⟨reading, known, most, _, _⟩
  rw [read.agree, reads] at known
  rw [← Option.some.inj known] at most
  exact absurd most (by decide)

end ChaosLibs.Net.WaitTimeouts
