import ChaosLibs.Time.ClockTimes

/-!
# Shifts in 64 bits

`chaos_time_add_offset_ms` with every sum in an `int64_t`.  A clock reading leaves room for
any shift; the deadline of an absolute sleep comes from the application as it is, and its
seconds or nanoseconds can be too near the limits of the type.
-/

namespace ChaosLibs.Time.AddOffset

open ChaosLibs.Time.ClockTimes

/-! ## The function -/

/-- The value fits an `int64_t`. -/
def Fits (value : Int) : Prop :=
  -2 ^ 63 ≤ value ∧ value < 2 ^ 63

instance (value : Int) : Decidable (Fits value) :=
  inferInstanceAs (Decidable (_ ∧ _))

/-- `while (nanoseconds >= 1000000000)`; `none` when `++seconds` overflows. -/
def carryUp64 (seconds nanoseconds : Int) : Option (Int × Int) :=
  if 1000000000 ≤ nanoseconds then
    if Fits (seconds + 1) then carryUp64 (seconds + 1) (nanoseconds - 1000000000)
    else none
  else
    some (seconds, nanoseconds)
termination_by nanoseconds.toNat

/-- `while (nanoseconds < 0)`; `none` when `--seconds` overflows. -/
def carryDown64 (seconds nanoseconds : Int) : Option (Int × Int) :=
  if nanoseconds < 0 then
    if Fits (seconds - 1) then carryDown64 (seconds - 1) (nanoseconds + 1000000000)
    else none
  else
    some (seconds, nanoseconds)
termination_by (-nanoseconds).toNat

/-- `chaos_time_add_offset_ms` in 64-bit arithmetic; `none` at a signed overflow. -/
def addOffsetMs64 (value : Timespec) (offsetMs : Int) : Option Timespec :=
  if offsetMs = 0 then some value
  else
    let seconds := value.sec + offsetMs.tdiv 1000
    let nanoseconds := value.nsec + offsetMs.tmod 1000 * 1000000
    if Fits seconds ∧ Fits nanoseconds then
      (carryUp64 seconds nanoseconds).bind fun up =>
        (carryDown64 up.1 up.2).map fun normal =>
          if normal.1 < 0 then ⟨0, 0⟩ else ⟨normal.1, normal.2⟩
    else
      none

/-! ## The loops -/

theorem carryUp_le (seconds nanoseconds : Int) :
    seconds ≤ (carryUp seconds nanoseconds).1 := by
  induction seconds, nanoseconds using carryUp.induct with
  | case1 seconds nanoseconds large induction =>
      rw [carryUp, if_pos large]
      omega
  | case2 seconds nanoseconds small =>
      rw [carryUp, if_neg small]

/-- The first loop leaves nanoseconds that are not negative alone. -/
theorem carryUp_nonneg {seconds nanoseconds : Int} (nonneg : 0 ≤ nanoseconds) :
    0 ≤ (carryUp seconds nanoseconds).2 := by
  induction seconds, nanoseconds using carryUp.induct with
  | case1 seconds nanoseconds large induction =>
      rw [carryUp, if_pos large]
      exact induction (by omega)
  | case2 seconds nanoseconds small =>
      rw [carryUp, if_neg small]
      exact nonneg

theorem carryDown_le (seconds nanoseconds : Int) :
    (carryDown seconds nanoseconds).1 ≤ seconds := by
  induction seconds, nanoseconds using carryDown.induct with
  | case1 seconds nanoseconds negative induction =>
      rw [carryDown, if_pos negative]
      omega
  | case2 seconds nanoseconds within =>
      rw [carryDown, if_neg within]

/-- The seconds grow, so the last value overflows when any does. -/
theorem carryUp64_eq {seconds nanoseconds : Int} (fits : Fits seconds) :
    carryUp64 seconds nanoseconds =
      if Fits (carryUp seconds nanoseconds).1 then some (carryUp seconds nanoseconds)
      else none := by
  induction seconds, nanoseconds using carryUp.induct with
  | case1 seconds nanoseconds large induction =>
      rw [carryUp64, if_pos large, carryUp, if_pos large]
      by_cases next : Fits (seconds + 1)
      · rw [if_pos next, induction next]
      · have grows := carryUp_le (seconds + 1) (nanoseconds - 1000000000)
        have tooLarge : ¬ Fits (carryUp (seconds + 1) (nanoseconds - 1000000000)).1 := by
          rw [Fits] at fits next ⊢
          omega
        rw [if_neg next, if_neg tooLarge]
  | case2 seconds nanoseconds small =>
      rw [carryUp64, if_neg small, carryUp, if_neg small, if_pos fits]

theorem carryDown64_eq {seconds nanoseconds : Int} (fits : Fits seconds) :
    carryDown64 seconds nanoseconds =
      if Fits (carryDown seconds nanoseconds).1 then some (carryDown seconds nanoseconds)
      else none := by
  induction seconds, nanoseconds using carryDown.induct with
  | case1 seconds nanoseconds negative induction =>
      rw [carryDown64, if_pos negative, carryDown, if_pos negative]
      by_cases next : Fits (seconds - 1)
      · rw [if_pos next, induction next]
      · have shrinks := carryDown_le (seconds - 1) (nanoseconds + 1000000000)
        have under : ¬ Fits (carryDown (seconds - 1) (nanoseconds + 1000000000)).1 := by
          rw [Fits] at fits next ⊢
          omega
        rw [if_neg next, if_neg under]
  | case2 seconds nanoseconds within =>
      rw [carryDown64, if_neg within, carryDown, if_neg within, if_pos fits]

/-- Both loops together: the whole seconds, and the rest of a second. -/
theorem carried_eq (seconds nanoseconds : Int) :
    carryDown (carryUp seconds nanoseconds).1 (carryUp seconds nanoseconds).2 =
      ((seconds * 1000000000 + nanoseconds) / 1000000000,
        (seconds * 1000000000 + nanoseconds) % 1000000000) := by
  have up := carryUp_spec seconds nanoseconds
  have down := carryDown_spec (carryUp seconds nanoseconds).1 (carryUp seconds nanoseconds).2
    up.2
  refine Prod.ext ?_ ?_
  · dsimp only
    omega
  · dsimp only
    omega

/-- The loops do not overflow exactly when the whole seconds fit. -/
theorem carried64_eq {seconds nanoseconds : Int} (fits : Fits seconds) :
    ((carryUp64 seconds nanoseconds).bind fun up => carryDown64 up.1 up.2) =
      if Fits ((seconds * 1000000000 + nanoseconds) / 1000000000) then
        some ((seconds * 1000000000 + nanoseconds) / 1000000000,
          (seconds * 1000000000 + nanoseconds) % 1000000000)
      else
        none := by
  have whole := carried_eq seconds nanoseconds
  have first : (carryDown (carryUp seconds nanoseconds).1 (carryUp seconds nanoseconds).2).1 =
      (seconds * 1000000000 + nanoseconds) / 1000000000 := congrArg Prod.fst whole
  rw [carryUp64_eq fits]
  by_cases up : Fits (carryUp seconds nanoseconds).1
  · rw [if_pos up, Option.bind_some, carryDown64_eq up, first, whole]
  · -- The first loop has run, so the second one does not.
    have spec := carryUp_spec seconds nanoseconds
    have grows := carryUp_le seconds nanoseconds
    have nonneg : 0 ≤ (carryUp seconds nanoseconds).2 := by
      by_cases small : nanoseconds < 1000000000
      · rw [carryUp, if_neg (by omega)] at up
        exact absurd fits up
      · exact carryUp_nonneg (by omega)
    have tooLarge : ¬ Fits ((seconds * 1000000000 + nanoseconds) / 1000000000) := by
      rw [Fits] at fits up ⊢
      omega
    rw [if_neg up, if_neg tooLarge]
    rfl

/-! ## A shift -/

/-- A shift in 64 bits is a shift, or it overflows in one of three sums. -/
theorem addOffsetMs64_eq {value : Timespec} {offsetMs : Int} (shifted : offsetMs ≠ 0) :
    addOffsetMs64 value offsetMs =
      if Fits (value.sec + offsetMs.tdiv 1000) ∧
          Fits (value.nsec + offsetMs.tmod 1000 * 1000000) ∧
            Fits ((value.ns + shiftNs offsetMs) / 1000000000) then
        some (if value.ns + shiftNs offsetMs < 0 then ⟨0, 0⟩
          else ofNs (value.ns + shiftNs offsetMs))
      else
        none := by
  have whole : offsetMs.tdiv 1000 * 1000 + offsetMs.tmod 1000 = offsetMs :=
    Int.tdiv_mul_add_tmod offsetMs 1000
  have total : (value.sec + offsetMs.tdiv 1000) * 1000000000 +
      (value.nsec + offsetMs.tmod 1000 * 1000000) = value.ns + shiftNs offsetMs := by
    rw [Timespec.ns, shiftNs]
    linarith
  rw [addOffsetMs64, if_neg shifted]
  dsimp only
  by_cases sums : Fits (value.sec + offsetMs.tdiv 1000) ∧
      Fits (value.nsec + offsetMs.tmod 1000 * 1000000)
  · have carried := @carried64_eq _ (value.nsec + offsetMs.tmod 1000 * 1000000) sums.1
    rw [total] at carried
    rw [if_pos sums]
    have mapped : ((carryUp64 (value.sec + offsetMs.tdiv 1000)
        (value.nsec + offsetMs.tmod 1000 * 1000000)).bind fun up =>
          (carryDown64 up.1 up.2).map fun normal =>
            if normal.1 < 0 then (⟨0, 0⟩ : Timespec) else ⟨normal.1, normal.2⟩) =
        ((carryUp64 (value.sec + offsetMs.tdiv 1000)
          (value.nsec + offsetMs.tmod 1000 * 1000000)).bind fun up =>
            carryDown64 up.1 up.2).map fun normal =>
              if normal.1 < 0 then ⟨0, 0⟩ else ⟨normal.1, normal.2⟩ :=
      (Option.map_bind ..).symm
    rw [mapped, carried]
    by_cases fits : Fits ((value.ns + shiftNs offsetMs) / 1000000000)
    · rw [if_pos fits, if_pos ⟨sums.1, sums.2, fits⟩, Option.map_some]
      by_cases before : value.ns + shiftNs offsetMs < 0
      · rw [if_pos before, if_pos (by dsimp only; omega)]
      · rw [if_neg before, if_neg (by dsimp only; omega)]
        rfl
    · rw [if_neg fits, if_neg fun all => fits all.2.2]
      rfl
  · rw [if_neg sums, if_neg fun all => sums ⟨all.1, all.2.1⟩]

/-- Where nothing overflows, the shift is the one without a limit. -/
theorem addOffsetMs64_eq_some {value result : Timespec} {offsetMs : Int}
    (reading : value.Reading) (computed : addOffsetMs64 value offsetMs = some result) :
    result = chaosTimeAddOffsetMs value offsetMs := by
  rw [chaosTimeAddOffsetMs_eq reading]
  by_cases zero : offsetMs = 0
  · rw [addOffsetMs64, if_pos zero] at computed
    cases computed
    rw [zero, shiftNs, Int.zero_mul, Int.add_zero, max_eq_right reading.ns_nonneg,
      reading.ofNs_ns]
  · rw [addOffsetMs64_eq zero] at computed
    split at computed
    · cases computed
      split
      · rename_i before
        rw [max_eq_left before.le]
        rfl
      · rename_i after
        rw [max_eq_right (Int.not_lt.mp after)]
    · cases computed

/--
The shift is computed: nothing overflows, the nanoseconds are within a second, and the
result is the time plus the offset, or 0 where the function clamps.
-/
def Exact (value : Timespec) (offsetMs : Int) : Prop :=
  ∃ result, addOffsetMs64 value offsetMs = some result ∧
    0 ≤ result.nsec ∧ result.nsec < 1000000000 ∧
      result.ns =
        if offsetMs ≠ 0 ∧ value.ns + shiftNs offsetMs < 0 then 0
        else value.ns + shiftNs offsetMs

/-- A shift is exact when its sums stay within 64 bits, and no shift needs a normal time. -/
theorem exact_iff (value : Timespec) (offsetMs : Int) :
    Exact value offsetMs ↔
      if offsetMs = 0 then 0 ≤ value.nsec ∧ value.nsec < 1000000000
      else
        Fits (value.sec + offsetMs.tdiv 1000) ∧
          Fits (value.nsec + offsetMs.tmod 1000 * 1000000) ∧
            Fits ((value.ns + shiftNs offsetMs) / 1000000000) := by
  rw [Exact]
  by_cases zero : offsetMs = 0
  · rw [if_pos zero, addOffsetMs64, if_pos zero]
    constructor
    · rintro ⟨result, same, nonneg, below, -⟩
      cases same
      exact ⟨nonneg, below⟩
    · rintro ⟨nonneg, below⟩
      refine ⟨value, rfl, nonneg, below, ?_⟩
      rw [if_neg fun clamped => clamped.1 zero, zero, shiftNs, Int.zero_mul, Int.add_zero]
  · rw [if_neg zero, addOffsetMs64_eq zero]
    constructor
    · rintro ⟨result, computed, -⟩
      split at computed
      · assumption
      · cases computed
    · intro fits
      rw [if_pos fits]
      by_cases before : value.ns + shiftNs offsetMs < 0
      · rw [if_pos before, if_pos ⟨zero, before⟩]
        exact ⟨⟨0, 0⟩, rfl, le_refl _, by decide, rfl⟩
      · rw [if_neg before, if_neg fun clamped => before clamped.2]
        have reading := reading_ofNs (Int.not_lt.mp before)
        exact ⟨_, rfl, reading.nsec, reading.below, ns_ofNs _⟩

/-- The latest absolute deadline, under a rule that sets the clock back a second. -/
theorem latest_deadline_not_exact :
    ¬ ∀ (value : Timespec) (offsetMs : Int), Fits value.sec → Fits value.nsec →
      -chaosTimeMaxOffsetMs ≤ offsetMs → offsetMs ≤ chaosTimeMaxOffsetMs →
        Exact value offsetMs := by
  intro exact
  rcases exact ⟨2 ^ 63 - 1, 0⟩ 1000 (by decide) (by decide) (by decide) (by decide) with
    ⟨result, computed, -⟩
  rw [addOffsetMs64, if_neg (by decide)] at computed
  dsimp only at computed
  rw [if_neg (by decide)] at computed
  cases computed

/-- A clock reading leaves room for every shift. -/
theorem exact_of_reading {value : Timespec} {offsetMs : Int} (reading : value.Reading)
    (time : value.sec < 2 ^ 62) (least : -chaosTimeMaxOffsetMs ≤ offsetMs)
    (most : offsetMs ≤ chaosTimeMaxOffsetMs) : Exact value offsetMs := by
  have seconds := seconds_within reading time least most
  rcases reading with ⟨sec, nsec, below⟩
  rw [chaosTimeMaxOffsetMs] at least most
  have rest := Int.tmod_lt_of_pos offsetMs (show (0 : Int) < 1000 by decide)
  have rest' := Int.lt_tmod_of_pos offsetMs (show (0 : Int) < 1000 by decide)
  rw [exact_iff]
  split
  · exact ⟨nsec, below⟩
  · rw [Fits, Fits, Fits, Timespec.ns, shiftNs]
    omega

end ChaosLibs.Time.AddOffset
