import Mathlib.Algebra.Order.Ring.Int
import Mathlib.Data.Int.Init
import Mathlib.Tactic.Ring
import Mathlib.Tactic.Linarith

/-!
# Times and shifts

`struct timespec` and `chaos_time_add_offset_ms`.  A time is its nanoseconds since the
epoch, split into seconds and a rest below one second; a shift adds to the nanoseconds,
and a result before the epoch is the epoch.
-/

namespace ChaosLibs.Time.ClockTimes

/-- `CHAOS_TIME_MAX_OFFSET_MS`. -/
def chaosTimeMaxOffsetMs : Int := 3155760000000

/-- `struct timespec`. -/
structure Timespec where
  sec : Int
  nsec : Int
deriving DecidableEq, Repr

/-- The nanoseconds since the epoch. -/
def Timespec.ns (value : Timespec) : Int :=
  value.sec * 1000000000 + value.nsec

/-- The time so many nanoseconds after the epoch. -/
def ofNs (ns : Int) : Timespec :=
  ⟨ns / 1000000000, ns % 1000000000⟩

/-- What a clock returns: not before the epoch, `tv_nsec` below one second. -/
structure Timespec.Reading (value : Timespec) : Prop where
  sec : 0 ≤ value.sec
  nsec : 0 ≤ value.nsec
  below : value.nsec < 1000000000

theorem ns_ofNs (ns : Int) : (ofNs ns).ns = ns :=
  Int.ediv_mul_add_emod ns 1000000000

theorem reading_ofNs {ns : Int} (after : 0 ≤ ns) : (ofNs ns).Reading where
  sec := Int.ediv_nonneg after (by decide)
  nsec := Int.emod_nonneg ns (by decide)
  below := Int.emod_lt_of_pos ns (by decide)

theorem Timespec.Reading.ns_nonneg {value : Timespec} (reading : value.Reading) :
    0 ≤ value.ns := by
  have sec := reading.sec
  have nsec := reading.nsec
  rw [Timespec.ns]
  omega

theorem Timespec.Reading.ofNs_ns {value : Timespec} (reading : value.Reading) :
    ofNs value.ns = value := by
  rcases reading with ⟨-, nsec, below⟩
  cases value with
  | mk sec nsec' =>
      simp only [ofNs, Timespec.ns, Timespec.mk.injEq] at *
      omega

/-! ## The two loops -/

/-- `while (nanoseconds >= 1000000000)`. -/
def carryUp (seconds nanoseconds : Int) : Int × Int :=
  if 1000000000 ≤ nanoseconds then carryUp (seconds + 1) (nanoseconds - 1000000000)
  else (seconds, nanoseconds)
termination_by nanoseconds.toNat

/-- `while (nanoseconds < 0)`. -/
def carryDown (seconds nanoseconds : Int) : Int × Int :=
  if nanoseconds < 0 then carryDown (seconds - 1) (nanoseconds + 1000000000)
  else (seconds, nanoseconds)
termination_by (-nanoseconds).toNat

/-- The first loop keeps the time, and stops below one second. -/
theorem carryUp_spec (seconds nanoseconds : Int) :
    (carryUp seconds nanoseconds).1 * 1000000000 + (carryUp seconds nanoseconds).2 =
        seconds * 1000000000 + nanoseconds ∧
      (carryUp seconds nanoseconds).2 < 1000000000 := by
  induction seconds, nanoseconds using carryUp.induct with
  | case1 seconds nanoseconds large induction =>
      rw [carryUp, if_pos large]
      refine ⟨induction.1.trans ?_, induction.2⟩
      ring
  | case2 seconds nanoseconds small =>
      rw [carryUp, if_neg small]
      exact ⟨rfl, Int.not_le.mp small⟩

/-- The second loop keeps the time, and stops within one second. -/
theorem carryDown_spec (seconds nanoseconds : Int) (below : nanoseconds < 1000000000) :
    (carryDown seconds nanoseconds).1 * 1000000000 + (carryDown seconds nanoseconds).2 =
        seconds * 1000000000 + nanoseconds ∧
      0 ≤ (carryDown seconds nanoseconds).2 ∧
        (carryDown seconds nanoseconds).2 < 1000000000 := by
  induction seconds, nanoseconds using carryDown.induct with
  | case1 seconds nanoseconds negative induction =>
      rw [carryDown, if_pos negative]
      have kept := induction (by omega)
      refine ⟨kept.1.trans ?_, kept.2⟩
      ring
  | case2 seconds nanoseconds within =>
      rw [carryDown, if_neg within]
      exact ⟨rfl, Int.not_lt.mp within, below⟩

/-! ## Shifts -/

/-- `chaos_time_add_offset_ms`. -/
def chaosTimeAddOffsetMs (value : Timespec) (offsetMs : Int) : Timespec :=
  if offsetMs = 0 then value
  else
    let seconds := value.sec + offsetMs.tdiv 1000
    let nanoseconds := value.nsec + offsetMs.tmod 1000 * 1000000
    let up := carryUp seconds nanoseconds
    let normal := carryDown up.1 up.2
    if normal.1 < 0 then ⟨0, 0⟩ else ⟨normal.1, normal.2⟩

/-- The nanoseconds of a shift. -/
def shiftNs (offsetMs : Int) : Int :=
  offsetMs * 1000000

/-- A shift adds its nanoseconds; before the epoch it stops at the epoch. -/
theorem chaosTimeAddOffsetMs_eq {value : Timespec} (reading : value.Reading)
    (offsetMs : Int) :
    chaosTimeAddOffsetMs value offsetMs = ofNs (max 0 (value.ns + shiftNs offsetMs)) := by
  unfold chaosTimeAddOffsetMs
  split
  · rename_i zero
    rw [zero, shiftNs, Int.zero_mul, Int.add_zero, max_eq_right reading.ns_nonneg,
      reading.ofNs_ns]
  · dsimp only
    have up := carryUp_spec (value.sec + offsetMs.tdiv 1000)
      (value.nsec + offsetMs.tmod 1000 * 1000000)
    generalize carryUp (value.sec + offsetMs.tdiv 1000)
      (value.nsec + offsetMs.tmod 1000 * 1000000) = carried at up ⊢
    have down := carryDown_spec carried.1 carried.2 up.2
    generalize carryDown carried.1 carried.2 = normal at down ⊢
    have whole : offsetMs.tdiv 1000 * 1000 + offsetMs.tmod 1000 = offsetMs :=
      Int.tdiv_mul_add_tmod offsetMs 1000
    have total : normal.1 * 1000000000 + normal.2 = value.ns + shiftNs offsetMs := by
      rw [down.1, up.1, Timespec.ns, shiftNs]
      linarith
    rcases down.2 with ⟨nonneg, below⟩
    split
    · rename_i before
      rw [max_eq_left (by omega)]
      rfl
    · rename_i after
      rw [max_eq_right (by omega), ← total]
      simp only [ofNs, Timespec.mk.injEq]
      omega

/-- The seconds of a shift stay within 64 bits for times below `2 ^ 62` s. -/
theorem seconds_within {value : Timespec} {offsetMs : Int} (reading : value.Reading)
    (time : value.sec < 2 ^ 62) (least : -chaosTimeMaxOffsetMs ≤ offsetMs)
    (most : offsetMs ≤ chaosTimeMaxOffsetMs) :
    -2 ^ 62 ≤ value.sec + offsetMs.tdiv 1000 ∧
      value.sec + offsetMs.tdiv 1000 < 2 ^ 62 + 2 ^ 32 := by
  have sec := reading.sec
  rw [chaosTimeMaxOffsetMs] at least most
  have whole : offsetMs.tdiv 1000 * 1000 + offsetMs.tmod 1000 = offsetMs :=
    Int.tdiv_mul_add_tmod offsetMs 1000
  have rest := Int.tmod_lt_of_pos offsetMs (show (0 : Int) < 1000 by decide)
  have rest' := Int.lt_tmod_of_pos offsetMs (show (0 : Int) < 1000 by decide)
  constructor <;> omega

end ChaosLibs.Time.ClockTimes
