import Mathlib.Algebra.Order.Ring.Nat
import Mathlib.Algebra.Ring.Int.Defs
import Mathlib.Data.Int.Basic

/-!
# Clock tests

The two tests of `chaos_clock.h` the reloads rest on, each as a function of
the clock reading it makes.  Monotonic readings are 64-bit words; a reading of
0 means that no clock could be read.
-/

namespace ChaosLibs.Common.Clock

/-- `CHAOS_RACY_WINDOW_MS`. -/
def chaosRacyWindowMs : Int := 20

/-- `CHAOS_CHECK_INTERVAL_NS`. -/
def chaosCheckIntervalNs : UInt64 := 1000000

/-- `chaos_clock_stamp_is_recent`, the realtime clock reading `now` ms. -/
def chaosClockStampIsRecent (sec : Int) (nsec : Nat) (now : Int) : Bool :=
  let stamp := sec * 1000 + (nsec / 1000000 : Nat)
  now != 0 && now - stamp < chaosRacyWindowMs && stamp - now < chaosRacyWindowMs

/--
The result of `chaos_clock_checked_recently` with the interval
`CHAOS_CHECK_INTERVAL_NS`, the monotonic clock reading `now` ns.
-/
def chaosClockCheckedRecently (last now : UInt64) : Bool :=
  now != 0 && now - last < chaosCheckIntervalNs

/-- The word `*last` after `chaos_clock_checked_recently` returned 0. -/
def lastCheckAfter (last now : UInt64) : UInt64 :=
  if now = 0 then last else now

end ChaosLibs.Common.Clock
