import ChaosLibs.Machine.Indices
import Mathlib.Data.Fintype.Basic
import Mathlib.Data.Int.Notation

/-!
# Verdicts of the supervisor

A notified system call and the supervisor's verdict on it, as
`chaos_init_call.h` has them, what a verdict turns into once its delay is over,
and what becomes of a call that is held and answered so.
-/

namespace ChaosLibs.Init.Verdict

/-- `chaos_init_call_t`; system calls are named by `Nr`. -/
structure ChaosInitCall (Nr : Type*) where
  tid : Int
  nr : Nr
  args : Fin 6 → UInt64
deriving DecidableEq

/-- `chaos_init_action_t`. -/
inductive ChaosInitAction where
  | pass
  | fail
  | delay
  | returnValue
deriving DecidableEq, Repr

/-- `chaos_init_verdict_t`. -/
structure ChaosInitVerdict where
  action : ChaosInitAction
  error : Nat
  delayMs : Nat
  value : Int
  returns : Bool
  clearReady : Bool
deriving DecidableEq, Repr

/-- The neutral verdict. -/
def ChaosInitVerdict.pass : ChaosInitVerdict :=
  ⟨.pass, 0, 0, 0, false, false⟩

/-- `chaos_init_delay_answer`. -/
def chaosInitDelayAnswer (verdict : ChaosInitVerdict) : ChaosInitVerdict :=
  { verdict with
    action :=
      if verdict.error ≠ 0 then .fail
      else if verdict.returns then .returnValue
      else .pass
    delayMs := 0 }

/-! ## Carrying a verdict out -/

/-- What becomes of a call. -/
inductive Result where
  | runs
  | fails (error : Nat)
  | returns (value : Int)
deriving DecidableEq, Repr

/-- The reply to a notification; one that delays is never sent. -/
def chaosInitReply (verdict : ChaosInitVerdict) : Result :=
  match verdict.action with
  | .fail => .fails verdict.error
  | .returnValue => .returns verdict.value
  | .pass | .delay => .runs

/-- How long a call is held, and what then becomes of it. -/
def ChaosInitVerdict.carriedOut (verdict : ChaosInitVerdict) : Nat × Result :=
  match verdict.action with
  | .delay => (verdict.delayMs, chaosInitReply (chaosInitDelayAnswer verdict))
  | .pass | .fail | .returnValue => (0, chaosInitReply verdict)

/-- How long a call is held, what becomes of it, and the rules that count a hit. -/
structure Outcome (Rule : Type*) where
  delayMs : Nat
  result : Result
  hits : List Rule
deriving DecidableEq

end ChaosLibs.Init.Verdict
