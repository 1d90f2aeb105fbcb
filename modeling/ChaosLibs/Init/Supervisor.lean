import ChaosLibs.Init.DelayQueue
import ChaosLibs.Machine.LabelledRun
import Mathlib.Logic.Function.Basic

/-!
# The supervisor's notifications

A machine of the kernel's notifications and the supervisor's main loop.  The
kernel keeps one notification for each thread that is blocked in a filtered
call; a signal withdraws it, and the call is later restarted under a new id or
given up.  The supervisor runs `chaos_init_answer` for one notification at a
time, in between it runs `chaos_init_on_time`; threads and the clock move at
every point of both.

The fields after `timer` are history: which invocation of a system call an id
stands for, what was decided, for whom and until when, and every reply sent.
-/

namespace ChaosLibs.Init.Supervisor

open ChaosLibs.Init.DelayQueue
open ChaosLibs.Init.Verdict
open ChaosLibs.Machine

/-- `CHAOS_HITS_INTERVAL_MS`. -/
def chaosHitsIntervalMs : Nat := 100

/-- A notification of a thread that is blocked in a call. -/
structure Notification where
  id : Nat
  call : Call
  invocation : Nat
  received : Bool
deriving DecidableEq

/-- A reply handed to `SECCOMP_IOCTL_NOTIF_SEND`. -/
structure Reply where
  id : Nat
  verdict : ChaosInitVerdict
  sentAtMs : Nat
deriving DecidableEq

/-- Where the supervisor's loop is. -/
inductive Control where
  | idle
  /-- `chaos_init_answer`, the notification received and not resumed. -/
  | deciding (id : Nat) (call : Call)
  /-- `chaos_init_answer`, the verdict there. -/
  | decided (id : Nat) (call : Call) (verdict : ChaosInitVerdict)
  /-- `chaos_init_on_time`, its clock reading made. -/
  | draining (now : Nat)
deriving DecidableEq

/-- The notification `chaos_init_answer` is at. -/
def Control.current : Control → Option (Nat × Call)
  | .deciding id call | .decided id call _ => some (id, call)
  | .idle | .draining _ => none

/-- The kernel, the supervisor, and the history. -/
structure State where
  clock : Nat
  live : List Notification
  interrupted : Int → List (Call × Nat)
  nextId : Nat
  nextInvocation : Nat
  control : Control
  queue : Queue
  /-- `chaos_init_tracee_pending`. -/
  pending : Bool
  lastFlushMs : Nat
  timer : Option Nat
  invocationOf : Nat → Nat
  decisions : List (Nat × ChaosInitVerdict)
  /-- The invocation that the answer held for an id was decided for. -/
  decidedFor : Nat → Nat
  deadline : Nat → Nat
  replies : List Reply

/-- The supervisor before its first notification. -/
def initial (clock : Nat) : State where
  clock := clock
  live := []
  interrupted := fun _ => []
  nextId := 0
  nextInvocation := 0
  control := .idle
  queue := []
  pending := false
  lastFlushMs := 0
  timer := none
  invocationOf := fun _ => 0
  decisions := []
  decidedFor := fun _ => 0
  deadline := fun _ => 0
  replies := []

/-! ## The kernel -/

/-- Whether a thread has a notification. -/
def State.blocked (state : State) (tid : Int) : Bool :=
  state.live.any fun notification => notification.call.tid == tid

/-- A thread blocks in a call: a notification under a new id. -/
def State.notify (state : State) (call : Call) (invocation : Nat) : State :=
  { state with
    live := ⟨state.nextId, call, invocation, false⟩ :: state.live
    nextId := state.nextId + 1
    invocationOf := Function.update state.invocationOf state.nextId invocation }

/-- The notification of a thread is withdrawn. -/
def State.withdraw (state : State) (tid : Int) : State :=
  { state with
    live := state.live.filter fun notification =>
      notification.call.tid != tid }

/-- `chaos_init_reply`: a thread whose notification still exists is answered. -/
def State.reply (state : State) (id : Nat) (verdict : ChaosInitVerdict) :
    State :=
  { state with
    live := state.live.filter fun notification => notification.id != id
    replies := ⟨id, verdict, state.clock⟩ :: state.replies }

/-- A thread makes a new call. -/
def call (state : State) (made : Call) : Option State :=
  if state.blocked made.tid then none
  else some
    { state.notify made state.nextInvocation with
      nextInvocation := state.nextInvocation + 1 }

/-- A signal interrupts the call of a thread; its handler may make calls. -/
def signal (state : State) (tid : Int) : Option State :=
  (state.live.find? fun notification => notification.call.tid == tid).map
    fun notification =>
      { state.withdraw tid with
        interrupted := Function.update state.interrupted tid
          ((notification.call, notification.invocation) ::
            state.interrupted tid) }

/-- `SA_RESTART`: the handler returned, and the call goes on under a new id. -/
def restart (state : State) (tid : Int) : Option State :=
  match state.interrupted tid with
  | [] => none
  | (made, invocation) :: rest =>
      if state.blocked made.tid then none
      else some
        { state.notify made invocation with
          interrupted := Function.update state.interrupted tid rest }

/-- No `SA_RESTART`: the handler returned, and the call fails with `EINTR`. -/
def giveUp (state : State) (tid : Int) : Option State :=
  match state.interrupted tid with
  | [] => none
  | _ :: rest => some
      { state with
        interrupted := Function.update state.interrupted tid rest }

/-- A thread is killed; its id may be reused. -/
def kill (state : State) (tid : Int) : State :=
  { state.withdraw tid with
    interrupted := Function.update state.interrupted tid [] }

/-! ## `chaos_init_answer` -/

/-- A notification is marked as received. -/
def markReceived (id : Nat) (notification : Notification) : Notification :=
  if notification.id = id then { notification with received := true }
  else notification

/-- `SECCOMP_IOCTL_NOTIF_RECV`, then `chaos_init_delay_resume`. -/
def receive (state : State) (tid : Int) : Option State :=
  if state.control ≠ .idle then none
  else
    (state.live.find? fun notification =>
      notification.call.tid == tid && !notification.received).map
        fun notification =>
          let received : State :=
            { state with
              live := state.live.map (markReceived notification.id) }
          match chaosInitDelayResume notification.call notification.id
              state.queue with
          | some (old, queue) =>
              { received with
                queue := queue
                decidedFor := Function.update state.decidedFor notification.id
                  (state.decidedFor old)
                deadline := Function.update state.deadline notification.id
                  (state.deadline old) }
          | none =>
              { received with
                control := .deciding notification.id notification.call }

/-- The deciders; hits may wait to be written afterwards. -/
def decideCall (state : State) (verdict : ChaosInitVerdict) (pending : Bool) :
    Option State :=
  match state.control with
  | .deciding id call =>
      if verdict.delayMs < 2 ^ 32 then some
        { state with
          control := .decided id call verdict
          pending := pending
          decisions := (state.invocationOf id, verdict) :: state.decisions }
      else none
  | _ => none

/-- `SECCOMP_IOCTL_NOTIF_ID_VALID` says that the caller is gone. -/
def gone (state : State) : Option State :=
  match state.control with
  | .decided id _ verdict =>
      if verdict.action ≠ .pass ∧
          ∀ notification ∈ state.live, notification.id ≠ id then
        some { state with control := .idle }
      else none
  | _ => none

/-- When a call delayed by a verdict is due. -/
def State.dueMs (state : State) (verdict : ChaosInitVerdict) : Nat :=
  (state.clock + verdict.delayMs + 1) % 2 ^ 64

/-- The call is parked, or answered. -/
def finish (state : State) : Option State :=
  match state.control with
  | .decided id call verdict =>
      if verdict.action = .delay then
        let due := state.dueMs verdict
        let answer := chaosInitDelayAnswer verdict
        match chaosInitDelayAdd state.queue ⟨id, call, due, answer⟩ with
        | some queue => some
            { state with
              control := .idle
              queue := queue
              decidedFor := Function.update state.decidedFor id
                (state.invocationOf id)
              deadline := Function.update state.deadline id
                (state.clock + verdict.delayMs + 1) }
        | none => some
            { state.reply id answer with
              control := .idle
              decidedFor := Function.update state.decidedFor id
                (state.invocationOf id) }
      else some
        { state.reply id verdict with
          control := .idle
          decidedFor := Function.update state.decidedFor id
            (state.invocationOf id) }
  | _ => none

/-! ## `chaos_init_on_time` -/

/-- Its clock reading. -/
def onTime (state : State) : Option State :=
  if state.control = .idle then
    some { state with control := .draining state.clock }
  else none

/-- One round of its loop. -/
def drain (state : State) : Option State :=
  match state.control with
  | .draining now =>
      (chaosInitDelayPop state.queue now).map fun (entry, left) =>
        { state.reply entry.id entry.answer with queue := left }
  | _ => none

/-- Whether the hits files are written. -/
def flushes (state : State) (now : Nat) : Bool :=
  state.pending &&
    decide (chaosHitsIntervalMs ≤ (now + (2 ^ 64 - state.lastFlushMs)) % 2 ^ 64)

/-- What the timer is set to; 0 stands for no time at all until the end. -/
def timerSetting (queue : Queue) (pending : Bool) (lastFlushMs now : Nat) :
    Option Nat :=
  let due := (chaosInitDelayNext queue).getD 0
  let flush := (lastFlushMs + chaosHitsIntervalMs) % 2 ^ 64
  let next := if pending && (due == 0 || decide (flush < due)) then flush else due
  if next ≠ 0 then some (if now < next then next else now + 1) else none

/-- The end of it: the flush, after which hits may still wait, and the timer. -/
def rearm (state : State) (pending : Bool) : Option State :=
  match state.control with
  | .draining now =>
      match chaosInitDelayPop state.queue now with
      | some _ => none
      | none =>
          let waiting := if flushes state now then pending else state.pending
          let last := if flushes state now then now else state.lastFlushMs
          some
            { state with
              control := .idle
              pending := waiting
              lastFlushMs := last
              timer := timerSetting state.queue waiting last now }
  | _ => none

/-! ## Runs -/

/-- What happens next. -/
inductive Label where
  | tick (elapsed : Nat)
  | call (made : Call)
  | signal (tid : Int)
  | restart (tid : Int)
  | giveUp (tid : Int)
  | kill (tid : Int)
  | receive (tid : Int)
  | decide (verdict : ChaosInitVerdict) (pending : Bool)
  | gone
  | finish
  | onTime
  | drain
  | rearm (pending : Bool)

/-- One step; the clock counts milliseconds since the machine was started. -/
def step (state : State) : Label → Option State
  | .tick elapsed =>
      if state.clock + elapsed < 2 ^ 63 then
        some { state with clock := state.clock + elapsed }
      else none
  | .call made => call state made
  | .signal tid => signal state tid
  | .restart tid => restart state tid
  | .giveUp tid => giveUp state tid
  | .kill tid => some (kill state tid)
  | .receive tid => receive state tid
  | .decide verdict pending => decideCall state verdict pending
  | .gone => gone state
  | .finish => finish state
  | .onTime => onTime state
  | .drain => drain state
  | .rearm pending => rearm state pending

end ChaosLibs.Init.Supervisor
