import ChaosLibs.Machine.LabelledRun
import Mathlib.Data.Finset.Basic

/-!
# The loop of `chaos-init`

The loop of `main` in `chaos_init.c`, with `chaos_init_reap`, `chaos_init_exit_code` and
`chaos_init_serve_the_rest`.  The kernel keeps the pending signals, of each at most one,
and the children that have ended and are not reaped yet.  One label is one call of the
loop or one event; events come between any two calls.

The last three fields are history: the signals that are still to be forwarded, whether the
process ended with hits that were not written, and whether a signal went to a pid that was
reaped already.
-/

namespace ChaosLibs.Init.MainLoop

open ChaosLibs.Machine

/-- The signals of `chaos_init_signal_set`. -/
inductive Signal where
  | chld | term | int | hup | quit | usr1 | usr2 | winch | alrm | pipe
deriving DecidableEq, Repr

/-- `g_chaos_init_forwarded`. -/
def gChaosInitForwarded : List Signal :=
  [.term, .int, .hup, .quit, .usr1, .usr2, .winch, .alrm, .pipe]

/-- How a process ends. -/
inductive Ending where
  | exited (code : Fin 256)
  | signalled (signal : Fin 126) (core : Bool)
deriving DecidableEq, Repr

/-- The wait status of an ending; signals are numbered from 1. -/
def Ending.status : Ending → Nat
  | .exited code => code.val * 256
  | .signalled signal core => signal.val + 1 + if core then 128 else 0

/-- `chaos_init_exit_code`. -/
def chaosInitExitCode (status : Nat) : Nat :=
  if status &&& 0x7f = 0 then (status >>> 8) &&& 0xff else 128 + (status &&& 0x7f)

/-- The application's process. -/
inductive Application where
  | running
  | ended (ending : Ending)
  | reaped (ending : Ending)
deriving DecidableEq, Repr

/-- Whether the pid of the application may be another process's. -/
def Application.isReaped : Application → Bool
  | .reaped _ => true
  | _ => false

/-- Whether the application waits to be reaped. -/
def Application.isZombie : Application → Bool
  | .ended _ => true
  | _ => false

/-- What `poll` reports. -/
structure Ready where
  signals : Bool
  timer : Bool
  input : Bool
  hangUp : Bool
deriving DecidableEq, Repr

/-- The next call of the loop. -/
inductive Control where
  | poll
  | signals (ready : Ready)
  | forward (signal : Signal) (ready : Ready)
  | reap (found : Bool) (ready : Ready)
  | flush (ready : Ready)
  | serveTheRest (ready : Ready)
  | timer (ready : Ready)
  | listener (ready : Ready)
  | onTime
  | ended
deriving DecidableEq, Repr

/-- Whether the loop is in `chaos_init_reap`. -/
def Control.reaping : Control → Bool
  | .reap _ _ => true
  | _ => false

/-- The loop, what the kernel has for it, and history. -/
structure State where
  control : Control
  pending : Finset Signal
  application : Application
  /-- The other children that have ended and are not reaped. -/
  orphans : Nat
  /-- `serving_the_rest`. -/
  serving : Bool
  listener : Bool
  notifications : Nat
  /-- No process uses the filter any more. -/
  unused : Bool
  expired : Bool
  /-- There are hits that are not in the hits files. -/
  unwritten : Bool
  /-- The exit code of the process that was started. -/
  exit : Option Nat
  owed : Finset Signal
  lostHits : Bool
  misdirected : Bool

/-- The loop with a listener or without one, the application just started. -/
def initial (listener : Bool) : State where
  control := .poll
  pending := ∅
  application := .running
  orphans := 0
  serving := false
  listener := listener
  notifications := 0
  unused := false
  expired := false
  unwritten := false
  exit := none
  owed := ∅
  lostHits := false
  misdirected := false

/-- The events and the calls of the loop. -/
inductive Label where
  | arrives (signal : Signal)
  | childStops
  | applicationEnds (ending : Ending)
  | orphanEnds
  | notifies
  | lastUserEnds
  | expires
  | poll
  | readSignal (signal : Signal)
  | noSignal
  | kill
  | reapApplication
  | reapOrphan
  | nothingToReap
  | flush
  | serveTheRest (forked : Bool)
  | timer
  | listener (counted : Bool)
  | onTime (written : Bool)
deriving DecidableEq, Repr

/-! ## Events -/

/-- A signal becomes pending. -/
def State.raise (state : State) (signal : Signal) : State :=
  { state with pending := insert signal state.pending }

/-- A signal that the loop has to forward; the background copy has nobody to forward to. -/
def arrives (state : State) (signal : Signal) : Option State :=
  if signal = .chld then none
  else some
    { state.raise signal with
      owed := if state.serving then state.owed else insert signal state.owed }

/-- The application ends. -/
def applicationEnds (state : State) (ending : Ending) : Option State :=
  if state.application = .running then
    some { state.raise .chld with application := .ended ending }
  else none

/-- A child that was adopted ends; the background copy has no children. -/
def orphanEnds (state : State) : Option State :=
  if state.serving then none
  else some { state.raise .chld with orphans := state.orphans + 1 }

/-! ## Calls -/

/-- What `poll` would report. -/
def State.ready (state : State) : Ready where
  signals := decide (state.pending ≠ ∅)
  timer := state.expired
  input := state.listener && decide (0 < state.notifications)
  hangUp := state.listener && state.unused

/-- `poll`, which returns when there is something to report. -/
def poll (state : State) : Option State :=
  if state.ready.signals ∨ state.ready.timer ∨ state.ready.input ∨ state.ready.hangUp then
    some { state with control := .signals state.ready }
  else none

/-- What the loop does with the signal it read. -/
def dispatch (state : State) (signal : Signal) (ready : Ready) : Control :=
  if state.serving then .timer ready
  else if signal ≠ .chld then .forward signal ready
  else .reap false ready

/-- One `read` of the signalfd. -/
def readSignal (state : State) (signal : Signal) (ready : Ready) : Option State :=
  if ready.signals ∧ signal ∈ state.pending then
    some
      { state with
        control := dispatch state signal ready
        pending := state.pending.erase signal }
  else none

/-- `kill` of the application's pid. -/
def forward (state : State) (signal : Signal) (ready : Ready) : State :=
  { state with
    control := .timer ready
    owed := state.owed.erase signal
    misdirected := state.misdirected || state.application.isReaped }

/-- `waitpid` returns the application. -/
def reapApplication (state : State) (ready : Ready) : Option State :=
  match state.application with
  | .ended ending =>
      some { state with control := .reap true ready, application := .reaped ending }
  | _ => none

/-- `waitpid` returns another child. -/
def reapOrphan (state : State) : Option State :=
  if 0 < state.orphans then some { state with orphans := state.orphans - 1 } else none

/-- `waitpid` has nothing to return, and `chaos_init_reap` comes to its end. -/
def nothingToReap (state : State) (found : Bool) (ready : Ready) : Option State :=
  if state.application.isZombie ∨ 0 < state.orphans then none
  else some { state with control := if found then .flush ready else .timer ready }

/-- The exit code of the process: the application is reaped. -/
def State.exitCode (state : State) : Option Nat :=
  match state.application with
  | .reaped ending => some (chaosInitExitCode ending.status)
  | _ => none

/--
`chaos_init_serve_the_rest`: the process exits with the code of the application, and where
it forked before, the rest of the run is the background copy's.
-/
def serveTheRest (pid1 : Bool) (state : State) (forked : Bool) (ready : Ready) :
    Option State :=
  let exits :=
    { state with
      exit := state.exitCode
      lostHits := state.lostHits || state.unwritten }
  if forked then
    if state.listener ∧ pid1 = false then
      some { exits with
        control := .timer ready, serving := true, pending := ∅, orphans := 0, owed := ∅ }
    else none
  else some { exits with control := .ended }

/-- One answer of the listener, or its hang-up. -/
def listener (state : State) (counted : Bool) (ready : Ready) : State :=
  if state.listener then
    if ready.input then
      { state with
        control := .onTime
        notifications := state.notifications - 1
        unwritten := state.unwritten || counted }
    else if ready.hangUp then
      if state.serving then
        { state with control := .ended, listener := false, unwritten := false }
      else { state with control := .poll, listener := false }
    else { state with control := .onTime }
  else { state with control := .poll }

/-- One event or one call; `pid1` is whether the process is PID 1. -/
def step (pid1 : Bool) (state : State) (label : Label) : Option State :=
  match label, state.control with
  | _, .ended => none
  | .arrives signal, _ => arrives state signal
  | .childStops, _ => if state.serving then none else some (state.raise .chld)
  | .applicationEnds ending, _ => applicationEnds state ending
  | .orphanEnds, _ => orphanEnds state
  | .notifies, _ =>
      if state.unused then none
      else some { state with notifications := state.notifications + 1 }
  | .lastUserEnds, _ =>
      if state.application = .running then none
      else some { state with unused := true, notifications := 0 }
  | .expires, _ => some { state with expired := true }
  | .poll, .poll => poll state
  | .readSignal signal, .signals ready => readSignal state signal ready
  | .noSignal, .signals ready =>
      if ready.signals then none else some { state with control := .timer ready }
  | .kill, .forward signal ready => some (forward state signal ready)
  | .reapApplication, .reap _ ready => reapApplication state ready
  | .reapOrphan, .reap _ _ => reapOrphan state
  | .nothingToReap, .reap found ready => nothingToReap state found ready
  | .flush, .flush ready =>
      some { state with control := .serveTheRest ready, unwritten := false }
  | .serveTheRest forked, .serveTheRest ready => serveTheRest pid1 state forked ready
  | .timer, .timer ready =>
      some { state with
        control := .listener ready
        expired := if ready.timer then false else state.expired }
  | .listener counted, .listener ready => some (listener state counted ready)
  | .onTime written, .onTime =>
      some { state with
        control := .poll
        unwritten := if written then false else state.unwritten }
  | _, _ => none

/-! ## What the loop owes -/

/-- Whether the loop has found the application and has not exited yet. -/
def Control.leaving : Control → Bool
  | .reap found _ => found
  | .flush _ | .serveTheRest _ => true
  | _ => false

/-- Whether the loop looks for ended children without having found the application. -/
def Control.searching : Control → Bool
  | .reap found _ => !found
  | _ => false

/-- A signal that is in the hands of the loop. -/
def Control.forwards (control : Control) (signal : Signal) : Bool :=
  match control with
  | .forward other _ => decide (other = signal)
  | _ => false

/-- What holds between any two calls, as long as the process or its copy runs. -/
structure Owed (state : State) : Prop where
  /-- An ended child has its signal pending, or `waitpid` will return it. -/
  children : state.control ≠ .ended → state.application.isZombie ∨ 0 < state.orphans →
    .chld ∈ state.pending ∨ state.control.reaping
  /-- A signal that was not forwarded is pending, or being forwarded. -/
  signals : state.control ≠ .ended → state.application.isReaped = false →
    ∀ signal ∈ state.owed, signal ∈ state.pending ∨ state.control.forwards signal
  /-- `SIGCHLD` is not forwarded. -/
  forwarded : .chld ∉ state.owed

/-- What holds of the application and of the exit. -/
structure Reaped (state : State) : Prop where
  /-- Behind the application there is only the way out, or the background copy. -/
  leaving : state.application.isReaped →
    state.serving ∨ state.control.leaving ∨ state.control = .ended
  target : ∀ signal ready, state.control = .forward signal ready →
    state.application.isReaped = false
  found : state.control.leaving → state.application.isReaped ∧ state.serving = false
  searching : state.control.searching → state.application.isReaped = false
  serving : state.serving → state.application.isReaped ∧ state.exit.isSome ∧
    state.orphans = 0 ∧ state.owed = ∅
  ended : state.control = .ended → state.exit.isSome
  exit : ∀ code, state.exit = some code →
    ∃ ending, state.application = .reaped ending ∧ code = chaosInitExitCode ending.status
  flushed : ∀ ready, state.control = .serveTheRest ready → state.unwritten = false
  lostHits : state.lostHits = false
  misdirected : state.misdirected = false

variable {pid1 : Bool} {state next : State} {label : Label}

theorem owed_initial (listener : Bool) : Owed (initial listener) := by
  refine ⟨?_, ?_, ?_⟩ <;> simp [initial, Application.isZombie]

theorem reaped_initial (listener : Bool) : Reaped (initial listener) := by
  refine ⟨?_, ?_, ?_, ?_, ?_, ?_, ?_, ?_, ?_, ?_⟩ <;>
    simp [initial, Application.isReaped, Control.leaving, Control.searching]

theorem Application.not_reaped {application : Application}
    (zombie : application.isZombie = true) : application.isReaped = false := by
  cases application <;> first | rfl | cases zombie

theorem Control.forwards_self (signal : Signal) (ready : Ready) :
    (Control.forward signal ready).forwards signal = true :=
  decide_eq_true rfl

/-- What one event or one call does. -/
inductive Moves (pid1 : Bool) (state : State) : State → Prop where
  | arrives {signal : Signal} {next : State} (runs : state.control ≠ .ended)
      (arrived : arrives state signal = some next) : Moves pid1 state next
  | childStops (runs : state.control ≠ .ended) (parent : state.serving = false) :
      Moves pid1 state (state.raise .chld)
  | applicationEnds {ending : Ending} {next : State} (runs : state.control ≠ .ended)
      (ended : applicationEnds state ending = some next) : Moves pid1 state next
  | orphanEnds {next : State} (runs : state.control ≠ .ended)
      (ended : orphanEnds state = some next) : Moves pid1 state next
  | notifies (runs : state.control ≠ .ended) :
      Moves pid1 state { state with notifications := state.notifications + 1 }
  | lastUserEnds (runs : state.control ≠ .ended) (gone : state.application ≠ .running) :
      Moves pid1 state { state with unused := true, notifications := 0 }
  | expires (runs : state.control ≠ .ended) : Moves pid1 state { state with expired := true }
  | poll {next : State} (here : state.control = .poll) (polled : poll state = some next) :
      Moves pid1 state next
  | readSignal {signal : Signal} {ready : Ready} {next : State}
      (here : state.control = .signals ready)
      (read : readSignal state signal ready = some next) : Moves pid1 state next
  | noSignal {ready : Ready} (here : state.control = .signals ready) :
      Moves pid1 state { state with control := .timer ready }
  | kill {signal : Signal} {ready : Ready} (here : state.control = .forward signal ready) :
      Moves pid1 state (forward state signal ready)
  | reapApplication {found : Bool} {ready : Ready} {next : State}
      (here : state.control = .reap found ready)
      (reaped : reapApplication state ready = some next) : Moves pid1 state next
  | reapOrphan {found : Bool} {ready : Ready} {next : State}
      (here : state.control = .reap found ready) (reaped : reapOrphan state = some next) :
      Moves pid1 state next
  | nothingToReap {found : Bool} {ready : Ready} {next : State}
      (here : state.control = .reap found ready)
      (left : nothingToReap state found ready = some next) : Moves pid1 state next
  | flush {ready : Ready} (here : state.control = .flush ready) :
      Moves pid1 state { state with control := .serveTheRest ready, unwritten := false }
  | serveTheRest {forked : Bool} {ready : Ready} {next : State}
      (here : state.control = .serveTheRest ready)
      (served : serveTheRest pid1 state forked ready = some next) : Moves pid1 state next
  | timer {ready : Ready} (here : state.control = .timer ready) :
      Moves pid1 state
        { state with
          control := .listener ready
          expired := if ready.timer then false else state.expired }
  | listener {counted : Bool} {ready : Ready} (here : state.control = .listener ready) :
      Moves pid1 state (listener state counted ready)
  | onTime {written : Bool} (here : state.control = .onTime) :
      Moves pid1 state
        { state with
          control := .poll
          unwritten := if written then false else state.unwritten }

theorem moves_of_step (stepped : step pid1 state label = some next) :
    Moves pid1 state next := by
  unfold step at stepped
  split at stepped
  case h_1 => cases stepped
  case h_2 signal runs => exact .arrives runs stepped
  case h_3 runs =>
    split at stepped
    · cases stepped
    · next parent => exact Option.some.inj stepped ▸ .childStops runs (by simpa using parent)
  case h_4 ending runs => exact .applicationEnds runs stepped
  case h_5 runs => exact .orphanEnds runs stepped
  case h_6 runs =>
    split at stepped
    · cases stepped
    · exact Option.some.inj stepped ▸ .notifies runs
  case h_7 runs =>
    split at stepped
    · cases stepped
    · next gone => exact Option.some.inj stepped ▸ .lastUserEnds runs gone
  case h_8 runs => exact Option.some.inj stepped ▸ .expires runs
  case h_9 here => exact .poll here stepped
  case h_10 signal ready here => exact .readSignal here stepped
  case h_11 ready here =>
    split at stepped
    · cases stepped
    · exact Option.some.inj stepped ▸ .noSignal here
  case h_12 signal ready here => exact Option.some.inj stepped ▸ .kill here
  case h_13 found ready here => exact .reapApplication here stepped
  case h_14 found ready here => exact .reapOrphan here stepped
  case h_15 found ready here => exact .nothingToReap here stepped
  case h_16 ready here => exact Option.some.inj stepped ▸ .flush here
  case h_17 forked ready here => exact .serveTheRest here stepped
  case h_18 ready here => exact Option.some.inj stepped ▸ .timer here
  case h_19 counted ready here => exact Option.some.inj stepped ▸ .listener here
  case h_20 written here => exact Option.some.inj stepped ▸ .onTime here
  case h_21 => cases stepped

section Steps

attribute [local grind →] Application.not_reaped

attribute [local grind =] Control.forwards_self

attribute [local grind] arrives applicationEnds orphanEnds State.raise poll dispatch
  readSignal forward reapApplication reapOrphan nothingToReap State.exitCode serveTheRest
  listener Control.leaving Control.searching Control.forwards Control.reaping
  Application.isReaped Application.isZombie

/-- A child that ends raises `SIGCHLD`, and its read is followed by the reaping. -/
theorem children_step (stepped : step pid1 state label = some next) (held : Owed state)
    (reaped : Reaped state) :
    next.control ≠ .ended → next.application.isZombie ∨ 0 < next.orphans →
      .chld ∈ next.pending ∨ next.control.reaping := by
  have children := held.children
  have found := reaped.found
  have serving := reaped.serving
  cases moves_of_step stepped <;> grind -linarith

/-- What a read takes out of the pending signals is in the hands of the loop. -/
theorem signals_step (stepped : step pid1 state label = some next) (held : Owed state)
    (reaped : Reaped state) :
    next.control ≠ .ended → next.application.isReaped = false →
      ∀ signal ∈ next.owed, signal ∈ next.pending ∨ next.control.forwards signal := by
  have signals := held.signals
  have forwarded := held.forwarded
  have serving := reaped.serving
  have found := reaped.found
  cases moves_of_step stepped <;> grind -linarith

theorem forwarded_step (stepped : step pid1 state label = some next) (held : Owed state) :
    .chld ∉ next.owed := by
  have forwarded := held.forwarded
  cases moves_of_step stepped <;> grind -linarith

theorem owed_step (stepped : step pid1 state label = some next) (held : Owed state)
    (reaped : Reaped state) : Owed next :=
  ⟨children_step stepped held reaped, signals_step stepped held reaped,
    forwarded_step stepped held⟩

/-- Behind the application there is only the way out. -/
theorem leaving_step (stepped : step pid1 state label = some next)
    (held : Reaped state) :
    next.application.isReaped →
      next.serving ∨ next.control.leaving ∨ next.control = .ended := by
  have leaving := held.leaving
  have searching := held.searching
  cases moves_of_step stepped <;> grind -linarith

/-- The loop forwards before it has reaped the application. -/
theorem target_step (stepped : step pid1 state label = some next)
    (held : Reaped state) :
    ∀ signal ready, next.control = .forward signal ready →
      next.application.isReaped = false := by
  have leaving := held.leaving
  have target := held.target
  cases moves_of_step stepped <;> grind -linarith

theorem found_step (stepped : step pid1 state label = some next)
    (held : Reaped state) :
    (next.control.leaving → next.application.isReaped ∧ next.serving = false) ∧
      (next.control.searching → next.application.isReaped = false) := by
  have leaving := held.leaving
  have found := held.found
  have searching := held.searching
  have serving := held.serving
  cases moves_of_step stepped <;> grind -linarith

/-- The background copy has no children, and nothing to forward. -/
theorem serving_step (stepped : step pid1 state label = some next)
    (held : Reaped state) :
    next.serving → next.application.isReaped ∧ next.exit.isSome ∧ next.orphans = 0 ∧
      next.owed = ∅ := by
  have found := held.found
  have serving := held.serving
  cases moves_of_step stepped <;> grind -linarith

theorem exit_step (stepped : step pid1 state label = some next)
    (held : Reaped state) :
    (next.control = .ended → next.exit.isSome) ∧
      ∀ code, next.exit = some code →
        ∃ ending, next.application = .reaped ending ∧
          code = chaosInitExitCode ending.status := by
  have found := held.found
  have serving := held.serving
  have exit := held.exit
  cases moves_of_step stepped <;> grind -linarith

/-- The exit follows the flush, with no answer between them. -/
theorem history_step (stepped : step pid1 state label = some next)
    (held : Reaped state) :
    (∀ ready, next.control = .serveTheRest ready → next.unwritten = false) ∧
      next.lostHits = false ∧ next.misdirected = false := by
  have target := held.target
  have flushed := held.flushed
  have lostHits := held.lostHits
  have misdirected := held.misdirected
  cases moves_of_step stepped <;> grind -linarith

theorem reaped_step (stepped : step pid1 state label = some next)
    (held : Reaped state) : Reaped next :=
  { leaving := leaving_step stepped held
    target := target_step stepped held
    found := (found_step stepped held).1
    searching := (found_step stepped held).2
    serving := serving_step stepped held
    ended := (exit_step stepped held).1
    exit := (exit_step stepped held).2
    flushed := (history_step stepped held).1
    lostHits := (history_step stepped held).2.1
    misdirected := (history_step stepped held).2.2 }

end Steps

variable {labels : List Label} {final : State} {hasListener : Bool}

theorem kept_run (ran : run (step pid1) (initial hasListener) labels = some final) :
    Owed final ∧ Reaped final :=
  @invariant_of_run _ _ (step pid1) (fun _ => True)
    (fun state => Owed state ∧ Reaped state)
    (fun _ _ _ _ held stepped =>
      ⟨owed_step stepped held.1 held.2, reaped_step stepped held.2⟩) _ _ _
    (fun _ _ => trivial) ⟨owed_initial _, reaped_initial _⟩ ran

/-! ## What every run keeps -/

/-- The exit code of an ending, as a shell reports it. -/
def Ending.code : Ending → Nat
  | .exited code => code.val
  | .signalled signal _ => 128 + (signal.val + 1)

theorem chaosInitExitCode_eq (status : Nat) :
    chaosInitExitCode status =
      if status % 128 = 0 then status / 256 % 256 else 128 + status % 128 := by
  have low : status &&& 0x7f = status % 128 := Nat.and_two_pow_sub_one_eq_mod status 7
  have shifted : status >>> 8 = status / 256 := Nat.shiftRight_eq_div_pow status 8
  have high : (status / 256) &&& 0xff = status / 256 % 256 :=
    Nat.and_two_pow_sub_one_eq_mod (status / 256) 8
  rw [chaosInitExitCode, low, shifted, high]

theorem chaosInitExitCode_status (ending : Ending) :
    chaosInitExitCode ending.status = ending.code := by
  rw [chaosInitExitCode_eq]
  cases ending with
  | exited code =>
      have bound := code.isLt
      have whole : (Ending.exited code).status % 128 = 0 := by
        simp only [Ending.status]
        omega
      rw [if_pos whole, Ending.status, Ending.code]
      omega
  | signalled signal core =>
      have bound := signal.isLt
      have number : (Ending.signalled signal core).status % 128 = signal.val + 1 := by
        cases core <;> simp only [Ending.status, if_true, Bool.false_eq_true, if_false] <;>
          omega
      rw [number, if_neg (Nat.succ_ne_zero _), Ending.code]

/-- The application is terminated while `SIGHUP` and `SIGTERM` are on their way. -/
def terminated : List Label :=
  [.arrives .hup, .arrives .term, .poll, .readSignal .term, .kill, .timer,
    .listener true, .applicationEnds (.signalled 14 false), .orphanEnds, .onTime false,
    .poll, .readSignal .hup, .kill, .timer, .listener false, .onTime false, .poll,
    .readSignal .chld, .reapApplication, .reapOrphan, .nothingToReap, .flush,
    .serveTheRest false]

/-- `SIGTERM` comes and is forwarded. -/
def forwarded : List Label :=
  [.arrives .term, .poll, .readSignal .term, .kill, .timer, .listener false,
    .onTime true]

/-- Where a run of PID 1 with a listener ends. -/
def endOf (labels : List Label) : State :=
  (run (step true) (initial true) labels).getD (initial true)

theorem run_endOf {labels : List Label}
    (runs : (run (step true) (initial true) labels).isSome) :
    run (step true) (initial true) labels = some (endOf labels) := by
  rcases Option.isSome_iff_exists.mp runs with ⟨final, ran⟩
  rw [endOf, ran, Option.getD_some]

/--
`poll` sleeps only when nothing is owed: no signal that arrived waits to be forwarded, no
child that ended waits to be reaped, and the application still runs, or the process has
exited and its background copy sleeps.
-/
theorem sleeping_loop_owes_nothing
    (ran : run (step pid1) (initial hasListener) labels = some final)
    (here : final.control = .poll) (sleeps : step pid1 final .poll = none) :
    final.owed = ∅ ∧ final.orphans = 0 ∧
      (final.application = .running ∨ final.serving ∧ final.exit.isSome) := by
  obtain ⟨owed, reaped⟩ := kept_run ran
  have quiet : final.pending = ∅ := by
    by_contra some
    simp [step, here, poll, State.ready, some] at sleeps
  have running : final.control ≠ .ended := by simp [here]
  have none : ¬(final.application.isZombie ∨ 0 < final.orphans) := by
    intro zombie
    rcases owed.children running zombie with pending | searching
    · simp [quiet] at pending
    · simp [here, Control.reaping] at searching
  have orphans : final.orphans = 0 := by omega
  by_cases gone : final.application.isReaped
  · rcases reaped.leaving gone with serving | leaving | ended
    · exact ⟨(reaped.serving serving).2.2.2, orphans,
        Or.inr ⟨serving, (reaped.serving serving).2.1⟩⟩
    · simp [here, Control.leaving] at leaving
    · exact absurd ended running
  · have kept := Bool.eq_false_of_not_eq_true gone
    refine ⟨?_, orphans, Or.inl ?_⟩
    · refine Finset.eq_empty_of_forall_notMem fun signal member => ?_
      rcases owed.signals running kept signal member with pending | forwards
      · simp [quiet] at pending
      · simp [here, Control.forwards] at forwards
    · cases at_ : final.application with
      | running => rfl
      | ended ending => exact absurd (Or.inl (by rw [at_]; rfl)) none
      | reaped ending => exact absurd (by rw [at_]; rfl) gone

/-- The loop asleep behind one forwarded signal. -/
theorem sleeping_loop_owes_nothing_forwarded :
    (endOf forwarded).owed = ∅ ∧ (endOf forwarded).orphans = 0 ∧
      ((endOf forwarded).application = .running ∨
        (endOf forwarded).serving ∧ (endOf forwarded).exit.isSome) :=
  @sleeping_loop_owes_nothing true forwarded (endOf forwarded) true
    (run_endOf (by decide +kernel)) (by decide +kernel) (by decide +kernel)

/--
The process exits with the code of the application, 128 and the number for a signal, only
behind it, and with all hits written; and no signal is ever sent to the pid of a child
that was reaped, in any order of events.
-/
theorem exit_is_the_applications
    (ran : run (step pid1) (initial hasListener) labels = some final) :
    (∀ code, final.exit = some code →
      ∃ ending, final.application = .reaped ending ∧ code = ending.code) ∧
    (final.control = .ended → final.exit.isSome) ∧
    final.lostHits = false ∧ final.misdirected = false := by
  obtain ⟨-, reaped⟩ := kept_run ran
  refine ⟨fun code exits => ?_, reaped.ended, reaped.lostHits, reaped.misdirected⟩
  rcases reaped.exit code exits with ⟨ending, gone, same⟩
  exact ⟨ending, gone, same.trans (chaosInitExitCode_status ending)⟩

/-- An application that `SIGTERM` ends, with an orphan of its own. -/
theorem exit_is_the_applications_terminated :
    (∀ code, (endOf terminated).exit = some code →
      ∃ ending, (endOf terminated).application = .reaped ending ∧ code = ending.code) ∧
    ((endOf terminated).control = .ended → (endOf terminated).exit.isSome) ∧
    (endOf terminated).lostHits = false ∧ (endOf terminated).misdirected = false :=
  @exit_is_the_applications true terminated (endOf terminated) true
    (run_endOf (by decide +kernel))

example : (endOf terminated).control = .ended ∧ (endOf terminated).exit = some 143 := by
  decide +kernel

end ChaosLibs.Init.MainLoop
