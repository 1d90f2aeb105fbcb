import ChaosLibs.Init.CommandLine
import ChaosLibs.Machine.LabelledRun

/-!
# The handover of the listener

`main` of `chaos_init.c` from its fork to its loop, as two processes.  The child finds out
whether the filter can be installed, installs it, sends the listener or an errno over the
socket pair, waits for the go signal and executes the command.  The parent receives the
message, starts the rule cores, writes the status file, sends the go signal and serves.

Each system call is a step, its answer is in the label; labels of both processes come in
any order.  Someone else may kill the child, or send it the go signal, at any time.
-/

namespace ChaosLibs.Init.Handover

open ChaosLibs.Common.CString
open ChaosLibs.Common.StatusReport
open ChaosLibs.Init.CommandLine
open ChaosLibs.Init.SeccompFilter
open ChaosLibs.Machine

/-! ## The functions of the child -/

/-- An errno value; those of Linux fit in an exit status. -/
structure Errno where
  value : Nat
  positive : 0 < value
  small : value < 256
deriving DecidableEq

/-- The errno of a failed system call, 0 for one that did not fail. -/
def errorOf : Option Errno → Nat
  | none => 0
  | some error => error.value

/-- `chaos_init_kernel_supported`; `%u` keeps 32 bits. -/
def chaosInitKernelSupported (release : Bytes) : Bool :=
  match strtoul release with
  | none => false
  | some (major, rest) =>
      if rest.head? = some (byte '.') then
        match strtoul rest.tail with
        | none => false
        | some (minor, _) =>
            5 < major % 2 ^ 32 || (major % 2 ^ 32 == 5 && 5 ≤ minor % 2 ^ 32)
      else false

/-- `chaos_init_install`: with the killable wait, and without it after `EINVAL`. -/
def chaosInitInstall (killable plain : Option Errno) : Option Errno :=
  if errorOf killable = eInval then plain else killable

/-- How the probe of `chaos_init_try_install` ends. -/
inductive Probe where
  | forkFailed
  | exited (privileges killable plain : Option Errno)
  | signalled
  /-- `waitpid` fails, and the status stays 0. -/
  | notWaited
deriving DecidableEq

/-- The exit status of the probe. -/
def probeStatus (privileges killable plain : Option Errno) : Nat :=
  if privileges.isNone then errorOf (chaosInitInstall killable plain) % 256
  else errorOf privileges % 256

/-- `chaos_init_try_install`. -/
def chaosInitTryInstall : Probe → Nat
  | .forkFailed | .notWaited => 0
  | .exited privileges killable plain => probeStatus privileges killable plain
  | .signalled => eInval

/-- `CHAOS_INIT_EXIT_HANDOVER`, `_NOT_EXECUTABLE` and `_NOT_FOUND`. -/
def chaosInitExitHandover : Nat := 125
def chaosInitExitNotExecutable : Nat := 126
def chaosInitExitNotFound : Nat := 127

/-- `ENOENT` and `ENOEXEC`. -/
def eNoent : Nat := 2
def eNoexec : Nat := 8

/--
The errno that the start of the command ends with, `none` when it is executed: `direct` is
the outcome of `execv`, `shell` the one of `chaos_init_exec_shell`.
-/
def startError (found : Int) (direct shell : Option Errno) : Option Nat :=
  if 0 < found then
    if errorOf direct = eNoexec then shell.map Errno.value else direct.map Errno.value
  else some (if found < 0 then eAcces else eNoent)

/-- The exit code of a command that cannot be started. -/
def startExitCode (error : Nat) : Nat :=
  if error = eNoent then chaosInitExitNotFound else chaosInitExitNotExecutable

/-! ## The two processes -/

/-- What `main` has found out before its fork. -/
structure Launch where
  libs : UInt32
  /-- The pid of `chaos-init`. -/
  pid : Int
  mptcpOff : Bool
  /-- What `chaos_init_find_command` returned. -/
  found : Int

/-- The next call of the child. -/
inductive ChildAt where
  | uname
  | actionAvailable
  | tryInstall
  | noNewPrivs
  | install
  | sendmsg (error : Nat)
  | sigwait
  | sigprocmask
  | execv
  | application
  | exited (code : Nat)
  | killed
deriving DecidableEq

/-- Whether the child has ended. -/
def ChildAt.ended : ChildAt → Bool
  | .exited _ | .killed => true
  | _ => false

/-- Whether the child has still to find out about the filter. -/
def ChildAt.beforeInstall : ChildAt → Bool
  | .uname | .actionAvailable | .tryInstall | .noNewPrivs | .install => true
  | _ => false

/-- Whether the child has not taken the go signal yet. -/
def ChildAt.beforeGo : ChildAt → Bool
  | .uname | .actionAvailable | .tryInstall | .noNewPrivs | .install | .sendmsg _
  | .sigwait => true
  | _ => false

/-- The next call of the parent. -/
inductive ParentAt where
  | recvmsg
  | close
  | notifSizes
  | startCores
  | writeStatus
  | sendGo
  | makeDescriptors
  | serve
  | waitpid
  | exited (code : Nat)
deriving DecidableEq

/-- The message of the handover: the payload, and whether a listener comes with it. -/
structure Message where
  error : Nat
  listener : Bool
deriving DecidableEq

/-- Both processes and what is between them; the last three fields are history. -/
structure State where
  child : ChildAt
  noNewPrivs : Bool
  /-- A filter with a listener is installed in the child. -/
  installed : Bool
  /-- The go signal is pending in the child. -/
  go : Bool
  /-- `GODEBUG` is looked at for the application. -/
  mptcpSet : Bool
  parent : ParentAt
  socketOpen : Bool
  channel : Option Message
  listener : Bool
  error : Nat
  /-- The libraries whose rule cores are started. -/
  cores : UInt32
  /-- The text handed to `chaos_status_replace_file`. -/
  status : Option Bytes
  /-- What `chaos_init_try_install` returned. -/
  probe : Option Nat
  /-- `recvmsg` failed, or it lost a descriptor. -/
  lost : Bool
  /-- Someone else sent the go signal. -/
  stray : Bool
deriving DecidableEq

/-- Both processes right after the fork. -/
def initial : State where
  child := .uname
  noNewPrivs := false
  installed := false
  go := false
  mptcpSet := false
  parent := .recvmsg
  socketOpen := true
  channel := none
  listener := false
  error := 0
  cores := 0
  status := none
  probe := none
  lost := false
  stray := false

/-- What `recvmsg` comes back with. -/
inductive Arrival where
  | message (descriptor : Bool)
  | endOfFile
  | failed
deriving DecidableEq

/-- The calls of both processes with their answers, and what others do to the child. -/
inductive Label where
  | uname (release : Option Bytes)
  | actionAvailable (refused : Option Errno)
  | tryInstall (probe : Probe)
  | noNewPrivs (refused : Option Errno)
  | install (killable plain : Option Errno)
  | sendmsg (whole : Bool)
  | sigwait (received : Bool)
  | sigprocmask (restored : Bool)
  | execv (direct shell : Option Errno)
  | recvmsg (arrival : Arrival)
  | close
  | notifSizes (sizes : Option (Nat × Nat))
  | startCores
  | writeStatus
  | sendGo
  | makeDescriptors (made : Bool)
  | waitpid
  | strayGo
  | kill
deriving DecidableEq

/-! ## Steps of the child -/

/-- The child refuses the filter with an errno. -/
def State.refuse (state : State) (error : Nat) : State :=
  { state with child := .sendmsg error }

/-- The child is killed, unless it has ended. -/
def State.killChild (state : State) : State :=
  { state with child := if state.child.ended then state.child else .killed }

/-- `uname` and `chaos_init_kernel_supported`. -/
def uname (state : State) (release : Option Bytes) : State :=
  if release.any chaosInitKernelSupported then { state with child := .actionAvailable }
  else state.refuse eNotsup

/-- A call after which the child goes on, or refuses with its errno. -/
def goOn (state next : State) (refused : Option Errno) : State :=
  match refused with
  | none => next
  | some error => state.refuse error.value

/-- The probe. -/
def tryInstall (state : State) (probe : Probe) : State :=
  let tried := { state with probe := some (chaosInitTryInstall probe) }
  if chaosInitTryInstall probe ≠ 0 then tried.refuse (chaosInitTryInstall probe)
  else { tried with child := .noNewPrivs }

/-- The handover `sendmsg`; it cannot be whole when the parent has closed its end. -/
def sendmsg (state : State) (error : Nat) (whole : Bool) : Option State :=
  if whole then
    if state.socketOpen then
      some { state with child := .sigwait, channel := some ⟨error, state.installed⟩ }
    else none
  else some { state with child := .exited chaosInitExitHandover }

/-- `sigwait`. -/
def sigwait (state : State) (received : Bool) : Option State :=
  if received then
    if state.go then some { state with child := .sigprocmask, go := false } else none
  else some { state with child := .exited chaosInitExitHandover }

/-- `sigprocmask`: a go signal that is pending then ends the child. -/
def sigprocmask (launch : Launch) (state : State) (restored : Bool) : State :=
  if restored then
    if state.go then { state with child := .killed }
    else { state with child := .execv, mptcpSet := launch.mptcpOff && state.installed }
  else { state with child := .exited chaosInitExitHandover }

/-- `execv` and what follows it. -/
def execv (launch : Launch) (state : State) (direct shell : Option Errno) : State :=
  match startError launch.found direct shell with
  | none => { state with child := .application }
  | some error => { state with child := .exited (startExitCode error) }

/-! ## Steps of the parent -/

/-- `chaos_init_receive_listener`. -/
def recvmsg (state : State) (arrival : Arrival) : Option State :=
  match arrival with
  | .message descriptor =>
      state.channel.map fun message =>
        { state with
          parent := .close
          channel := none
          listener := message.listener && descriptor
          error := message.error
          lost := state.lost || (message.listener && !descriptor) }
  | .endOfFile =>
      if state.child.ended ∧ state.channel = none then
        some { state with parent := .close, listener := false, error := 0 }
      else none
  | .failed =>
      some { state with parent := .close, listener := false, error := 0, lost := true }

/-- The parent closes its end of the socket pair, and looks at what it received. -/
def close (state : State) : State :=
  { state with
    socketOpen := false
    channel := none
    parent :=
      if state.listener then .notifSizes
      else if state.error = 0 then .waitpid
      else .startCores }

/-- `CHAOS_INIT_NOTIF_BUFFER`. -/
def chaosInitNotifBuffer : Nat := 512

/-- Whether both structures of the kernel fit in the buffers. -/
def sizesFit (sizes : Nat × Nat) : Bool :=
  sizes.1 ≤ chaosInitNotifBuffer && sizes.2 ≤ chaosInitNotifBuffer

/-- `SECCOMP_GET_NOTIF_SIZES`: the child is killed when they do not fit. -/
def notifSizes (state : State) (sizes : Option (Nat × Nat)) : State :=
  if sizes.any sizesFit then { state with parent := .startCores }
  else { state.killChild with parent := .exited chaosInitExitHandover }

/-- The libraries that have a rule core. -/
def coreLibs : UInt32 :=
  chaosInitLibIo ||| chaosInitLibNet ||| chaosInitLibMemory ||| chaosInitLibProcess

/-- `chaos_init_*_start`. -/
def startCores (launch : Launch) (state : State) : State :=
  { state with
    parent := .writeStatus
    cores := if state.listener then launch.libs &&& coreLibs else 0 }

/-- `chaos_init_write_status`. -/
def writeStatus (launch : Launch) (state : State) : State :=
  { state with
    parent := .sendGo
    status := some
      (chaosInitFormatStatus chaosStatusBufferSize launch.libs
        (if state.listener then none else some (chaosInitUnsupportedReason state.error))
        launch.pid (launch.mptcpOff && state.listener)) }

/-- The go signal: it ends a child that has restored its signal mask already. -/
def sendGo (state : State) : State :=
  { state with
    parent := .makeDescriptors
    go := state.go || (state.child.beforeGo || state.child == .sigprocmask)
    child := if state.child = .execv then .killed else state.child }

/-- `signalfd` and `timerfd_create`: the child is killed when there are none. -/
def makeDescriptors (state : State) (made : Bool) : State :=
  if made then { state with parent := .serve }
  else { state.killChild with parent := .exited chaosInitExitHandover }

/-! ## Runs -/

/-- One call of one of the processes, or something done to the child. -/
def step (launch : Launch) (state : State) : Label → Option State
  | .uname release =>
      if state.child = .uname then some (uname state release) else none
  | .actionAvailable refused =>
      if state.child = .actionAvailable then
        some (goOn state { state with child := .tryInstall } refused)
      else none
  | .tryInstall probe =>
      if state.child = .tryInstall then some (tryInstall state probe) else none
  | .noNewPrivs refused =>
      if state.child = .noNewPrivs then
        some (goOn state { state with child := .install, noNewPrivs := true } refused)
      else none
  | .install killable plain =>
      if state.child = .install then
        some (goOn state { state with child := .sendmsg 0, installed := true }
          (chaosInitInstall killable plain))
      else none
  | .sendmsg whole =>
      match state.child with
      | .sendmsg error => sendmsg state error whole
      | _ => none
  | .sigwait received =>
      if state.child = .sigwait then sigwait state received else none
  | .sigprocmask restored =>
      if state.child = .sigprocmask then some (sigprocmask launch state restored) else none
  | .execv direct shell =>
      if state.child = .execv then some (execv launch state direct shell) else none
  | .recvmsg arrival =>
      if state.parent = .recvmsg then recvmsg state arrival else none
  | .close => if state.parent = .close then some (close state) else none
  | .notifSizes sizes =>
      if state.parent = .notifSizes then some (notifSizes state sizes) else none
  | .startCores =>
      if state.parent = .startCores then some (startCores launch state) else none
  | .writeStatus =>
      if state.parent = .writeStatus then some (writeStatus launch state) else none
  | .sendGo => if state.parent = .sendGo then some (sendGo state) else none
  | .makeDescriptors made =>
      if state.parent = .makeDescriptors then some (makeDescriptors state made) else none
  | .waitpid =>
      if state.parent = .waitpid ∧ state.child.ended then
        some { state with parent := .exited chaosInitExitHandover }
      else none
  | .strayGo =>
      if state.child.beforeGo ∧ ¬state.go then
        some { state with go := true, stray := true }
      else none
  | .kill =>
      if state.child.ended then none else some { state with child := .killed }

/-! ## The invariant -/

/-- Whether the message of the child is sent. -/
def ChildAt.sent : ChildAt → Bool
  | .sigwait | .sigprocmask | .execv | .application => true
  | _ => false

/-- Whether the parent knows that there is a listener, or that the filter was refused. -/
def ParentAt.informed : ParentAt → Bool
  | .notifSizes | .startCores | .writeStatus | .sendGo | .makeDescriptors | .serve => true
  | _ => false

/-- Whether the parent has started the rule cores. -/
def ParentAt.started : ParentAt → Bool
  | .writeStatus | .sendGo | .makeDescriptors | .serve => true
  | _ => false

/-- Whether the parent has written the status file. -/
def ParentAt.reported : ParentAt → Bool
  | .sendGo | .makeDescriptors | .serve => true
  | _ => false

/-- Whether the parent has sent the go signal. -/
def ParentAt.released : ParentAt → Bool
  | .makeDescriptors | .serve => true
  | _ => false

/-- Whether the parent still has its end of the socket pair. -/
def ParentAt.connected : ParentAt → Bool
  | .recvmsg | .close => true
  | _ => false

/-- The status file of this run. -/
def statusOf (launch : Launch) (state : State) : Bytes :=
  chaosInitFormatStatus chaosStatusBufferSize launch.libs
    (if state.listener then none else some (chaosInitUnsupportedReason state.error))
    launch.pid (launch.mptcpOff && state.listener)

/-- What the child has done to itself. -/
structure Privileges (state : State) : Prop where
  probed : state.child = .noNewPrivs ∨ state.child = .install ∨ state.noNewPrivs →
    state.probe = some 0
  set : state.child = .install ∨ state.installed → state.noNewPrivs
  none : state.child.beforeInstall → state.installed = false
  clear : state.child.beforeInstall → state.noNewPrivs → state.child = .install
  payload : ∀ error, state.child = .sendmsg error → (error = 0 ↔ state.installed)

/-- What the parent knows of the child. -/
structure Knowledge (state : State) : Prop where
  message : ∀ message ∈ state.channel,
    message.listener = state.installed ∧ (message.error = 0 ↔ state.installed) ∧
      (state.child.sent ∨ state.child.ended)
  connected : state.socketOpen ↔ state.parent.connected
  waiting : state.parent = .recvmsg → state.child.sent → state.channel.isSome
  closing : state.parent = .close →
    (state.listener → state.installed) ∧ (state.error ≠ 0 → state.installed = false) ∧
      (state.listener = false → state.error = 0 → state.lost ∨ state.child.ended)
  informed : state.parent.informed →
    state.listener = state.installed ∧ (state.error = 0 ↔ state.installed)
  later : (state.parent = .close ∧ (state.listener ∨ state.error ≠ 0)) ∨
    state.parent.informed → state.child.sent ∨ state.child.ended
  reaping : state.parent = .waitpid → state.lost ∨ state.child.ended

/-- The order of the status file, the go signal and the command. -/
structure Order (launch : Launch) (state : State) : Prop where
  cores : state.parent.started →
    state.cores = if state.listener then launch.libs &&& coreLibs else 0
  status : state.parent.reported → state.status = some (statusOf launch state)
  go : state.go ∨ state.child = .sigprocmask ∨ state.child = .execv ∨
    state.child = .application →
    state.stray ∨ state.parent.released ∨ state.child.ended
  again : state.child = .sigprocmask → state.go → state.stray
  released : state.parent.released → state.child = .sigwait → state.go
  mptcp : state.child = .execv ∨ state.child = .application →
    state.mptcpSet = (launch.mptcpOff && state.installed)
  ended : ∀ code, state.parent = .exited code →
    code = chaosInitExitHandover ∧ state.child.ended

/-- All of it. -/
structure Consistent (launch : Launch) (state : State) : Prop where
  privileges : Privileges state
  knowledge : Knowledge state
  order : Order launch state

theorem consistent_initial (launch : Launch) : Consistent launch initial := by
  refine ⟨⟨?_, ?_, ?_, ?_, ?_⟩, ⟨?_, ?_, ?_, ?_, ?_, ?_, ?_⟩, ⟨?_, ?_, ?_, ?_, ?_, ?_, ?_⟩⟩ <;>
    simp [initial, ChildAt.beforeInstall, ChildAt.sent, ParentAt.connected,
      ParentAt.informed, ParentAt.started, ParentAt.reported, ParentAt.released]

/-! ## What a step can do -/

/-- The steps by their effect; `beforeInstall` and `ended` say where the child is. -/
inductive Moves (launch : Launch) (state : State) : State → Prop where
  | supported (here : state.child = .uname) :
      Moves launch state { state with child := .actionAvailable }
  | available (here : state.child = .actionAvailable) :
      Moves launch state { state with child := .tryInstall }
  | refuse {error : Nat} (here : state.child.beforeInstall) (positive : error ≠ 0) :
      Moves launch state (state.refuse error)
  | probeRefused {error : Nat} (here : state.child = .tryInstall) (positive : error ≠ 0) :
      Moves launch state ({ state with probe := some error }.refuse error)
  | probed (here : state.child = .tryInstall) :
      Moves launch state { state with probe := some 0, child := .noNewPrivs }
  | privileged (here : state.child = .noNewPrivs) :
      Moves launch state { state with child := .install, noNewPrivs := true }
  | installs (here : state.child = .install) :
      Moves launch state { state with child := .sendmsg 0, installed := true }
  | sends {error : Nat} (here : state.child = .sendmsg error) (isOpen : state.socketOpen) :
      Moves launch state
        { state with child := .sigwait, channel := some ⟨error, state.installed⟩ }
  | takesGo (here : state.child = .sigwait) (pending : state.go) :
      Moves launch state { state with child := .sigprocmask, go := false }
  | restores (here : state.child = .sigprocmask) (clear : state.go = false) :
      Moves launch state
        { state with child := .execv, mptcpSet := launch.mptcpOff && state.installed }
  | executes (here : state.child = .execv) :
      Moves launch state { state with child := .application }
  | ends {child : ChildAt} (running : state.child.ended = false) (last : child.ended) :
      Moves launch state { state with child := child }
  | receives {message : Message} {descriptor : Bool} (here : state.parent = .recvmsg)
      (arrived : state.channel = some message) :
      Moves launch state
        { state with
          parent := .close
          channel := none
          listener := message.listener && descriptor
          error := message.error
          lost := state.lost || (message.listener && !descriptor) }
  | hearsTheEnd (here : state.parent = .recvmsg) (last : state.child.ended) :
      Moves launch state { state with parent := .close, listener := false, error := 0 }
  | hearsNothing (here : state.parent = .recvmsg) :
      Moves launch state
        { state with parent := .close, listener := false, error := 0, lost := true }
  | closes (here : state.parent = .close) : Moves launch state (close state)
  | fits (here : state.parent = .notifSizes) :
      Moves launch state { state with parent := .startCores }
  | abandons (here : state.parent = .notifSizes ∨ state.parent = .makeDescriptors) :
      Moves launch state { state.killChild with parent := .exited chaosInitExitHandover }
  | starts (here : state.parent = .startCores) : Moves launch state (startCores launch state)
  | reports (here : state.parent = .writeStatus) :
      Moves launch state (writeStatus launch state)
  | releases (here : state.parent = .sendGo) : Moves launch state (sendGo state)
  | serves (here : state.parent = .makeDescriptors) :
      Moves launch state { state with parent := .serve }
  | reaps (here : state.parent = .waitpid) (last : state.child.ended) :
      Moves launch state { state with parent := .exited chaosInitExitHandover }
  | stray (here : state.child.beforeGo) (clear : state.go = false) :
      Moves launch state { state with go := true, stray := true }

variable {launch : Launch} {state next : State}

theorem Moves.goOn {after : State} {refused : Option Errno}
    (here : state.child.beforeInstall) (moves : Moves launch state after) :
    Moves launch state (goOn state after refused) := by
  cases refused with
  | none => exact moves
  | some error => exact .refuse here (Nat.pos_iff_ne_zero.mp error.positive)

/-- Every step is one of them. -/
theorem moves_of_step {label : Label} (stepped : step launch state label = some next) :
    Moves launch state next := by
  cases label with
  | uname release =>
      obtain ⟨here, ⟨⟩⟩ := Option.ite_none_right_eq_some.mp stepped
      unfold uname
      split
      · exact .supported here
      · exact .refuse (by rw [here]; rfl) (by decide)
  | actionAvailable refused =>
      obtain ⟨here, ⟨⟩⟩ := Option.ite_none_right_eq_some.mp stepped
      exact .goOn (by rw [here]; rfl) (.available here)
  | tryInstall probe =>
      obtain ⟨here, ⟨⟩⟩ := Option.ite_none_right_eq_some.mp stepped
      unfold tryInstall
      dsimp only
      split
      · rename_i refused
        exact .probeRefused here refused
      · rename_i accepted
        rw [not_not.mp accepted]
        exact .probed here
  | noNewPrivs refused =>
      obtain ⟨here, ⟨⟩⟩ := Option.ite_none_right_eq_some.mp stepped
      exact .goOn (by rw [here]; rfl) (.privileged here)
  | install killable plain =>
      obtain ⟨here, ⟨⟩⟩ := Option.ite_none_right_eq_some.mp stepped
      exact .goOn (by rw [here]; rfl) (.installs here)
  | sendmsg whole =>
      unfold step at stepped
      dsimp only at stepped
      split at stepped
      · rename_i error here
        unfold sendmsg at stepped
        split at stepped
        · obtain ⟨isOpen, ⟨⟩⟩ := Option.ite_none_right_eq_some.mp stepped
          exact .sends here isOpen
        · cases stepped
          exact .ends (by rw [here]; rfl) rfl
      · cases stepped
  | sigwait received =>
      obtain ⟨here, waited⟩ := Option.ite_none_right_eq_some.mp stepped
      unfold sigwait at waited
      split at waited
      · obtain ⟨pending, ⟨⟩⟩ := Option.ite_none_right_eq_some.mp waited
        exact .takesGo here pending
      · cases waited
        exact .ends (by rw [here]; rfl) rfl
  | sigprocmask restored =>
      obtain ⟨here, ⟨⟩⟩ := Option.ite_none_right_eq_some.mp stepped
      unfold sigprocmask
      split
      · split
        · exact .ends (by rw [here]; rfl) rfl
        · rename_i clear
          exact .restores here (Bool.eq_false_of_not_eq_true clear)
      · exact .ends (by rw [here]; rfl) rfl
  | execv direct shell =>
      obtain ⟨here, ⟨⟩⟩ := Option.ite_none_right_eq_some.mp stepped
      unfold execv
      split
      · exact .executes here
      · exact .ends (by rw [here]; rfl) rfl
  | recvmsg arrival =>
      obtain ⟨here, received⟩ := Option.ite_none_right_eq_some.mp stepped
      cases arrival with
      | message descriptor =>
          obtain ⟨message, arrived, rfl⟩ := Option.map_eq_some_iff.mp received
          exact .receives here arrived
      | endOfFile =>
          obtain ⟨last, ⟨⟩⟩ := Option.ite_none_right_eq_some.mp received
          exact .hearsTheEnd here last.1
      | failed =>
          cases received
          exact .hearsNothing here
  | close =>
      obtain ⟨here, ⟨⟩⟩ := Option.ite_none_right_eq_some.mp stepped
      exact .closes here
  | notifSizes sizes =>
      obtain ⟨here, ⟨⟩⟩ := Option.ite_none_right_eq_some.mp stepped
      unfold notifSizes
      split
      · exact .fits here
      · exact .abandons (.inl here)
  | startCores =>
      obtain ⟨here, ⟨⟩⟩ := Option.ite_none_right_eq_some.mp stepped
      exact .starts here
  | writeStatus =>
      obtain ⟨here, ⟨⟩⟩ := Option.ite_none_right_eq_some.mp stepped
      exact .reports here
  | sendGo =>
      obtain ⟨here, ⟨⟩⟩ := Option.ite_none_right_eq_some.mp stepped
      exact .releases here
  | makeDescriptors made =>
      obtain ⟨here, ⟨⟩⟩ := Option.ite_none_right_eq_some.mp stepped
      unfold makeDescriptors
      split
      · exact .serves here
      · exact .abandons (.inr here)
  | waitpid =>
      obtain ⟨here, ⟨⟩⟩ := Option.ite_none_right_eq_some.mp stepped
      exact .reaps here.1 here.2
  | strayGo =>
      obtain ⟨here, ⟨⟩⟩ := Option.ite_none_right_eq_some.mp stepped
      exact .stray here.1 (Bool.eq_false_of_not_eq_true here.2)
  | kill =>
      unfold step at stepped
      dsimp only at stepped
      split at stepped
      · cases stepped
      · rename_i running
        cases stepped
        exact .ends (Bool.eq_false_of_not_eq_true running) rfl

/-! ## The invariant is kept -/

theorem ChildAt.early {child : ChildAt} (early : child.beforeInstall = true) :
    child.sent = false ∧ child.ended = false := by
  cases child <;> first | exact ⟨rfl, rfl⟩ | cases early

theorem ChildAt.last {child : ChildAt} (last : child.ended = true) :
    child.sent = false ∧ child.beforeGo = false ∧ child.beforeInstall = false := by
  cases child <;> first | exact ⟨rfl, rfl, rfl⟩ | cases last

theorem ChildAt.unsent {child : ChildAt} (late : child.beforeInstall = false)
    (unsent : child.sent = false) (running : child.ended = false) :
    ∃ error, child = .sendmsg error := by
  cases child <;> simp_all [ChildAt.beforeInstall, ChildAt.sent, ChildAt.ended]

theorem ParentAt.reported_started {parent : ParentAt} (reported : parent.reported = true) :
    parent.started = true ∧ parent.informed = true := by
  cases parent <;> first | exact ⟨rfl, rfl⟩ | cases reported

theorem ParentAt.released_reported {parent : ParentAt} (released : parent.released = true) :
    parent.reported = true ∧ parent.informed = true := by
  cases parent <;> first | exact ⟨rfl, rfl⟩ | cases released

section Steps

attribute [local grind →] ChildAt.early ChildAt.last ParentAt.reported_started
  ParentAt.released_reported

attribute [local grind] ChildAt.beforeInstall ChildAt.sent ChildAt.ended ChildAt.beforeGo
  ParentAt.informed ParentAt.started ParentAt.reported ParentAt.released ParentAt.connected
  State.refuse State.killChild close startCores writeStatus sendGo statusOf

/-! What the child does to itself. -/

theorem probed_step (moves : Moves launch state next) (held : Privileges state) :
    next.child = .noNewPrivs ∨ next.child = .install ∨ next.noNewPrivs →
      next.probe = some 0 := by
  have probed := held.probed
  have clear := held.clear
  cases moves <;> grind -linarith

theorem set_step (moves : Moves launch state next) (held : Privileges state) :
    next.child = .install ∨ next.installed → next.noNewPrivs := by
  have set := held.set
  cases moves <;> grind -linarith

theorem none_step (moves : Moves launch state next) (held : Privileges state) :
    next.child.beforeInstall → next.installed = false := by
  have none := held.none
  cases moves <;> grind -linarith

theorem clear_step (moves : Moves launch state next) (held : Privileges state) :
    next.child.beforeInstall → next.noNewPrivs → next.child = .install := by
  have clear := held.clear
  cases moves <;> grind -linarith

/-- The payload is 0 exactly with a filter. -/
theorem payload_step (moves : Moves launch state next) (held : Privileges state) :
    ∀ error, next.child = .sendmsg error → (error = 0 ↔ next.installed) := by
  have none := held.none
  have payload := held.payload
  cases moves <;> grind -linarith

theorem privileges_step (moves : Moves launch state next) (held : Privileges state) :
    Privileges next :=
  ⟨probed_step moves held, set_step moves held, none_step moves held,
    clear_step moves held, payload_step moves held⟩

/-! What the parent learns of the child. -/

theorem message_step (moves : Moves launch state next) (privileges : Privileges state)
    (held : Knowledge state) :
    ∀ message ∈ next.channel,
      message.listener = next.installed ∧ (message.error = 0 ↔ next.installed) ∧
        (next.child.sent ∨ next.child.ended) := by
  have payload := privileges.payload
  have message := held.message
  cases moves <;> grind -linarith

theorem connected_step (moves : Moves launch state next) (held : Knowledge state) :
    next.socketOpen ↔ next.parent.connected := by
  have connected := held.connected
  cases moves <;> grind -linarith

/-- The message of the child stays in the socket until the parent receives it. -/
theorem waiting_step (moves : Moves launch state next) (held : Knowledge state) :
    next.parent = .recvmsg → next.child.sent → next.channel.isSome := by
  have waiting := held.waiting
  cases moves <;> grind -linarith

theorem closing_step (moves : Moves launch state next) (held : Knowledge state) :
    next.parent = .close →
      (next.listener → next.installed) ∧ (next.error ≠ 0 → next.installed = false) ∧
        (next.listener = false → next.error = 0 → next.lost ∨ next.child.ended) := by
  have message := held.message
  have closing := held.closing
  have later := held.later
  cases moves <;> grind -linarith

theorem informed_step (moves : Moves launch state next) (held : Knowledge state) :
    next.parent.informed →
      next.listener = next.installed ∧ (next.error = 0 ↔ next.installed) := by
  have closing := held.closing
  have informed := held.informed
  have later := held.later
  cases moves <;> grind -linarith

theorem later_step (moves : Moves launch state next) (held : Knowledge state) :
    (next.parent = .close ∧ (next.listener ∨ next.error ≠ 0)) ∨ next.parent.informed →
      next.child.sent ∨ next.child.ended := by
  have message := held.message
  have later := held.later
  cases moves <;> grind -linarith

theorem reaping_step (moves : Moves launch state next) (held : Knowledge state) :
    next.parent = .waitpid → next.lost ∨ next.child.ended := by
  have closing := held.closing
  have reaping := held.reaping
  cases moves <;> grind -linarith

theorem knowledge_step (moves : Moves launch state next) (privileges : Privileges state)
    (held : Knowledge state) : Knowledge next :=
  ⟨message_step moves privileges held, connected_step moves held,
    waiting_step moves held, closing_step moves held, informed_step moves held,
    later_step moves held, reaping_step moves held⟩

/-! The order of what both do. -/

theorem cores_step (moves : Moves launch state next) (held : Order launch state) :
    next.parent.started →
      next.cores = if next.listener then launch.libs &&& coreLibs else 0 := by
  have cores := held.cores
  cases moves <;> grind -linarith

theorem status_step (moves : Moves launch state next) (held : Order launch state) :
    next.parent.reported → next.status = some (statusOf launch next) := by
  have status := held.status
  cases moves <;> grind -linarith

/-- The child passes `sigwait` only behind the go signal. -/
theorem go_step (moves : Moves launch state next) (held : Order launch state) :
    next.go ∨ next.child = .sigprocmask ∨ next.child = .execv ∨
        next.child = .application →
      next.stray ∨ next.parent.released ∨ next.child.ended := by
  have go := held.go
  have ended := held.ended
  cases moves <;> grind -linarith

theorem again_step (moves : Moves launch state next) (held : Order launch state) :
    next.child = .sigprocmask → next.go → next.stray := by
  have go := held.go
  have again := held.again
  cases moves <;> grind -linarith

theorem released_step (moves : Moves launch state next) (knowledge : Knowledge state)
    (held : Order launch state) :
    next.parent.released → next.child = .sigwait → next.go := by
  have later := knowledge.later
  have released := held.released
  cases moves <;> grind -linarith

theorem mptcp_step (moves : Moves launch state next) (held : Order launch state) :
    next.child = .execv ∨ next.child = .application →
      next.mptcpSet = (launch.mptcpOff && next.installed) := by
  have mptcp := held.mptcp
  cases moves <;> grind -linarith

theorem ended_step (moves : Moves launch state next) (held : Order launch state) :
    ∀ code, next.parent = .exited code →
      code = chaosInitExitHandover ∧ next.child.ended := by
  have ended := held.ended
  cases moves <;> grind -linarith

theorem order_step (moves : Moves launch state next) (knowledge : Knowledge state)
    (held : Order launch state) : Order launch next :=
  ⟨cores_step moves held, status_step moves held, go_step moves held,
    again_step moves held, released_step moves knowledge held, mptcp_step moves held,
    ended_step moves held⟩

end Steps

theorem consistent_step {label : Label} (stepped : step launch state label = some next)
    (held : Consistent launch state) : Consistent launch next := by
  have moves := moves_of_step stepped
  exact
    { privileges := privileges_step moves held.privileges
      knowledge := knowledge_step moves held.privileges held.knowledge
      order := order_step moves held.knowledge held.order }

/-- What every run keeps. -/
theorem consistent_run {labels : List Label} {final : State}
    (ran : run (step launch) initial labels = some final) : Consistent launch final :=
  @invariant_of_run _ _ (step launch) (fun _ => True) _
    (fun _ _ _ _ held stepped => consistent_step stepped held) _ _ _
    (fun _ _ => trivial) (consistent_initial launch) ran

/-! ## The end of the handover -/

/-- The calls that the child has before it. -/
def ChildAt.remaining : ChildAt → Nat
  | .uname => 10
  | .actionAvailable => 9
  | .tryInstall => 8
  | .noNewPrivs => 7
  | .install => 6
  | .sendmsg _ => 5
  | .sigwait => 4
  | .sigprocmask => 3
  | .execv => 2
  | .application => 1
  | .exited _ | .killed => 0

/-- The calls that the parent has before it. -/
def ParentAt.remaining : ParentAt → Nat
  | .recvmsg => 8
  | .close => 7
  | .notifSizes => 6
  | .startCores => 5
  | .writeStatus => 4
  | .sendGo => 3
  | .makeDescriptors => 2
  | .waitpid => 1
  | .serve | .exited _ => 0

/-- What is left to do; one go signal can still come from someone else. -/
def State.remaining (state : State) : Nat :=
  state.child.remaining + state.parent.remaining +
    if state.child.beforeGo && !state.go then 1 else 0

theorem ChildAt.remaining_early {child : ChildAt} (early : child.beforeInstall = true) :
    5 < child.remaining ∧ child.beforeGo = true := by
  cases child <;> first | exact ⟨by decide, rfl⟩ | cases early

theorem ChildAt.remaining_last {child : ChildAt} (last : child.ended = true) :
    child.remaining = 0 ∧ child.beforeGo = false := by
  cases child <;> first | exact ⟨rfl, rfl⟩ | cases last

theorem ChildAt.remaining_running {child : ChildAt} (running : child.ended = false) :
    0 < child.remaining := by
  cases child <;> simp_all [ChildAt.ended, ChildAt.remaining]

section Remaining

attribute [local grind →] ChildAt.remaining_early ChildAt.remaining_last
  ChildAt.remaining_running

attribute [local grind] State.remaining ChildAt.remaining ParentAt.remaining
  ChildAt.beforeGo State.refuse State.killChild close startCores writeStatus sendGo

/-- No call is made twice. -/
theorem remaining_step (moves : Moves launch state next) :
    next.remaining < state.remaining := by
  cases moves <;> grind -linarith

end Remaining

/-- The labels that answer a call; a call that waits is not answered by its failure. -/
def Label.answers : Label → Bool
  | .kill | .strayGo | .recvmsg .failed | .sigwait false => false
  | _ => true

/-- Each process has ended, executes the command, serves, or waits. -/
def Blocked (launch : Launch) (state : State) : Prop :=
  ∀ label : Label, label.answers → step launch state label = none

theorem child_of_blocked (blocked : Blocked launch state) :
    state.child = .sigwait ∧ state.go = false ∨ state.child = .application ∨
      state.child.ended := by
  cases here : state.child with
  | uname => simpa [step, here] using blocked (.uname none) rfl
  | actionAvailable => simpa [step, here] using blocked (.actionAvailable none) rfl
  | tryInstall => simpa [step, here] using blocked (.tryInstall .signalled) rfl
  | noNewPrivs => simpa [step, here] using blocked (.noNewPrivs none) rfl
  | install => simpa [step, here] using blocked (.install none none) rfl
  | sendmsg error => simpa [step, here, sendmsg] using blocked (.sendmsg false) rfl
  | sigwait =>
      refine Or.inl ⟨rfl, ?_⟩
      simpa [step, here, sigwait] using blocked (.sigwait true) rfl
  | sigprocmask => simpa [step, here] using blocked (.sigprocmask true) rfl
  | execv => simpa [step, here] using blocked (.execv none none) rfl
  | application => exact Or.inr (Or.inl rfl)
  | exited code => exact Or.inr (Or.inr rfl)
  | killed => exact Or.inr (Or.inr rfl)

theorem parent_of_blocked (blocked : Blocked launch state) :
    state.parent = .recvmsg ∧ state.channel = none ∧ state.child.ended = false ∨
      state.parent = .serve ∨ (∃ code, state.parent = .exited code) ∨
      state.parent = .waitpid ∧ state.child.ended = false := by
  cases here : state.parent with
  | recvmsg =>
      have empty : state.channel = none := by
        simpa [step, here, recvmsg] using blocked (.recvmsg (.message true)) rfl
      have running : state.child.ended = false := by
        simpa [step, here, recvmsg, empty] using blocked (.recvmsg .endOfFile) rfl
      exact Or.inl ⟨rfl, empty, running⟩
  | close => simpa [step, here] using blocked .close rfl
  | notifSizes => simpa [step, here] using blocked (.notifSizes none) rfl
  | startCores => simpa [step, here] using blocked .startCores rfl
  | writeStatus => simpa [step, here] using blocked .writeStatus rfl
  | sendGo => simpa [step, here] using blocked .sendGo rfl
  | makeDescriptors => simpa [step, here] using blocked (.makeDescriptors true) rfl
  | serve => exact Or.inr (Or.inl rfl)
  | exited code => exact Or.inr (Or.inr (Or.inl ⟨code, rfl⟩))
  | waitpid =>
      have running : state.child.ended = false := by
        simpa [step, here] using blocked .waitpid rfl
      exact Or.inr (Or.inr (Or.inr ⟨rfl, running⟩))

/-- How a handover can end. -/
inductive Outcome (state : State) : Prop where
  | serves (parent : state.parent = .serve)
      (child : state.child = .application ∨ state.child.ended)
  | fails (parent : state.parent = .exited chaosInitExitHandover)
      (child : state.child.ended)
  | deadlock (lost : state.lost) (parent : state.parent = .waitpid)
      (child : state.child = .sigwait ∨ state.stray ∧ state.child = .application)

theorem outcome_of_blocked (held : Consistent launch state)
    (blocked : Blocked launch state) : Outcome state := by
  obtain ⟨-, knowledge, order⟩ := held
  have child := child_of_blocked blocked
  rcases parent_of_blocked blocked with ⟨here, empty, running⟩ | here | ⟨code, here⟩ |
    ⟨here, running⟩
  · -- The message of a child that waits or runs is still in the socket.
    exfalso
    have sent : state.child.sent = true := by
      rcases child with ⟨waits, -⟩ | runs | last
      · rw [waits]; rfl
      · rw [runs]; rfl
      · rw [last] at running; cases running
    have arrived := knowledge.waiting here sent
    rw [empty] at arrived
    cases arrived
  · refine .serves here ?_
    rcases child with ⟨waits, clear⟩ | runs | last
    · have pending := order.released (by rw [here]; rfl) waits
      rw [clear] at pending
      cases pending
    · exact Or.inl runs
    · exact Or.inr last
  · obtain ⟨rfl, last⟩ := order.ended code here
    exact .fails here last
  · have lost : state.lost = true := by
      rcases knowledge.reaping here with lost | last
      · exact lost
      · rw [last] at running; cases running
    refine .deadlock lost here ?_
    rcases child with ⟨waits, -⟩ | runs | last
    · exact Or.inl waits
    · refine Or.inr ⟨?_, runs⟩
      rcases order.go (Or.inr (Or.inr (Or.inr runs))) with stray | released | last
      · exact stray
      · rw [here] at released; cases released
      · rw [last] at running; cases running
    · rw [last] at running; cases running

/-! ## What every handover keeps -/

/-- A run on a kernel that is too old, to its end. -/
def oldKernelRun : List Label :=
  [.uname (some (bytes "4.19.0-amd64")), .sendmsg true, .recvmsg (.message true), .close,
    .startCores, .writeStatus, .sendGo, .sigwait true, .sigprocmask true,
    .makeDescriptors true, .execv none none]

/-- A run that installs the filter, to its end. -/
def filteredRun : List Label :=
  [.uname (some (bytes "6.1.0")), .actionAvailable none,
    .tryInstall (.exited none none none), .noNewPrivs none, .install none none,
    .sendmsg true, .recvmsg (.message true), .close, .notifSizes (some (80, 24)),
    .startCores, .writeStatus, .sendGo, .makeDescriptors true, .sigwait true,
    .sigprocmask true, .execv none none]

/-- `chaos-init --libs io,net -- /bin/true`. -/
def ioNetLaunch : Launch :=
  ⟨3, 1, false, 1⟩

/-- Where its runs end. -/
def endOf (labels : List Label) : State :=
  (run (step ioNetLaunch) initial labels).getD initial

variable {labels : List Label} {final : State}

/--
Whoever sees the command run, without a go signal of someone else, sees the status file of
this run: `state=active` exactly when the filter is installed, else the reason of the
errno, and `mptcp=off` exactly when the command was told so.  The rule cores of a filtered
command are started, and its parent has the listener.
-/
theorem command_runs_behind_status
    (ran : run (step launch) initial labels = some final)
    (runs : final.child = .application) (alone : final.stray = false) :
    final.parent.released ∧ final.listener = final.installed ∧
      (final.error = 0 ↔ final.installed) ∧
      final.status = some (statusOf launch final) ∧
      final.mptcpSet = (launch.mptcpOff && final.listener) ∧
      final.cores = if final.installed then launch.libs &&& coreLibs else 0 := by
  obtain ⟨-, knowledge, order⟩ := consistent_run ran
  have released : final.parent.released := by
    rcases order.go (Or.inr (Or.inr (Or.inr runs))) with stray | released | last
    · rw [alone] at stray; cases stray
    · exact released
    · rw [runs] at last; cases last
  obtain ⟨reported, informed⟩ := ParentAt.released_reported released
  obtain ⟨same, payload⟩ := knowledge.informed informed
  have cores := order.cores (ParentAt.reported_started reported).1
  have mptcp := order.mptcp (Or.inr runs)
  rw [same] at cores
  rw [← same] at mptcp
  exact ⟨released, same, payload, order.status reported, mptcp, cores⟩

/-- The command runs without a filter, and the status file says why. -/
theorem command_runs_behind_status_refused :
    (endOf oldKernelRun).parent.released ∧
      (endOf oldKernelRun).listener = (endOf oldKernelRun).installed ∧
      ((endOf oldKernelRun).error = 0 ↔ (endOf oldKernelRun).installed) ∧
      (endOf oldKernelRun).status = some
        (bytes "state=unsupported\nreason=kernel older than 5.5\nlibs=io,net\npid=1\n") ∧
      (endOf oldKernelRun).mptcpSet = (false && (endOf oldKernelRun).listener) ∧
      (endOf oldKernelRun).cores =
        if (endOf oldKernelRun).installed then 3 &&& coreLibs else 0 :=
  @command_runs_behind_status ioNetLaunch oldKernelRun (endOf oldKernelRun)
    (by decide) (by decide) (by decide)

/--
A filter never stays behind without its listener: while a filtered child lives, the
listener is still with the child, in the socket, or with a parent that has not given up,
unless the socket lost it.  A parent that has given up leaves no child.
-/
theorem filter_is_never_abandoned
    (ran : run (step launch) initial labels = some final) :
    (final.installed → final.child.ended = false → final.lost = false →
      final.child = .sendmsg 0 ∨ (∃ message ∈ final.channel, message.listener) ∨
        final.listener ∧ (final.parent = .close ∨ final.parent.informed)) ∧
    ∀ code, final.parent = .exited code →
      code = chaosInitExitHandover ∧ final.child.ended := by
  obtain ⟨privileges, knowledge, order⟩ := consistent_run ran
  refine ⟨fun filtered running kept => ?_, order.ended⟩
  cases here : final.parent with
  | recvmsg =>
      by_cases sent : final.child.sent
      · obtain ⟨message, arrived⟩ := Option.isSome_iff_exists.mp (knowledge.waiting here sent)
        have carries := (knowledge.message message arrived).1
        exact Or.inr (Or.inl ⟨message, arrived, carries.trans filtered⟩)
      · refine Or.inl ?_
        have before : final.child.beforeInstall = false := by
          by_contra early
          have none := privileges.none (Bool.eq_true_of_not_eq_false early)
          rw [none] at filtered
          cases filtered
        obtain ⟨error, sending⟩ :=
          ChildAt.unsent before (Bool.eq_false_of_not_eq_true sent) running
        rw [sending, (privileges.payload error sending).mpr filtered]
  | close =>
      obtain ⟨-, refused, given⟩ := knowledge.closing here
      refine Or.inr (Or.inr ⟨?_, Or.inl rfl⟩)
      by_contra none
      have empty : final.error = 0 := by
        by_contra payload
        rw [refused payload] at filtered
        cases filtered
      rcases given (Bool.eq_false_of_not_eq_true none) empty with lost | last
      · rw [kept] at lost; cases lost
      · rw [running] at last; cases last
  | waitpid =>
      rcases knowledge.reaping here with lost | last
      · rw [kept] at lost; cases lost
      · rw [running] at last; cases last
  | exited code =>
      have last := (order.ended code here).2
      rw [running] at last
      cases last
  | _ =>
      have informed : final.parent.informed := by rw [here]; rfl
      exact Or.inr (Or.inr
        ⟨(knowledge.informed informed).1.trans filtered, Or.inr rfl⟩)

/-- A child that still has to send its listener. -/
theorem filter_is_never_abandoned_sending :
    ((endOf (filteredRun.take 5)).installed →
      (endOf (filteredRun.take 5)).child.ended = false →
      (endOf (filteredRun.take 5)).lost = false →
      (endOf (filteredRun.take 5)).child = .sendmsg 0 ∨
        (∃ message ∈ (endOf (filteredRun.take 5)).channel, message.listener) ∨
        (endOf (filteredRun.take 5)).listener ∧
          ((endOf (filteredRun.take 5)).parent = .close ∨
            (endOf (filteredRun.take 5)).parent.informed)) ∧
    ∀ code, (endOf (filteredRun.take 5)).parent = .exited code →
      code = chaosInitExitHandover ∧ (endOf (filteredRun.take 5)).child.ended :=
  @filter_is_never_abandoned ioNetLaunch (filteredRun.take 5) (endOf (filteredRun.take 5))
    (by decide)

/-- The socket loses the listener, and both processes wait. -/
example : (endOf (filteredRun.take 6 ++ [.recvmsg (.message false), .close])).parent =
      .waitpid ∧
    (endOf (filteredRun.take 6 ++ [.recvmsg (.message false), .close])).child =
      .sigwait := by
  decide

/-! ## Refusals -/

section Probe

attribute [local grind] uname tryInstall sendmsg sigwait sigprocmask execv close
  notifSizes startCores writeStatus sendGo makeDescriptors State.refuse
  State.killChild

theorem goOn_probe {after : State} (same : after.probe = state.probe)
    (refused : Option Errno) : (goOn state after refused).probe = state.probe := by
  cases refused with
  | none => exact same
  | some error => rfl

theorem recvmsg_probe {arrival : Arrival} (received : recvmsg state arrival = some next) :
    next.probe = state.probe := by
  cases arrival with
  | message descriptor =>
      obtain ⟨message, -, rfl⟩ := Option.map_eq_some_iff.mp received
      rfl
  | endOfFile =>
      obtain ⟨-, ⟨⟩⟩ := Option.ite_none_right_eq_some.mp received
      rfl
  | failed =>
      cases received
      rfl

attribute [local grind .] goOn_probe

attribute [local grind →] recvmsg_probe

/-- Only the probe writes down what it returned. -/
theorem probe_step {label : Label} (stepped : step launch state label = some next) :
    next.probe = state.probe ∨
      ∃ probe, label = .tryInstall probe ∧ next.probe = some (chaosInitTryInstall probe) := by
  cases label <;> grind -linarith [step]

end Probe

/-- Only the calls around the filter may fail, and nobody else touches the child. -/
def Label.granted : Label → Bool
  | .sendmsg whole => whole
  | .sigwait received => received
  | .sigprocmask restored => restored
  | .execv direct _ => direct.isNone
  | .recvmsg arrival => arrival == .message true
  | .notifSizes sizes => sizes.any sizesFit
  | .makeDescriptors made => made
  | .strayGo | .kill => false
  | _ => true

/-- Neither process has given up, or will. -/
structure Unharmed (launch : Launch) (state : State) : Prop where
  consistent : Consistent launch state
  running : state.child.ended = false
  kept : state.lost = false
  alone : state.stray = false
  waits : state.parent ≠ .waitpid
  lasts : ∀ code, state.parent ≠ .exited code

section Granted

attribute [local grind] uname tryInstall sendmsg sigwait sigprocmask execv close
  notifSizes startCores writeStatus sendGo makeDescriptors State.refuse
  State.killChild ChildAt.ended ParentAt.released startError errorOf

theorem goOn_eq (state after : State) (refused : Option Errno) :
    goOn state after refused = after ∨ ∃ error, goOn state after refused = state.refuse error := by
  cases refused with
  | none => exact Or.inl rfl
  | some error => exact Or.inr ⟨error.value, rfl⟩

attribute [local grind .] goOn_eq

theorem unharmed_step {label : Label} (found : 0 < launch.found)
    (granted : label.granted = true) (stepped : step launch state label = some next)
    (held : Unharmed launch state) : Unharmed launch next := by
  have consistent := consistent_step stepped held.consistent
  obtain ⟨⟨-, knowledge, order⟩, running, kept, alone, waits, lasts⟩ := held
  have closing := knowledge.closing
  have go := order.go
  have again := order.again
  have facts : next.child.ended = false ∧ next.lost = false ∧ next.stray = false ∧
      next.parent ≠ .waitpid ∧ ∀ code, next.parent ≠ .exited code := by
    clear knowledge order consistent
    cases label with
    | execv direct shell =>
        obtain ⟨here, ⟨⟩⟩ := Option.ite_none_right_eq_some.mp stepped
        have executed : direct = none := Option.isNone_iff_eq_none.mp granted
        have start : startError launch.found direct shell = none := by
          rw [startError, if_pos found, executed, if_neg (by decide), Option.map_none]
        rw [execv, start]
        exact ⟨rfl, kept, alone, waits, lasts⟩
    | recvmsg arrival =>
        obtain ⟨here, received⟩ := Option.ite_none_right_eq_some.mp stepped
        obtain rfl : arrival = .message true := eq_of_beq granted
        obtain ⟨message, -, rfl⟩ := Option.map_eq_some_iff.mp received
        exact ⟨running, by simp [kept], alone, by simp, by simp⟩
    | _ =>
        simp only [Label.granted] at granted
        grind -linarith [step]
  exact ⟨consistent, facts.1, facts.2.1, facts.2.2.1, facts.2.2.2.1, facts.2.2.2.2⟩

end Granted

/-- A served command is the end. -/
theorem blocked_of_served (child : state.child = .application)
    (parent : state.parent = .serve) : Blocked launch state := by
  intro label answers
  cases label with
  | kill => cases answers
  | strayGo => cases answers
  | _ => simp [step, child, parent]

/--
However the calls around the filter end, by refusing the kernel, the action, the probe, the
privileges or the filter itself: a handover in which nothing else fails comes to its end
with the command running and served, behind the status file that says which it was.
-/
theorem handover_fails_open (found : 0 < launch.found)
    (ran : run (step launch) initial labels = some final)
    (granted : ∀ label ∈ labels, label.granted = true)
    (blocked : Blocked launch final) :
    final.child = .application ∧ final.parent = .serve ∧
      final.status = some (statusOf launch final) ∧
      final.listener = final.installed ∧ (final.error = 0 ↔ final.installed) := by
  have unharmed : Unharmed launch final :=
    @invariant_of_run _ _ (step launch) (fun label => label.granted = true) _
      (fun _ _ _ allowed held stepped => unharmed_step found allowed stepped held)
      _ _ _ granted
      ⟨consistent_initial launch, rfl, rfl, rfl, by decide, fun _ => by simp [initial]⟩ ran
  obtain ⟨⟨-, knowledge, order⟩, running, kept, alone, waits, lasts⟩ := unharmed
  cases outcome_of_blocked ⟨(consistent_run ran).privileges, knowledge, order⟩ blocked with
  | serves parent child =>
      rcases child with runs | last
      · obtain ⟨same, payload⟩ := knowledge.informed (by rw [parent]; rfl)
        exact ⟨runs, parent, order.status (by rw [parent]; rfl), same, payload⟩
      · rw [running] at last
        cases last
  | fails parent _ => exact absurd parent (lasts _)
  | deadlock lost _ _ =>
      rw [kept] at lost
      cases lost

/-- The old kernel again. -/
theorem handover_fails_open_old :
    (endOf oldKernelRun).child = .application ∧ (endOf oldKernelRun).parent = .serve ∧
      (endOf oldKernelRun).status =
        some (statusOf ioNetLaunch (endOf oldKernelRun)) ∧
      (endOf oldKernelRun).listener = (endOf oldKernelRun).installed ∧
      ((endOf oldKernelRun).error = 0 ↔ (endOf oldKernelRun).installed) :=
  @handover_fails_open ioNetLaunch oldKernelRun (endOf oldKernelRun) (by decide) (by decide)
    (by decide) (blocked_of_served (by decide) (by decide))

end ChaosLibs.Init.Handover
