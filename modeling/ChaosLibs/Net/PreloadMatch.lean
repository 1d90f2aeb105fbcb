import ChaosLibs.Net.CallingProcess

/-!
# What the wrappers of libchaos-net match

Each wrapper up to the rule it applies: the endpoints it looks up, the rule it
selects for them, and the byte count it records for `@size`.  A pointer argument
is what lies behind it, `none` for `NULL`.
-/

namespace ChaosLibs.Net.PreloadMatch

open ChaosLibs.Common.CString
open ChaosLibs.Net.Rule
open ChaosLibs.Net.MatchConnected
open ChaosLibs.Net.LoadedRules
open ChaosLibs.Net.CallingProcess

/-- `rule->call_size = size`. -/
def measured (size : Nat) (rule : ChaosNetRule) : ChaosNetRule :=
  { rule with callSize := size }

section

variable (caller : Caller) (snapshot : Snapshot)

/-- `chaos_net_config_match_endpoint`. -/
def chaosNetConfigMatchEndpoint
    (operation : ChaosNetOperation) (endpoint : ChaosNetEndpoint) :
    Option ChaosNetRule :=
  if !chaosNetConfigPrepare snapshot.state then none
  else chaosNetConfigMatchEndpointLoaded snapshot.state operation endpoint

/-- `chaos_net_endpoint_from_sockaddr_fd`. -/
def chaosNetEndpointFromSockaddrFd (fd : Int) (address : Option Bytes) :
    Option ChaosNetEndpoint :=
  address.bind (chaosNetEndpointFromSockaddr (caller.socketType fd))

/-- The start of `bind` and `connect`. -/
def matchAddress (fd : Int) (address : Option Bytes)
    (operation : ChaosNetOperation) : Option ChaosNetRule :=
  (chaosNetEndpointFromSockaddrFd caller fd address).bind
    (chaosNetConfigMatchEndpoint snapshot operation)

/-- The start of `listen`, `accept` and `accept4`. -/
def matchLocal (fd : Int) (operation : ChaosNetOperation) :
    Option ChaosNetRule :=
  (chaosNetEndpointFromLocalFd (caller.descriptor fd)).bind
    (chaosNetConfigMatchEndpoint snapshot operation)

/-- `chaos_net_match_connected` of a descriptor of the caller. -/
def matchConnected (fd : Int) (operation : ChaosNetOperation)
    (peerFirst : Bool) : Option ChaosNetRule :=
  chaosNetMatchConnected snapshot.state (caller.descriptor fd) operation
    peerFirst

/-- `chaos_net_match_descriptor_rule`. -/
def chaosNetMatchDescriptorRule (fd : Int) (operation : ChaosNetOperation)
    (size : Nat) : Option ChaosNetRule :=
  if !chaosNetConfigPrepare snapshot.state then
    none
  else
    (if operation = .send ∨ operation = .recv then
      matchConnected caller snapshot fd operation (operation == .send)
    else
      (chaosNetEndpointFromActivityFd (caller.descriptor fd)).bind
        (chaosNetConfigMatchEndpointLoaded snapshot.state operation)).map
      (measured size)

/-! ## Sockets -/

def socket (domain type : UInt32) : Option ChaosNetRule :=
  (chaosNetEndpointFromSocketSpec domain type).bind
    (chaosNetConfigMatchEndpoint snapshot .socket)

def socketpair (domain type : UInt32) : Option ChaosNetRule :=
  (chaosNetEndpointFromSocketSpec domain type).bind
    (chaosNetConfigMatchEndpoint snapshot .socket)

def bind (fd : Int) (address : Option Bytes) : Option ChaosNetRule :=
  matchAddress caller snapshot fd address .bind

def connect (fd : Int) (address : Option Bytes) : Option ChaosNetRule :=
  matchAddress caller snapshot fd address .connect

def listen (fd : Int) : Option ChaosNetRule :=
  matchLocal caller snapshot fd .listen

def accept (fd : Int) : Option ChaosNetRule :=
  matchLocal caller snapshot fd .accept

def accept4 (fd : Int) : Option ChaosNetRule :=
  matchLocal caller snapshot fd .accept

def shutdown (fd : Int) : Option ChaosNetRule :=
  (chaosNetEndpointFromActivityFd (caller.descriptor fd)).bind
    (chaosNetConfigMatchEndpoint snapshot .shutdown)

/-! ## Data -/

def send (fd : Int) (size : UInt64) : Option ChaosNetRule :=
  (matchConnected caller snapshot fd .send true).map (measured size.toNat)

def sendto (fd : Int) (size : UInt64) (address : Option Bytes) :
    Option ChaosNetRule :=
  (if address.isSome then matchAddress caller snapshot fd address .send
    else matchConnected caller snapshot fd .send true).map
    (measured size.toNat)

def sendmsg (fd : Int) (message : Option Msghdr) : Option ChaosNetRule :=
  (match message.bind Msghdr.name with
    | some address => matchAddress caller snapshot fd (some address) .send
    | none => matchConnected caller snapshot fd .send true).map
    (measured (chaosNetMessageSize message))

/-- The loop of `sendmmsg` from a message on, `connected_checked` in `checked`. -/
def sendmmsgLoop (fd : Int) : Bool → List Msghdr → Option ChaosNetRule
  | _, [] => none
  | checked, message :: rest =>
      match message.name with
      | some address =>
          match (chaosNetEndpointFromSockaddrFd caller fd (some address)).bind
              (chaosNetConfigMatchEndpointLoaded snapshot.state .send) with
          | some rule => some rule
          | none => sendmmsgLoop fd checked rest
      | none =>
          if checked then
            sendmmsgLoop fd checked rest
          else
            match matchConnected caller snapshot fd .send true with
            | some rule => some rule
            | none => sendmmsgLoop fd true rest

def sendmmsg (fd : Int) (msgvec : Option (List Msghdr)) :
    Option ChaosNetRule :=
  match msgvec with
  | none => none
  | some messages =>
      if !chaosNetConfigPrepare snapshot.state then
        none
      else
        (sendmmsgLoop caller snapshot fd false
          (messages.take chaosNetMmsgMax)).map
          (measured (chaosNetMmsgSize msgvec))

def recv (fd : Int) (size : UInt64) : Option ChaosNetRule :=
  (matchConnected caller snapshot fd .recv false).map (measured size.toNat)

def recvfrom (fd : Int) (size : UInt64) : Option ChaosNetRule :=
  (matchConnected caller snapshot fd .recv false).map (measured size.toNat)

def recvmsg (fd : Int) (message : Option Msghdr) : Option ChaosNetRule :=
  (matchConnected caller snapshot fd .recv false).map
    (measured (chaosNetMessageSize message))

def recvmmsg (fd : Int) (msgvec : Option (List Msghdr)) :
    Option ChaosNetRule :=
  (matchConnected caller snapshot fd .recv false).map
    (measured (chaosNetMmsgSize msgvec))

def read (fd : Int) (size : UInt64) : Option ChaosNetRule :=
  chaosNetMatchDescriptorRule caller snapshot fd .recv size.toNat

def readv (fd : Int) (vector : IovecArray) : Option ChaosNetRule :=
  chaosNetMatchDescriptorRule caller snapshot fd .recv
    (chaosNetIovecSize vector)

def write (fd : Int) (size : UInt64) : Option ChaosNetRule :=
  chaosNetMatchDescriptorRule caller snapshot fd .send size.toNat

def writev (fd : Int) (vector : IovecArray) : Option ChaosNetRule :=
  chaosNetMatchDescriptorRule caller snapshot fd .send
    (chaosNetIovecSize vector)

def close (fd : Int) : Option ChaosNetRule :=
  chaosNetMatchDescriptorRule caller snapshot fd .close chaosPolicyNoSize

/-! ## Waits -/

/-- `chaos_net_wait_match_fd_loaded`. -/
def chaosNetWaitMatchFdLoaded (fd : Int) : Option ChaosNetRule :=
  (chaosNetEndpointFromActivityFd (caller.descriptor fd)).bind
    (chaosNetConfigMatchEndpointLoaded snapshot.state .poll)

/-- `chaos_net_wait_match_pollfds`, of the descriptors in the array. -/
def chaosNetWaitMatchPollfds (fds : Option (List Int)) :
    Option ChaosNetRule :=
  match fds with
  | none => none
  | some fds =>
      if !chaosNetConfigPrepare snapshot.state then
        none
      else
        fds.findSome? fun fd =>
          if 0 ≤ fd then chaosNetWaitMatchFdLoaded caller snapshot fd else none

/-- Whether a descriptor is in one of three sets, each of which may be `NULL`. -/
def inSomeSet (readfds writefds exceptfds : Option (Nat → Bool)) (fd : Nat) :
    Bool :=
  readfds.any (fun set => set fd) || writefds.any (fun set => set fd) ||
    exceptfds.any fun set => set fd

/-- `chaos_net_wait_match_fdsets`. -/
def chaosNetWaitMatchFdsets
    (nfds : Int) (readfds writefds exceptfds : Option (Nat → Bool)) :
    Option ChaosNetRule :=
  if nfds ≤ 0 ∨ !chaosNetConfigPrepare snapshot.state then
    none
  else
    (List.range nfds.toNat).findSome? fun fd =>
      if inSomeSet readfds writefds exceptfds fd then
        chaosNetWaitMatchFdLoaded caller snapshot fd
      else
        none

/--
`chaos_net_wait_match_epoll`: the `tfd` lines of the instance in turn.  The
bound on the bytes read of `fdinfo` is above 1024 lines.
-/
def chaosNetWaitMatchEpoll (epfd : Int) : Option ChaosNetRule :=
  if !chaosNetConfigPrepare snapshot.state then
    none
  else
    (caller.watched epfd).findSome? fun fd =>
      if 0 ≤ fd then chaosNetWaitMatchFdLoaded caller snapshot fd else none

def poll (fds : Option (List Int)) : Option ChaosNetRule :=
  chaosNetWaitMatchPollfds caller snapshot fds

def ppoll (fds : Option (List Int)) : Option ChaosNetRule :=
  chaosNetWaitMatchPollfds caller snapshot fds

def select (nfds : Int) (readfds writefds exceptfds : Option (Nat → Bool)) :
    Option ChaosNetRule :=
  chaosNetWaitMatchFdsets caller snapshot nfds readfds writefds exceptfds

def pselect (nfds : Int) (readfds writefds exceptfds : Option (Nat → Bool)) :
    Option ChaosNetRule :=
  chaosNetWaitMatchFdsets caller snapshot nfds readfds writefds exceptfds

def epollWait (epfd : Int) : Option ChaosNetRule :=
  chaosNetWaitMatchEpoll caller snapshot epfd

def epollPwait (epfd : Int) : Option ChaosNetRule :=
  chaosNetWaitMatchEpoll caller snapshot epfd

end

/-- A call of a wrapper, the arguments it passes on unread left out. -/
inductive LibcCall where
  | socket (domain type : UInt32)
  | socketpair (domain type : UInt32)
  | bind (fd : Int) (address : Option Bytes)
  | connect (fd : Int) (address : Option Bytes)
  | listen (fd : Int)
  | accept (fd : Int)
  | accept4 (fd : Int)
  | shutdown (fd : Int)
  | send (fd : Int) (size : UInt64)
  | sendto (fd : Int) (size : UInt64) (address : Option Bytes)
  | sendmsg (fd : Int) (message : Option Msghdr)
  | sendmmsg (fd : Int) (msgvec : Option (List Msghdr))
  | recv (fd : Int) (size : UInt64)
  | recvfrom (fd : Int) (size : UInt64)
  | recvmsg (fd : Int) (message : Option Msghdr)
  | recvmmsg (fd : Int) (msgvec : Option (List Msghdr))
  | read (fd : Int) (size : UInt64)
  | readv (fd : Int) (vector : IovecArray)
  | write (fd : Int) (size : UInt64)
  | writev (fd : Int) (vector : IovecArray)
  | close (fd : Int)
  | poll (fds : Option (List Int))
  | ppoll (fds : Option (List Int))
  | select (nfds : Int) (readfds writefds exceptfds : Option (Nat → Bool))
  | pselect (nfds : Int) (readfds writefds exceptfds : Option (Nat → Bool))
  | epollWait (epfd : Int)
  | epollPwait (epfd : Int)

/-- The rule a wrapper applies to its call. -/
def preloadMatch (caller : Caller) (snapshot : Snapshot) :
    LibcCall → Option ChaosNetRule
  | .socket domain type => socket snapshot domain type
  | .socketpair domain type => socketpair snapshot domain type
  | .bind fd address => bind caller snapshot fd address
  | .connect fd address => connect caller snapshot fd address
  | .listen fd => listen caller snapshot fd
  | .accept fd => accept caller snapshot fd
  | .accept4 fd => accept4 caller snapshot fd
  | .shutdown fd => shutdown caller snapshot fd
  | .send fd size => send caller snapshot fd size
  | .sendto fd size address => sendto caller snapshot fd size address
  | .sendmsg fd message => sendmsg caller snapshot fd message
  | .sendmmsg fd msgvec => sendmmsg caller snapshot fd msgvec
  | .recv fd size => recv caller snapshot fd size
  | .recvfrom fd size => recvfrom caller snapshot fd size
  | .recvmsg fd message => recvmsg caller snapshot fd message
  | .recvmmsg fd msgvec => recvmmsg caller snapshot fd msgvec
  | .read fd size => read caller snapshot fd size
  | .readv fd vector => readv caller snapshot fd vector
  | .write fd size => write caller snapshot fd size
  | .writev fd vector => writev caller snapshot fd vector
  | .close fd => close caller snapshot fd
  | .poll fds => poll caller snapshot fds
  | .ppoll fds => ppoll caller snapshot fds
  | .select nfds readfds writefds exceptfds =>
      select caller snapshot nfds readfds writefds exceptfds
  | .pselect nfds readfds writefds exceptfds =>
      pselect caller snapshot nfds readfds writefds exceptfds
  | .epollWait epfd => epollWait caller snapshot epfd
  | .epollPwait epfd => epollPwait caller snapshot epfd

end ChaosLibs.Net.PreloadMatch
