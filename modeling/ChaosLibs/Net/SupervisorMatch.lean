import ChaosLibs.Io.SupervisorMatch
import ChaosLibs.Machine.ChunkedRead
import ChaosLibs.Net.PreloadMatch

/-!
# What the supervisor matches for the net rules

`chaos_init_net.c` up to the point where the matched rule is decided: the table
of system calls, the endpoints a call names, and the byte count for `@size`.
Arguments are the 64-bit registers of the call; records are read from the
memory of the calling process.
-/

namespace ChaosLibs.Net.SupervisorMatch

open ChaosLibs.Common.CString
open ChaosLibs.Io.SupervisorMatch (int32)
open ChaosLibs.Machine
open ChaosLibs.Net.Rule
open ChaosLibs.Net.MatchConnected
open ChaosLibs.Net.LoadedRules
open ChaosLibs.Net.CallingProcess
open ChaosLibs.Net.PreloadMatch (measured)

/-! ## Calls -/

/-- The system calls of the table. -/
inductive SystemCall where
  | socket
  | socketpair
  | bind
  | connect
  | listen
  | accept4
  | shutdown
  | sendto
  | sendmsg
  | sendmmsg
  | recvfrom
  | recvmsg
  | recvmmsg
  | read
  | readv
  | write
  | writev
  | close
  | ppoll
  | pselect6
  | epollPwait
  | accept
  | poll
  | select
  | epollWait
  | epollPwait2
  /-- Any call that is not in the table. -/
  | other
deriving DecidableEq, Repr

/-- `chaos_init_call_t`, the thread left out. -/
structure ChaosInitCall where
  nr : SystemCall
  args : Fin 6 → UInt64

/-- `chaos_init_net_kind_t`. -/
inductive ChaosInitNetKind where
  | spec
  | address
  | localFirst
  | peerFirst
  | activity
  | sendto
  | sendmsg
  | sendmmsg
  | poll
  | select
  | epoll
deriving DecidableEq, Repr

/--
The size column: an argument, none (-1), an array of `struct iovec` (-2), a
`msghdr` (-3) or a batch of them (-4).
-/
inductive SizeColumn where
  | argument (index : Fin 6)
  | none
  | iovec
  | msghdr
  | batch
deriving DecidableEq, Repr

/-- `chaos_init_net_call_t`. -/
structure ChaosInitNetCall where
  nr : SystemCall
  operation : ChaosNetOperation
  kind : ChaosInitNetKind
  shared : Bool
  size : SizeColumn
deriving DecidableEq, Repr

/-- `g_chaos_init_net_calls`. -/
def chaosInitNetCalls : List ChaosInitNetCall :=
  [⟨.socket, .socket, .spec, false, .none⟩,
    ⟨.socketpair, .socket, .spec, false, .none⟩,
    ⟨.bind, .bind, .address, false, .none⟩,
    ⟨.connect, .connect, .address, false, .none⟩,
    ⟨.listen, .listen, .localFirst, false, .none⟩,
    ⟨.accept4, .accept, .localFirst, false, .none⟩,
    ⟨.shutdown, .shutdown, .activity, false, .none⟩,
    ⟨.sendto, .send, .sendto, false, .argument 2⟩,
    ⟨.sendmsg, .send, .sendmsg, false, .msghdr⟩,
    ⟨.sendmmsg, .send, .sendmmsg, false, .batch⟩,
    ⟨.recvfrom, .recv, .localFirst, false, .argument 2⟩,
    ⟨.recvmsg, .recv, .localFirst, false, .msghdr⟩,
    ⟨.recvmmsg, .recv, .localFirst, false, .none⟩,
    ⟨.read, .recv, .localFirst, true, .argument 2⟩,
    ⟨.readv, .recv, .localFirst, true, .iovec⟩,
    ⟨.write, .send, .peerFirst, true, .argument 2⟩,
    ⟨.writev, .send, .peerFirst, true, .iovec⟩,
    ⟨.close, .close, .activity, true, .none⟩,
    ⟨.ppoll, .poll, .poll, false, .none⟩,
    ⟨.pselect6, .poll, .select, false, .none⟩,
    ⟨.epollPwait, .poll, .epoll, false, .none⟩,
    ⟨.accept, .accept, .localFirst, false, .none⟩,
    ⟨.poll, .poll, .poll, false, .none⟩,
    ⟨.select, .poll, .select, false, .none⟩,
    ⟨.epollWait, .poll, .epoll, false, .none⟩,
    ⟨.epollPwait2, .poll, .epoll, false, .none⟩]

/-! ## The calling process's memory -/

/-- A `struct msghdr` as it lies in memory. -/
structure RawMsghdr where
  name : UInt64
  namelen : UInt64
  iov : UInt64
  iovlen : UInt64

/--
`chaos_init_read_memory` of arrays of each kind, by address and number of
entries; `none` when it fails.  Nothing can be read at `NULL`.
-/
structure TraceeMemory where
  bytes : UInt64 → Nat → Option Bytes
  iovecs : UInt64 → Nat → Option (List UInt64)
  msghdr : UInt64 → Option RawMsghdr
  pollfds : UInt64 → Nat → Option (List Int)
  fdSet : UInt64 → Nat → Option (Nat → Bool)
  nullIovecs : ∀ count, 0 < count → iovecs 0 count = none
  nullMsghdr : msghdr 0 = none
  nullPollfds : ∀ count, 0 < count → pollfds 0 count = none

/-- The entries of an array of `struct iovec`, from one of them on. -/
def TraceeMemory.iovecsFrom (memory : TraceeMemory) (address : UInt64)
    (start count : Nat) : Option (List UInt64) :=
  memory.iovecs (address + 16 * UInt64.ofNat start) count

/-- The entries of an array of `struct pollfd`, from one of them on. -/
def TraceeMemory.pollfdsFrom (memory : TraceeMemory) (address : UInt64)
    (start count : Nat) : Option (List Int) :=
  memory.pollfds (address + 8 * UInt64.ofNat start) count

/-- The address of an entry of an array of `struct mmsghdr`. -/
def mmsghdrAddress (address : UInt64) (index : Nat) : UInt64 :=
  address + 64 * UInt64.ofNat index

section

variable (caller : Caller) (memory : TraceeMemory) (snapshot : Snapshot)

/-! ## Byte counts -/

/-- `chaos_init_net_iov_size`. -/
def chaosInitNetIovSize (address count : UInt64) : Nat :=
  if 1024 < count.toNat then
    chaosPolicyNoSize
  else
    ((readAll (memory.iovecsFrom address) 64 count.toNat).map
      totalLength).getD chaosPolicyNoSize

/-- `chaos_init_net_message_size`. -/
def chaosInitNetMessageSize (address : UInt64) : Nat :=
  match memory.msghdr address with
  | none => chaosPolicyNoSize
  | some message => chaosInitNetIovSize memory message.iov message.iovlen

/-- `CHAOS_INIT_NET_MMSG_MAX`. -/
abbrev chaosInitNetMmsgMax : Nat := 1024

/-- `chaos_init_net_batch_size`. -/
def chaosInitNetBatchSize (address vlen : UInt64) : Nat :=
  ((List.range (min vlen.toNat chaosInitNetMmsgMax)).foldlM
    (fun total index =>
      addPart total
        (chaosInitNetMessageSize memory (mmsghdrAddress address index)))
    0).getD chaosPolicyNoSize

/-! ## Endpoints -/

/-- `chaos_init_net_sockaddr`. -/
def chaosInitNetSockaddr (fd : Int) (address length : UInt64) :
    Option ChaosNetEndpoint :=
  let size := min length.toNat 128
  if address = 0 ∨ size = 0 then
    none
  else
    (memory.bytes address size).bind
      (chaosNetEndpointFromSockaddr (caller.socketType fd))

/-- What `chaos_init_net_message` finds: -2, -1, and 0 or 1. -/
inductive MessageName where
  | unreadable
  | unnamed
  | named (endpoint : Option ChaosNetEndpoint)

/-- `chaos_init_net_message`. -/
def chaosInitNetMessage (fd : Int) (address : UInt64) : MessageName :=
  match memory.msghdr address with
  | none => .unreadable
  | some message =>
      if message.name = 0 then .unnamed
      else
        .named (chaosInitNetSockaddr caller memory fd message.name
          message.namelen)

/-- `chaos_init_net_match_ends`. -/
def chaosInitNetMatchEnds (fd : Int) (operation : ChaosNetOperation)
    (peerFirst : Bool) : Option ChaosNetRule :=
  let own := chaosNetEndpointFromLocalFd (caller.descriptor fd)
  let peer := chaosNetEndpointFromPeerFd (caller.descriptor fd)
  if peerFirst then
    chaosNetConfigMatchEitherLoaded snapshot.state operation peer own
  else
    chaosNetConfigMatchEitherLoaded snapshot.state operation own peer

/-- The loop of `chaos_init_net_match_batch`, `connected_checked` in `checked`. -/
def matchBatchLoop (fd : Int) (address : UInt64) :
    Bool → List Nat → Option ChaosNetRule
  | _, [] => none
  | checked, index :: rest =>
      match chaosInitNetMessage caller memory fd
          (mmsghdrAddress address index) with
      | .unreadable => none
      | .named endpoint =>
          match endpoint.bind
              (chaosNetConfigMatchEndpointLoaded snapshot.state .send) with
          | some rule => some rule
          | none => matchBatchLoop fd address checked rest
      | .unnamed =>
          if checked then
            matchBatchLoop fd address checked rest
          else
            match chaosInitNetMatchEnds caller snapshot fd .send true with
            | some rule => some rule
            | none => matchBatchLoop fd address true rest

/-- `chaos_init_net_match_batch`. -/
def chaosInitNetMatchBatch (fd : Int) (address vlen : UInt64) :
    Option ChaosNetRule :=
  matchBatchLoop caller memory snapshot fd address false
    (List.range (min vlen.toNat chaosInitNetMmsgMax))

/-! ## Waits -/

/-- `chaos_init_net_match_any`. -/
def chaosInitNetMatchAny (fds : List Int) : Option ChaosNetRule :=
  fds.findSome? fun fd =>
    if 0 ≤ fd then
      (chaosNetEndpointFromActivityFd (caller.descriptor fd)).bind
        (chaosNetConfigMatchEndpointLoaded snapshot.state .poll)
    else
      none

/-- `CHAOS_INIT_NET_MAX_WAIT`. -/
abbrev chaosInitNetMaxWait : Nat := 1024

/-- `FD_SETSIZE`. -/
abbrev fdSetsize : Nat := 1024

/-- `chaos_init_net_poll_fds`. -/
def chaosInitNetPollFds (address count : UInt64) : List Int :=
  readWhile (memory.pollfdsFrom address)
    (readRounds 64 (min count.toNat chaosInitNetMaxWait))

/-- `chaos_init_net_set_bytes`. -/
def chaosInitNetSetBytes (nfds : Int) : Nat :=
  if nfds ≤ 0 then 0 else (nfds.toNat + 63) / 64 * 8

/-- The descriptors of one set of `chaos_init_net_select_fds`. -/
def selectSet (count : Int) (address : UInt64) : List Int :=
  if address = 0 then
    []
  else
    match memory.fdSet address (chaosInitNetSetBytes count) with
    | none => []
    | some bits => ((List.range count.toNat).filter bits).map Int.ofNat

/-- `chaos_init_net_select_fds`. -/
def chaosInitNetSelectFds (call : ChaosInitCall) : List Int :=
  let count := min (int32 (call.args 0)) fdSetsize
  (selectSet memory count (call.args 1) ++
    selectSet memory count (call.args 2) ++
      selectSet memory count (call.args 3)).take chaosInitNetMaxWait

/-- `chaos_init_net_epoll_fds`. -/
def chaosInitNetEpollFds (epfd : Int) : List Int :=
  (caller.watched epfd).take chaosInitNetMaxWait

/-! ## Decisions -/

/-- `chaos_init_net_match`. -/
def chaosInitNetMatch (entry : ChaosInitNetCall) (call : ChaosInitCall) :
    Option ChaosNetRule :=
  let fd := int32 (call.args 0)
  let loaded := chaosNetConfigMatchEndpointLoaded snapshot.state entry.operation
  match entry.kind with
  | .spec =>
      (chaosNetEndpointFromSocketSpec (call.args 0).toUInt32
        (call.args 1).toUInt32).bind loaded
  | .address =>
      (chaosInitNetSockaddr caller memory fd (call.args 1) (call.args 2)).bind
        loaded
  | .localFirst =>
      chaosInitNetMatchEnds caller snapshot fd entry.operation false
  | .peerFirst =>
      chaosInitNetMatchEnds caller snapshot fd entry.operation true
  | .activity =>
      (chaosNetEndpointFromActivityFd (caller.descriptor fd)).bind loaded
  | .sendto =>
      if call.args 4 = 0 then
        chaosInitNetMatchEnds caller snapshot fd entry.operation true
      else
        (chaosInitNetSockaddr caller memory fd (call.args 4)
          (call.args 5)).bind loaded
  | .sendmsg =>
      match chaosInitNetMessage caller memory fd (call.args 1) with
      | .named endpoint => endpoint.bind loaded
      | .unnamed | .unreadable =>
          chaosInitNetMatchEnds caller snapshot fd entry.operation true
  | .sendmmsg =>
      chaosInitNetMatchBatch caller memory snapshot fd (call.args 1)
        (call.args 2)
  | .poll =>
      chaosInitNetMatchAny caller snapshot
        (chaosInitNetPollFds memory (call.args 0) (call.args 1))
  | .select =>
      chaosInitNetMatchAny caller snapshot (chaosInitNetSelectFds memory call)
  | .epoll =>
      chaosInitNetMatchAny caller snapshot (chaosInitNetEpollFds caller fd)

/-- `chaos_init_net_targeted`. -/
def chaosInitNetTargeted (operation : ChaosNetOperation) : Bool :=
  snapshot.state.rules.any fun rule => rule.operation = operation

/-- `chaos_init_net_is_socket`. -/
def chaosInitNetIsSocket (fd : Int) : Bool :=
  match caller.descriptor fd with
  | .socket _ _ => true
  | .notOpen | .notSocket => false

/-- The `@size` input of a matched rule. -/
def measureEntry (entry : ChaosInitNetCall) (call : ChaosInitCall) : Nat :=
  match entry.size with
  | .argument index => (call.args index).toNat
  | .iovec => chaosInitNetIovSize memory (call.args 1) (call.args 2)
  | .msghdr => chaosInitNetMessageSize memory (call.args 1)
  | .batch => chaosInitNetBatchSize memory (call.args 1) (call.args 2)
  | .none => chaosPolicyNoSize

/--
`chaos_init_net_decide` up to the decision on the matched rule: `none` for a
call that is not the net rules', else the rule, if any.
-/
def chaosInitNetDecide (call : ChaosInitCall) : Option (Option ChaosNetRule) :=
  match chaosInitNetCalls.find? fun entry => entry.nr == call.nr with
  | none => none
  | some entry =>
      if entry.shared &&
          !chaosInitNetIsSocket caller (int32 (call.args 0)) then
        none
      else if !chaosNetConfigPrepare snapshot.state ||
          !chaosInitNetTargeted snapshot entry.operation then
        some none
      else
        some ((chaosInitNetMatch caller memory snapshot entry call).map
          (measured (measureEntry memory entry call)))

end

end ChaosLibs.Net.SupervisorMatch
