import ChaosLibs.Net.LoadedRules

/-!
# The process whose calls are matched

What both modes find out about a process: the ends of its sockets, what
`SO_TYPE` and the `tfd` lines of an epoll instance report, and the records its
calls point to.  The wrapper asks the kernel and the supervisor reads `/proc`;
they are taken to be told the same.
-/

namespace ChaosLibs.Net.CallingProcess

open ChaosLibs.Common.CString
open ChaosLibs.Net.Rule
open ChaosLibs.Net.MatchConnected

/-! ## Addresses -/

/-- What `getsockopt(SO_TYPE)` reports. -/
inductive SocketType where
  | stream
  | dgram
  | other
deriving DecidableEq, Repr

def afUnix : Nat := 1
def afInet : Nat := 2
def afInet6 : Nat := 10

/-- `chaos_net_endpoint_kind_from_socket`; `none` is a failing `getsockopt`. -/
def chaosNetEndpointKindFromSocket (type : Option SocketType) (family : Nat) :
    Option ChaosNetEndpointKind :=
  type.bind fun type =>
    if family = afInet then
      match type with
      | .stream => some .tcp4
      | .dgram => some .udp4
      | .other => none
    else if family = afInet6 then
      match type with
      | .stream => some .tcp6
      | .dgram => some .udp6
      | .other => none
    else if family = afUnix then
      some .unix
    else
      none

/-- A field of a `sockaddr`. -/
def field (address : Bytes) (offset length : Nat) : Bytes :=
  (address.drop offset).take length

/-- A number in network byte order. -/
def bigEndian (digits : Bytes) : Nat :=
  digits.foldl (fun value ch => value * 256 + ch.toNat) 0

/-- `sa_family`, in the host's byte order. -/
def saFamily (address : Bytes) : Nat :=
  bigEndian (field address 0 2).reverse

/-- `IN6_IS_ADDR_V4MAPPED`. -/
def isV4Mapped (address : Bytes) : Bool :=
  address.take 12 == List.replicate 10 0 ++ [0xff, 0xff]

/-- A `sun_path` as text; an abstract name has an `@` for each NUL. -/
def unixText (path : Bytes) : Bytes :=
  if path.head? = some 0 then
    path.map fun ch => if ch = 0 then byte '@' else ch
  else
    cutAt 0 path

/-- `chaos_net_endpoint_from_sockaddr` of an address the caller passes. -/
def chaosNetEndpointFromSockaddr
    (type : Option SocketType) (address : Bytes) : Option ChaosNetEndpoint :=
  if address.length < 2 then
    none
  else if saFamily address = afInet then
    if address.length < 16 then
      none
    else
      (chaosNetEndpointKindFromSocket type afInet).map fun kind =>
        { ChaosNetEndpoint.zeroed kind with
          port := UInt16.ofNat (bigEndian (field address 2 2))
          ipv4 := UInt32.ofNat (bigEndian (field address 4 4)) }
  else if saFamily address = afInet6 then
    if address.length < 28 then
      none
    else
      (chaosNetEndpointKindFromSocket type afInet6).map fun kind =>
        if isV4Mapped (field address 8 16) then
          { ChaosNetEndpoint.zeroed (if kind = .tcp6 then .tcp4 else .udp4) with
            port := UInt16.ofNat (bigEndian (field address 2 2))
            ipv4 := UInt32.ofNat (bigEndian (field address 20 4)) }
        else
          { ChaosNetEndpoint.zeroed kind with
            port := UInt16.ofNat (bigEndian (field address 2 2))
            ipv6 := BitVec.ofNat 128 (bigEndian (field address 8 16)) }
  else if saFamily address = afUnix then
    (chaosNetEndpointKindFromSocket type afUnix).map fun kind =>
      { ChaosNetEndpoint.zeroed kind with
        text := unixText (field address 2 108) }
  else
    none

/-- `SOCK_CLOEXEC` and `SOCK_NONBLOCK`, and what they leave of a `type`. -/
def bareType (type : UInt32) : UInt32 :=
  type &&& ~~~0x80000 &&& ~~~0x800

/-- `chaos_net_endpoint_from_socket_spec`. -/
def chaosNetEndpointFromSocketSpec (domain type : UInt32) :
    Option ChaosNetEndpoint :=
  let anyHost (kind : ChaosNetEndpointKind) : Option ChaosNetEndpoint :=
    some { ChaosNetEndpoint.zeroed kind with wildcardHost := true }
  if domain = 2 then
    if bareType type = 1 then anyHost .tcp4
    else if bareType type = 2 then anyHost .udp4
    else none
  else if domain = 10 then
    if bareType type = 1 then anyHost .tcp6
    else if bareType type = 2 then anyHost .udp6
    else none
  else if domain = 1 then
    some { ChaosNetEndpoint.zeroed .unix with text := bytes "*" }
  else
    none

theorem field_take
    {address : Bytes} {bound offset length : Nat}
    (within : offset + length ≤ bound) :
    field (address.take bound) offset length = field address offset length := by
  unfold field
  rw [List.drop_take, List.take_take, Nat.min_eq_left (by omega)]

/-- An address is resolved from its first bytes; a `sockaddr_storage` has 128. -/
theorem chaosNetEndpointFromSockaddr_take
    (type : Option SocketType) (address : Bytes) :
    chaosNetEndpointFromSockaddr type (address.take 128) =
      chaosNetEndpointFromSockaddr type address := by
  have shorter : ∀ bound ≤ 128,
      ((address.take 128).length < bound ↔ address.length < bound) := by
    intro bound small
    rw [List.length_take]
    omega
  have family : saFamily (address.take 128) = saFamily address := by
    unfold saFamily
    rw [field_take (by decide)]
  have port : field (address.take 128) 2 2 = field address 2 2 :=
    field_take (by decide)
  have ipv4 : field (address.take 128) 4 4 = field address 4 4 :=
    field_take (by decide)
  have ipv6 : field (address.take 128) 8 16 = field address 8 16 :=
    field_take (by decide)
  have mapped : field (address.take 128) 20 4 = field address 20 4 :=
    field_take (by decide)
  have path : field (address.take 128) 2 108 = field address 2 108 :=
    field_take (by decide)
  unfold chaosNetEndpointFromSockaddr
  rw [family, port, ipv4, ipv6, mapped, path]
  simp only [shorter 2 (by decide), shorter 16 (by decide),
    shorter 28 (by decide)]

/-! ## Descriptors -/

/-- What a process's descriptors are. -/
structure Caller where
  descriptor : Int → Descriptor
  socketType : Int → Option SocketType
  /-- The `tfd` lines of `/proc/<tid>/fdinfo/<epfd>`. -/
  watched : Int → List Int

/-- `chaos_net_endpoint_from_local_fd`. -/
def chaosNetEndpointFromLocalFd (descriptor : Descriptor) :
    Option ChaosNetEndpoint :=
  (chaosNetEndpointFromEndFd descriptor false).1

/-- `chaos_net_endpoint_from_peer_fd`. -/
def chaosNetEndpointFromPeerFd (descriptor : Descriptor) :
    Option ChaosNetEndpoint :=
  (chaosNetEndpointFromEndFd descriptor true).1

/-- `chaos_net_endpoint_from_activity_fd`. -/
def chaosNetEndpointFromActivityFd (descriptor : Descriptor) :
    Option ChaosNetEndpoint :=
  match chaosNetEndpointFromLocalFd descriptor with
  | some endpoint => some endpoint
  | none => chaosNetEndpointFromPeerFd descriptor

/-! ## Records a call points to -/

/-- `CHAOS_NET_IOV_MAX`, and the kernel's `UIO_MAXIOV`. -/
abbrev chaosNetIovMax : Nat := 1024

/-- An array of `struct iovec`, or `NULL`, and the count passed with it. -/
structure IovecArray where
  iov : Option (List UInt64)
  count : Int
  counted : ∀ lengths, iov = some lengths → 0 ≤ count → count = lengths.length
  fits : -2 ^ 31 ≤ count ∧ count < 2 ^ 64

/-- A `struct msghdr`: `msg_name` and the vector. -/
structure Msghdr where
  name : Option Bytes
  vector : IovecArray

/-! ## Byte counts -/

/-- The sum of the lengths, as a 64-bit word. -/
def totalLength (lengths : List UInt64) : Nat :=
  (lengths.foldl (fun total length => total + length) 0).toNat

/-- `chaos_net_iovec_size`. -/
def chaosNetIovecSize (vector : IovecArray) : Nat :=
  match vector.iov with
  | none => chaosPolicyNoSize
  | some lengths =>
      if vector.count < 0 ∨ chaosNetIovMax < vector.count then
        chaosPolicyNoSize
      else
        totalLength lengths

/-- `chaos_net_message_size`. -/
def chaosNetMessageSize : Option Msghdr → Nat
  | none => chaosPolicyNoSize
  | some message =>
      if chaosNetIovMax < message.vector.count then chaosPolicyNoSize
      else chaosNetIovecSize message.vector

/-- Most messages of one `sendmmsg` or `recvmmsg` the kernel moves. -/
abbrev chaosNetMmsgMax : Nat := 1024

/-- `UINT64_MAX / 2`. -/
def mostBytes : Nat := 2 ^ 63 - 1

/-- A round of a batch's count. -/
def addPart (total part : Nat) : Option Nat :=
  if part = chaosPolicyNoSize ∨ mostBytes - total < part then none
  else some (total + part)

/-- `chaos_net_mmsg_size` of the messages a batch is cut to. -/
def chaosNetMmsgSize : Option (List Msghdr) → Nat
  | none => chaosPolicyNoSize
  | some messages =>
      ((messages.take chaosNetMmsgMax).foldlM
        (fun total message => addPart total (chaosNetMessageSize (some message)))
        0).getD chaosPolicyNoSize

end ChaosLibs.Net.CallingProcess
