import ChaosLibs.Dns.InetPton
import ChaosLibs.Net.CallingProcess

/-!
# Selectors and the endpoints they match

`chaos_net_endpoint_parse_selector`, and which of the selectors it accepts match an
endpoint that the resolution of an address produces.  The resolution takes an
IPv4-mapped address for IPv4 and a UNIX path for no longer than `sun_path`; the parser
accepts a mapped address, and paths of up to 255 bytes.
-/

namespace ChaosLibs.Net.Selectors

open ChaosLibs.Common.CString
open ChaosLibs.Dns.InetPton
open ChaosLibs.Net.Rule
open ChaosLibs.Net.LoadedRules
open ChaosLibs.Net.CallingProcess

/-! ## The parser -/

/-- `chaos_net_parse_port`. -/
def chaosNetParsePort (text : Bytes) : Option UInt16 :=
  match strtoul text with
  | none => none
  | some (value, rest) =>
      if rest ≠ [] ∨ 65535 < value then none else some (UInt16.ofNat value)

/-- A text before and after its last `stop` byte (`strrchr`). -/
def splitAtLast (stop : UInt8) (text : Bytes) : Option (Bytes × Bytes) :=
  if stop ∈ text then
    some
      ((text.reverse.dropWhile fun ch => ch != stop).tail.reverse,
        (text.reverse.takeWhile fun ch => ch != stop).reverse)
  else none

/-- `chaos_net_parse_ipv4_selector`. -/
def chaosNetParseIpv4Selector (kind : ChaosNetEndpointKind) (length : Nat)
    (body : Bytes) : Option ChaosNetEndpoint :=
  match splitAtLast (byte ':') body with
  | none => none
  | some (host, port) =>
      if host = [] then none
      else if host = [byte '*'] then
        (chaosNetParsePort port).map fun port =>
          { ChaosNetEndpoint.zeroed kind with
            selectorLen := length
            wildcardHost := true
            port := port }
      else if 16 ≤ host.length then none
      else
        (inetPton4 host).bind fun address =>
          (chaosNetParsePort port).map fun port =>
            { ChaosNetEndpoint.zeroed kind with
              selectorLen := length
              ipv4 := UInt32.ofNat (bigEndian address)
              port := port }

/-- `chaos_net_parse_ipv6_selector`. -/
def chaosNetParseIpv6Selector (kind : ChaosNetEndpointKind) (length : Nat)
    (body : Bytes) : Option ChaosNetEndpoint :=
  match body with
  | [] => none
  | first :: rest =>
      if first = byte '*' then
        match rest with
        | [] => none
        | next :: port =>
            if next ≠ byte ':' then none
            else
              (chaosNetParsePort port).map fun port =>
                { ChaosNetEndpoint.zeroed kind with
                  selectorLen := length
                  wildcardHost := true
                  port := port }
      else if first ≠ byte '[' then none
      else
        let host := cutAt (byte ']') rest
        match rest.drop host.length with
        | bracket :: next :: port =>
            if bracket ≠ byte ']' ∨ next ≠ byte ':' then none
            else if host = [] ∨ 46 ≤ host.length then none
            else
              (inetPton6 host).bind fun address =>
                (chaosNetParsePort port).map fun port =>
                  { ChaosNetEndpoint.zeroed kind with
                    selectorLen := length
                    ipv6 := BitVec.ofNat 128 (bigEndian address)
                    port := port }
        | _ => none

/-- `CHAOS_NET_MAX_TEXT`. -/
def chaosNetMaxText : Nat := 256

/-- `chaos_net_endpoint_parse_selector`. -/
def chaosNetEndpointParseSelector (text : Bytes) : Option ChaosNetEndpoint :=
  let body := text.drop 7
  if text = [] then none
  else if text = bytes "*" then
    some { ChaosNetEndpoint.zeroed .any with selectorLen := text.length }
  else if startsWith (bytes "tcp4://") text then
    chaosNetParseIpv4Selector .tcp4 text.length body
  else if startsWith (bytes "tcp6://") text then
    chaosNetParseIpv6Selector .tcp6 text.length body
  else if startsWith (bytes "udp4://") text then
    chaosNetParseIpv4Selector .udp4 text.length body
  else if startsWith (bytes "udp6://") text then
    chaosNetParseIpv6Selector .udp6 text.length body
  else if startsWith (bytes "unix://") text then
    if body = [] ∨ chaosNetMaxText ≤ body.length then none
    else
      some { ChaosNetEndpoint.zeroed .unix with selectorLen := text.length, text := body }
  else none

/-! ## Endpoints of a process -/

/-- An endpoint that the resolution of an address or of `socket` arguments produces. -/
inductive Resolved : ChaosNetEndpoint → Prop where
  | address {type : Option SocketType} {address : Bytes} {endpoint : ChaosNetEndpoint}
      (resolves : chaosNetEndpointFromSockaddr type address = some endpoint) :
      Resolved endpoint
  | spec {domain type : UInt32} {endpoint : ChaosNetEndpoint}
      (resolves : chaosNetEndpointFromSocketSpec domain type = some endpoint) :
      Resolved endpoint

/-- A selector matches an endpoint that can come up. -/
def Matchable (selector : ChaosNetEndpoint) : Prop :=
  ∃ endpoint, Resolved endpoint ∧ Matches selector endpoint

/-- A number in network byte order, in so many bytes. -/
def networkBytes : Nat → Nat → Bytes
  | 0, _ => []
  | length + 1, value => networkBytes length (value / 256) ++ [UInt8.ofNat value]

/-- The host of a selector is an IPv4-mapped IPv6 address. -/
def namesMapped (selector : ChaosNetEndpoint) : Bool :=
  (selector.kind == .tcp6 || selector.kind == .udp6) && !selector.wildcardHost &&
    isV4Mapped (networkBytes 16 selector.ipv6.toNat)

/-- The path of a selector is longer than `sun_path`. -/
def overlongPath (selector : ChaosNetEndpoint) : Bool :=
  selector.kind == .unix && decide (108 < selector.text.length)

/-! ## Network byte order -/

@[simp] theorem length_networkBytes (length value : Nat) :
    (networkBytes length value).length = length := by
  induction length generalizing value with
  | zero => rfl
  | succ length induction =>
      rw [networkBytes, List.length_append, induction, List.length_singleton]

@[simp] theorem bigEndian_concat (digits : Bytes) (last : UInt8) :
    bigEndian (digits ++ [last]) = bigEndian digits * 256 + last.toNat := by
  rw [bigEndian, bigEndian, List.foldl_append, List.foldl_cons, List.foldl_nil]

theorem bigEndian_networkBytes (length value : Nat) :
    bigEndian (networkBytes length value) = value % 256 ^ length := by
  induction length generalizing value with
  | zero => rw [Nat.pow_zero, Nat.mod_one, networkBytes]; rfl
  | succ length induction =>
      have lastByte : (UInt8.ofNat value).toNat = value % 256 := UInt8.toNat_ofNat'
      rw [networkBytes, bigEndian_concat, induction, lastByte, Nat.pow_succ',
        Nat.mod_mul, Nat.mul_comm, Nat.add_comm]

theorem networkBytes_bigEndian (digits : Bytes) :
    networkBytes digits.length (bigEndian digits) = digits := by
  induction digits using List.reverseRecOn with
  | nil => rfl
  | append_singleton digits last induction =>
      have byteOf : last.toNat < 256 := last.toNat_lt
      rw [List.length_append, List.length_singleton, networkBytes, bigEndian_concat]
      have higher : (bigEndian digits * 256 + last.toNat) / 256 = bigEndian digits := by
        omega
      have lower : UInt8.ofNat (bigEndian digits * 256 + last.toNat) = last := by
        apply UInt8.toNat_inj.mp
        rw [UInt8.toNat_ofNat']
        omega
      rw [higher, lower, induction]

theorem bigEndian_lt (digits : Bytes) : bigEndian digits < 256 ^ digits.length := by
  rw [← networkBytes_bigEndian digits, bigEndian_networkBytes, length_networkBytes]
  exact Nat.mod_lt _ (Nat.pow_pos (by decide))

/-- The field that stands between two parts of an address. -/
theorem field_between
    (before middle after : Bytes) {offset length : Nat}
    (start : before.length = offset) (size : middle.length = length) :
    field (before ++ (middle ++ after)) offset length = middle := by
  rw [field, ← start, ← size, List.drop_left, List.take_left]

/-! ## Addresses of the endpoints -/

/-- A `struct sockaddr_in`. -/
def sockaddrIn (port : UInt16) (ipv4 : UInt32) : Bytes :=
  [2, 0] ++ (networkBytes 2 port.toNat ++
    (networkBytes 4 ipv4.toNat ++ List.replicate 8 0))

/-- A `struct sockaddr_in6` without flow label and scope. -/
def sockaddrIn6 (port : UInt16) (ipv6 : BitVec 128) : Bytes :=
  [10, 0] ++ (networkBytes 2 port.toNat ++
    (List.replicate 4 0 ++ (networkBytes 16 ipv6.toNat ++ List.replicate 4 0)))

/-- A `struct sockaddr_un` whose length covers the path alone. -/
def sockaddrUn (path : Bytes) : Bytes :=
  [1, 0] ++ path

theorem ofNat_bigEndian_port (port : UInt16) :
    UInt16.ofNat (bigEndian (networkBytes 2 port.toNat)) = port := by
  apply UInt16.toNat_inj.mp
  have small : port.toNat < 65536 := port.toNat_lt
  rw [bigEndian_networkBytes, UInt16.toNat_ofNat']
  omega

theorem chaosNetEndpointFromSockaddr_sockaddrIn
    {type : Option SocketType} {kind : ChaosNetEndpointKind}
    (ofSocket : chaosNetEndpointKindFromSocket type afInet = some kind)
    (port : UInt16) (ipv4 : UInt32) :
    chaosNetEndpointFromSockaddr type (sockaddrIn port ipv4) =
      some { ChaosNetEndpoint.zeroed kind with port := port, ipv4 := ipv4 } := by
  have size : (sockaddrIn port ipv4).length = 16 := by
    simp [sockaddrIn]
  have portField : field (sockaddrIn port ipv4) 2 2 = networkBytes 2 port.toNat :=
    field_between [2, 0] _ _ rfl (length_networkBytes _ _)
  have hostField : field (sockaddrIn port ipv4) 4 4 = networkBytes 4 ipv4.toNat := by
    rw [sockaddrIn, ← List.append_assoc]
    exact field_between _ _ _ (by simp) (length_networkBytes _ _)
  have host : UInt32.ofNat (bigEndian (networkBytes 4 ipv4.toNat)) = ipv4 := by
    apply UInt32.toNat_inj.mp
    have small : ipv4.toNat < 4294967296 := ipv4.toNat_lt
    rw [bigEndian_networkBytes, UInt32.toNat_ofNat']
    omega
  have family : saFamily (sockaddrIn port ipv4) = afInet := rfl
  rw [chaosNetEndpointFromSockaddr, if_neg (by omega), if_pos family,
    if_neg (by omega), ofSocket, portField, hostField, ofNat_bigEndian_port, host]
  rfl

theorem chaosNetEndpointFromSockaddr_sockaddrIn6
    {type : Option SocketType} {kind : ChaosNetEndpointKind}
    (ofSocket : chaosNetEndpointKindFromSocket type afInet6 = some kind)
    (port : UInt16) {ipv6 : BitVec 128}
    (plain : isV4Mapped (networkBytes 16 ipv6.toNat) = false) :
    chaosNetEndpointFromSockaddr type (sockaddrIn6 port ipv6) =
      some { ChaosNetEndpoint.zeroed kind with port := port, ipv6 := ipv6 } := by
  have size : (sockaddrIn6 port ipv6).length = 28 := by
    simp [sockaddrIn6]
  have portField : field (sockaddrIn6 port ipv6) 2 2 = networkBytes 2 port.toNat :=
    field_between [10, 0] _ _ rfl (length_networkBytes _ _)
  have hostField : field (sockaddrIn6 port ipv6) 8 16 = networkBytes 16 ipv6.toNat := by
    rw [sockaddrIn6, ← List.append_assoc, ← List.append_assoc]
    exact field_between _ _ _ (by simp) (length_networkBytes _ _)
  have host : BitVec.ofNat 128 (bigEndian (networkBytes 16 ipv6.toNat)) = ipv6 := by
    apply BitVec.eq_of_toNat_eq
    have small : ipv6.toNat < 256 ^ 16 := ipv6.isLt
    rw [bigEndian_networkBytes, BitVec.toNat_ofNat, Nat.mod_eq_of_lt small]
    exact Nat.mod_eq_of_lt ipv6.isLt
  have family : saFamily (sockaddrIn6 port ipv6) = afInet6 := rfl
  rw [chaosNetEndpointFromSockaddr, if_neg (by omega), if_neg (by rw [family]; decide),
    if_pos family, if_neg (by omega), ofSocket, portField, hostField,
    ofNat_bigEndian_port, host, Option.map_some, plain]
  rfl

theorem chaosNetEndpointFromSockaddr_sockaddrUn
    {path : Bytes} (noNul : 0 ∉ path) (fits : path.length ≤ 108) :
    chaosNetEndpointFromSockaddr (some .stream) (sockaddrUn path) =
      some { ChaosNetEndpoint.zeroed .unix with text := path } := by
  have family : saFamily (sockaddrUn path) = afUnix := rfl
  have whole : field (sockaddrUn path) 2 108 = path := by
    exact List.take_of_length_le fits
  have named : path.head? ≠ some 0 := fun first => noNul (List.mem_of_mem_head? first)
  have text : unixText path = path := by
    rw [unixText, if_neg named, cutAt_of_not_mem noNul]
  rw [chaosNetEndpointFromSockaddr,
    if_neg (by simp [sockaddrUn]), if_neg (by rw [family]; decide),
    if_neg (by rw [family]; decide), if_pos family, whole, text]
  rfl

/-! ## What the resolution leaves out -/

theorem not_isV4Mapped_zero :
    isV4Mapped (networkBytes 16 (BitVec.toNat (0 : BitVec 128))) = false := by
  decide +kernel

theorem length_unixText_le (path : Bytes) : (unixText path).length ≤ path.length := by
  unfold unixText
  split
  · rw [List.length_map]
  · exact (List.takeWhile_prefix _).length_le

/-- The host of an `AF_INET6` endpoint is the one of its address. -/
theorem networkBytes_ofNat_bigEndian
    {host : Bytes} (size : host.length = 16) :
    networkBytes 16 (BitVec.ofNat 128 (bigEndian host)).toNat = host := by
  have small : bigEndian host < 2 ^ 128 :=
    (size ▸ bigEndian_lt host).trans_eq (by decide)
  rw [BitVec.toNat_ofNat, Nat.mod_eq_of_lt small, ← size]
  exact networkBytes_bigEndian host

/-- No endpoint has a mapped IPv6 host or a path that `sun_path` cannot hold. -/
theorem resolved_bounds
    {endpoint : ChaosNetEndpoint} (resolved : Resolved endpoint) :
    isV4Mapped (networkBytes 16 endpoint.ipv6.toNat) = false ∧
      endpoint.text.length ≤ 108 := by
  cases resolved with
  | @address type address _ resolves =>
      unfold chaosNetEndpointFromSockaddr at resolves
      split at resolves
      · cases resolves
      · split at resolves
        · -- AF_INET
          split at resolves
          · cases resolves
          · rcases Option.map_eq_some_iff.mp resolves with ⟨kind, -, rfl⟩
            exact ⟨not_isV4Mapped_zero, Nat.zero_le _⟩
        · split at resolves
          · -- AF_INET6
            split at resolves
            · cases resolves
            · rename_i long
              rcases Option.map_eq_some_iff.mp resolves with ⟨kind, -, same⟩
              have size : (field address 8 16).length = 16 := by
                rw [field, List.length_take, List.length_drop]
                omega
              split at same
              · cases same
                exact ⟨not_isV4Mapped_zero, Nat.zero_le _⟩
              · rename_i plain
                cases same
                refine ⟨?_, Nat.zero_le _⟩
                rw [networkBytes_ofNat_bigEndian size]
                exact Bool.eq_false_iff.mpr plain
          · split at resolves
            · -- AF_UNIX
              rcases Option.map_eq_some_iff.mp resolves with ⟨kind, -, rfl⟩
              refine ⟨not_isV4Mapped_zero, (length_unixText_le _).trans ?_⟩
              rw [field, List.length_take]
              exact Nat.min_le_left _ _
            · cases resolves
  | @spec domain type _ resolves =>
      have plain : endpoint.ipv6 = 0 ∧ endpoint.text.length ≤ 1 := by
        unfold chaosNetEndpointFromSocketSpec at resolves
        dsimp only at resolves
        split at resolves
        · split at resolves
          · cases resolves; exact ⟨rfl, by decide⟩
          · split at resolves
            · cases resolves; exact ⟨rfl, by decide⟩
            · cases resolves
        · split at resolves
          · split at resolves
            · cases resolves; exact ⟨rfl, by decide⟩
            · split at resolves
              · cases resolves; exact ⟨rfl, by decide⟩
              · cases resolves
          · split at resolves
            · cases resolves; exact ⟨rfl, by decide⟩
            · cases resolves
      exact ⟨plain.1 ▸ not_isV4Mapped_zero, plain.2.trans (by decide)⟩

/-- A selector of a mapped host or of an overlong path matches nothing. -/
theorem not_matchable
    {selector : ChaosNetEndpoint}
    (unreachable : namesMapped selector = true ∨ overlongPath selector = true) :
    ¬ Matchable selector := by
  rintro ⟨endpoint, resolved, matching⟩
  have bounds := resolved_bounds resolved
  rw [matches_iff] at matching
  rcases unreachable with mapped | long
  · simp only [namesMapped, Bool.and_eq_true, Bool.or_eq_true, beq_iff_eq,
      Bool.not_eq_true'] at mapped
    rcases mapped with ⟨⟨family, named⟩, mapped⟩
    have sameHost : selector.ipv6 = endpoint.ipv6 := by
      rcases family with kind | kind
      · rw [kind] at matching
        exact matching.2.2.resolve_left (by rw [named]; decide)
      · rw [kind] at matching
        exact matching.2.2.resolve_left (by rw [named]; decide)
    rw [sameHost, bounds.1] at mapped
    cases mapped
  · simp only [overlongPath, Bool.and_eq_true, beq_iff_eq, decide_eq_true_eq] at long
    rw [long.1] at matching
    rcases matching.2 with wild | same
    · have short : selector.text.length = 1 := by rw [wild]; decide
      omega
    · have short := bounds.2
      rw [← same] at short
      omega

/-! ## Accepted selectors -/

theorem kind_of_chaosNetParseIpv4Selector
    {kind : ChaosNetEndpointKind} {length : Nat} {body : Bytes}
    {selector : ChaosNetEndpoint}
    (accepted : chaosNetParseIpv4Selector kind length body = some selector) :
    selector.kind = kind := by
  unfold chaosNetParseIpv4Selector at accepted
  split at accepted
  · cases accepted
  · split at accepted
    · cases accepted
    · split at accepted
      · rcases Option.map_eq_some_iff.mp accepted with ⟨port, -, rfl⟩
        rfl
      · split at accepted
        · cases accepted
        · rcases Option.bind_eq_some_iff.mp accepted with ⟨address, -, parsed⟩
          rcases Option.map_eq_some_iff.mp parsed with ⟨port, -, rfl⟩
          rfl

theorem kind_of_chaosNetParseIpv6Selector
    {kind : ChaosNetEndpointKind} {length : Nat} {body : Bytes}
    {selector : ChaosNetEndpoint}
    (accepted : chaosNetParseIpv6Selector kind length body = some selector) :
    selector.kind = kind := by
  unfold chaosNetParseIpv6Selector at accepted
  split at accepted
  · cases accepted
  · split at accepted
    · split at accepted
      · cases accepted
      · split at accepted
        · cases accepted
        · rcases Option.map_eq_some_iff.mp accepted with ⟨port, -, rfl⟩
          rfl
    · split at accepted
      · cases accepted
      · dsimp only at accepted
        split at accepted
        · split at accepted
          · cases accepted
          · split at accepted
            · cases accepted
            · rcases Option.bind_eq_some_iff.mp accepted with ⟨address, -, parsed⟩
              rcases Option.map_eq_some_iff.mp parsed with ⟨port, -, rfl⟩
              rfl
        · cases accepted

/-- What the parser promises of a selector: a kind, and a path without a NUL. -/
theorem kind_of_chaosNetEndpointParseSelector
    {text : Bytes} {selector : ChaosNetEndpoint} (noNul : 0 ∉ text)
    (accepted : chaosNetEndpointParseSelector text = some selector) :
    selector.kind ≠ .invalid ∧ (selector.kind = .unix → 0 ∉ selector.text) := by
  unfold chaosNetEndpointParseSelector at accepted
  dsimp only at accepted
  split at accepted
  · cases accepted
  · split at accepted
    · cases accepted
      exact ⟨nofun, nofun⟩
    · split at accepted
      · rw [kind_of_chaosNetParseIpv4Selector accepted]
        exact ⟨nofun, nofun⟩
      · split at accepted
        · rw [kind_of_chaosNetParseIpv6Selector accepted]
          exact ⟨nofun, nofun⟩
        · split at accepted
          · rw [kind_of_chaosNetParseIpv4Selector accepted]
            exact ⟨nofun, nofun⟩
          · split at accepted
            · rw [kind_of_chaosNetParseIpv6Selector accepted]
              exact ⟨nofun, nofun⟩
            · split at accepted
              · split at accepted
                · cases accepted
                · cases accepted
                  exact ⟨nofun, fun _ inside => noNul (List.mem_of_mem_drop inside)⟩
              · cases accepted

/-! ## Addresses for the selectors -/

theorem matchable_ipv4
    {selector : ChaosNetEndpoint} {type : SocketType}
    (family : selector.kind = .tcp4 ∨ selector.kind = .udp4)
    (ofSocket : chaosNetEndpointKindFromSocket (some type) afInet = some selector.kind) :
    Matchable selector := by
  refine ⟨_, .address (chaosNetEndpointFromSockaddr_sockaddrIn ofSocket selector.port
    selector.ipv4), ?_⟩
  rw [matches_iff]
  rcases family with kind | kind
  · rw [kind]
    exact ⟨rfl, rfl, Or.inr rfl⟩
  · rw [kind]
    exact ⟨rfl, rfl, Or.inr rfl⟩

/-- A wildcard host takes the unspecified address, another host its own. -/
theorem matchable_ipv6
    {selector : ChaosNetEndpoint} {type : SocketType}
    (family : selector.kind = .tcp6 ∨ selector.kind = .udp6)
    (ofSocket : chaosNetEndpointKindFromSocket (some type) afInet6 = some selector.kind)
    (plain : namesMapped selector = false) :
    Matchable selector := by
  have ends : ∃ ipv6, isV4Mapped (networkBytes 16 ipv6.toNat) = false ∧
      (selector.wildcardHost = true ∨ selector.ipv6 = ipv6) := by
    cases wild : selector.wildcardHost with
    | true => exact ⟨0, not_isV4Mapped_zero, Or.inl rfl⟩
    | false =>
        refine ⟨selector.ipv6, ?_, Or.inr rfl⟩
        rcases family with kind | kind
        · simpa [namesMapped, kind, wild] using plain
        · simpa [namesMapped, kind, wild] using plain
  rcases ends with ⟨ipv6, unmapped, same⟩
  refine ⟨_, .address (chaosNetEndpointFromSockaddr_sockaddrIn6 ofSocket selector.port
    unmapped), ?_⟩
  rw [matches_iff]
  rcases family with kind | kind
  · rw [kind]
    exact ⟨rfl, rfl, same⟩
  · rw [kind]
    exact ⟨rfl, rfl, same⟩

theorem matchable_unix
    {selector : ChaosNetEndpoint} (kind : selector.kind = .unix)
    (noNul : 0 ∉ selector.text) (fits : overlongPath selector = false) :
    Matchable selector := by
  have short : selector.text.length ≤ 108 := by
    simpa [overlongPath, kind] using fits
  refine ⟨_, .address (chaosNetEndpointFromSockaddr_sockaddrUn noNul short), ?_⟩
  rw [matches_iff, kind]
  exact ⟨rfl, Or.inr rfl⟩

/--
An accepted selector matches an endpoint that can come up exactly when it names neither
an IPv4-mapped host nor a path longer than `sun_path`.
-/
theorem selectorMatchable_iff
    (text : Bytes) (selector : ChaosNetEndpoint) (noNul : 0 ∉ text)
    (accepted : chaosNetEndpointParseSelector text = some selector) :
    Matchable selector ↔
      namesMapped selector = false ∧ overlongPath selector = false := by
  have parsed := kind_of_chaosNetEndpointParseSelector noNul accepted
  constructor
  · intro matchable
    constructor
    · exact Bool.eq_false_iff.mpr fun mapped => not_matchable (Or.inl mapped) matchable
    · exact Bool.eq_false_iff.mpr fun long => not_matchable (Or.inr long) matchable
  · rintro ⟨plain, fits⟩
    cases kind : selector.kind with
    | invalid => exact absurd kind parsed.1
    | any =>
        refine ⟨_, @Resolved.spec 2 1 _ rfl, ?_⟩
        rw [matches_iff, kind]
        trivial
    | tcp4 => exact @matchable_ipv4 _ .stream (Or.inl kind) (by rw [kind]; rfl)
    | udp4 => exact @matchable_ipv4 _ .dgram (Or.inr kind) (by rw [kind]; rfl)
    | tcp6 => exact @matchable_ipv6 _ .stream (Or.inl kind) (by rw [kind]; rfl) plain
    | udp6 => exact @matchable_ipv6 _ .dgram (Or.inr kind) (by rw [kind]; rfl) plain
    | unix => exact matchable_unix kind (parsed.2 kind) fits

/-- A selector of an IPv4 host and one of any UNIX socket both come up. -/
theorem selectorMatchable_iff_loopback :
    (∃ selector,
      chaosNetEndpointParseSelector (bytes "tcp4://127.0.0.1:80") = some selector ∧
        Matchable selector) ∧
    (∃ selector,
      chaosNetEndpointParseSelector (bytes "unix://*") = some selector ∧
        Matchable selector) := by
  refine ⟨⟨_, rfl, ?_⟩, ⟨_, rfl, ?_⟩⟩
  · exact (selectorMatchable_iff (bytes "tcp4://127.0.0.1:80") _ (by decide) rfl).mpr
      (by decide +kernel)
  · exact (selectorMatchable_iff (bytes "unix://*") _ (by decide) rfl).mpr (by decide +kernel)

/-- Text selectors of a mapped host and of a path of 109 bytes. -/
def mappedText : Bytes :=
  bytes "tcp6://[::ffff:192.168.1.1]:443"

def overlongText : Bytes :=
  bytes "unix://" ++ List.replicate 109 (byte 'a')

/-- Both are accepted and neither matches an endpoint. -/
theorem mapped_overlong_not_matchable :
    (∃ selector, chaosNetEndpointParseSelector mappedText = some selector ∧
      ¬ Matchable selector) ∧
    (∃ selector, chaosNetEndpointParseSelector overlongText = some selector ∧
      ¬ Matchable selector) := by
  have mapped : ((chaosNetEndpointParseSelector mappedText).map namesMapped) =
      some true := by decide +kernel
  have long : ((chaosNetEndpointParseSelector overlongText).map overlongPath) =
      some true := by decide +kernel
  rcases Option.map_eq_some_iff.mp mapped with ⟨first, parsed, isMapped⟩
  rcases Option.map_eq_some_iff.mp long with ⟨second, alsoParsed, isLong⟩
  exact ⟨⟨first, parsed, not_matchable (Or.inl isMapped)⟩,
    ⟨second, alsoParsed, not_matchable (Or.inr isLong)⟩⟩

end ChaosLibs.Net.Selectors
