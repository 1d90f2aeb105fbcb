import ChaosLibs.Common.HexText
import ChaosLibs.Machine.Segments
import ChaosLibs.Net.Selectors

/-!
# Address columns of `/proc/net`

The kernel prints an address as its 32-bit words, each as the host reads it from memory, and
a port as its number.  The supervisor stores each word back as the host does, and the port
in network order: what it builds has the bytes of the address on either kind of host.
-/

namespace ChaosLibs.Init.NetAddress

open ChaosLibs.Machine
open ChaosLibs.Common.CString
open ChaosLibs.Common.HexText
open ChaosLibs.Net.CallingProcess
open ChaosLibs.Net.Selectors

/-- The byte order of the host. -/
inductive ByteOrder where
  | little
  | big
deriving DecidableEq, Repr

/-- An integer as it lies in memory. -/
def ByteOrder.store (order : ByteOrder) (length value : Nat) : Bytes :=
  match order with
  | .little => (networkBytes length value).reverse
  | .big => networkBytes length value

/-- The integer that lies in memory. -/
def ByteOrder.load (order : ByteOrder) (memory : Bytes) : Nat :=
  match order with
  | .little => bigEndian memory.reverse
  | .big => bigEndian memory

/-- `htons`: the integer whose bytes are in network order. -/
def ByteOrder.htons (order : ByteOrder) (value : Nat) : Nat :=
  order.load (networkBytes 2 value)

/-- `(uint32_t)strtoul(word, NULL, 16)` of the eight digits at an index. -/
def wordAt (text : Bytes) (index : Nat) : Nat :=
  (strtoulHex (field text (8 * index) 8)).getD 0 % 2 ^ 32

/-- The port of a column, by `sscanf` with `%x`, as it is stored. -/
def portBytes (order : ByteOrder) (port : Nat) : Bytes :=
  order.store 2 (order.htons (port % 2 ^ 32 % 2 ^ 16))

/-- `chaos_init_net_parse_address`: the bytes of the `sockaddr`. -/
def chaosInitNetParseAddress
    (order : ByteOrder) (text : Bytes) (family : Nat) : Option Bytes :=
  if byte ':' ∉ text then none
  else
    match strtoulHex (text.drop ((cutAt (byte ':') text).length + 1)) with
    | none => none
    | some port =>
        if (cutAt (byte ':') text).length ≠
            (if family = afInet then 8 else 32) then none
        else if family = afInet then
          some (order.store 2 afInet ++ (portBytes order port ++
            (order.store 4 (wordAt text 0) ++ List.replicate 8 0)))
        else
          some (order.store 2 afInet6 ++ (portBytes order port ++
            (List.replicate 4 0 ++
              ((List.range 4).flatMap (fun index =>
                order.store 4 (wordAt text index)) ++ List.replicate 4 0))))

/-- The column that the kernel prints. -/
def procColumn (order : ByteOrder) (address : Bytes) (port : UInt16) : Bytes :=
  (List.range (address.length / 4)).flatMap (fun index =>
    hexText 8 (order.load (field address (4 * index) 4))) ++
    byte ':' :: hexText 4 port.toNat

/-! ## Integers in memory -/

theorem store_load (order : ByteOrder) (memory : Bytes) :
    order.store memory.length (order.load memory) = memory := by
  cases order with
  | big => exact networkBytes_bigEndian memory
  | little =>
      have back := networkBytes_bigEndian memory.reverse
      rw [List.length_reverse] at back
      rw [ByteOrder.store, ByteOrder.load, back, List.reverse_reverse]

theorem load_lt (order : ByteOrder) (memory : Bytes) :
    order.load memory < 256 ^ memory.length := by
  cases order with
  | big => exact bigEndian_lt memory
  | little =>
      have bound := bigEndian_lt memory.reverse
      rwa [List.length_reverse] at bound

/-- The port is stored in network order. -/
theorem portBytes_eq (order : ByteOrder) (port : UInt16) :
    portBytes order port.toNat = networkBytes 2 port.toNat := by
  have small := port.toNat_lt
  have back := store_load order (networkBytes 2 port.toNat)
  rw [length_networkBytes] at back
  rw [portBytes, Nat.mod_eq_of_lt (by omega : port.toNat < 2 ^ 32),
    Nat.mod_eq_of_lt small, ByteOrder.htons, back]

/-! ## Columns -/

variable (order : ByteOrder) (address : Bytes) (port : UInt16)

theorem colon_not_mem_words :
    byte ':' ∉ (List.range (address.length / 4)).flatMap fun index =>
      hexText 8 (order.load (field address (4 * index) 4)) := by
  intro member
  rcases List.mem_flatMap.mp member with ⟨index, _, inside⟩
  exact (apart_of_isHexDigit (isHexDigit_of_mem inside)).2.2.2.2.2 rfl

/-- What stands in front of the colon, and behind it. -/
theorem procColumn_parts :
    byte ':' ∈ procColumn order address port ∧
      (cutAt (byte ':') (procColumn order address port)).length =
        8 * (address.length / 4) ∧
      (procColumn order address port).drop
          (8 * (address.length / 4) + 1) = hexText 4 port.toNat := by
  have length := Segments.length_flatMap_range
    (fun index => hexText 8 (order.load (field address (4 * index) 4)))
    (address.length / 4) fun index => length_hexText 8 _
  have cut : cutAt (byte ':') (procColumn order address port) =
      (List.range (address.length / 4)).flatMap fun index =>
        hexText 8 (order.load (field address (4 * index) 4)) := by
    rw [procColumn, cutAt, List.takeWhile_append_of_pos,
      List.takeWhile_cons_of_neg (by decide), List.append_nil]
    intro ch member
    rw [bne_iff_ne]
    rintro rfl
    exact colon_not_mem_words order address member
  refine ⟨List.mem_append_right _ List.mem_cons_self, ?_, ?_⟩
  · rw [cut, length]
  · rw [procColumn, ← length, List.drop_append, Nat.add_sub_cancel_left,
      List.drop_eq_nil_of_le (Nat.le_succ _)]
    rfl

/-- A word of a column is read as the host reads it from memory. -/
theorem wordAt_procColumn
    {index : Nat} (inside : 4 * index + 4 ≤ address.length) :
    order.store 4 (wordAt (procColumn order address port) index) =
      field address (4 * index) 4 := by
  have length : (field address (4 * index) 4).length = 4 := by
    rw [field, List.length_take, List.length_drop]
    omega
  have small : order.load (field address (4 * index) 4) < 2 ^ 32 := by
    have bound := load_lt order (field address (4 * index) 4)
    rw [length] at bound
    exact Nat.lt_of_lt_of_le bound (by decide)
  have digits : field (procColumn order address port) (8 * index) 8 =
      hexText 8 (order.load (field address (4 * index) 4)) :=
    Segments.take_drop_flatMap _ _ (fun index => length_hexText 8 _)
      (by omega : index < address.length / 4)
  have back := store_load order (field address (4 * index) 4)
  rw [length] at back
  rw [wordAt, digits, strtoulHex_hexText (by decide) (by decide) small,
    Option.getD_some, Nat.mod_eq_of_lt small, back]

/-- The port behind the colon. -/
theorem port_procColumn :
    strtoulHex ((procColumn order address port).drop
      ((cutAt (byte ':') (procColumn order address port)).length + 1)) =
      some port.toNat := by
  rcases procColumn_parts order address port with ⟨_, width, behind⟩
  rw [width, behind]
  exact strtoulHex_hexText (by decide) (by decide) port.toNat_lt

/-- A column of another width than the family's is rejected. -/
theorem parse_of_other_width
    {family : Nat}
    (other : 8 * (address.length / 4) ≠
      if family = afInet then 8 else 32) :
    chaosInitNetParseAddress order (procColumn order address port) family =
      none := by
  rcases procColumn_parts order address port with ⟨colon, width, _⟩
  rw [chaosInitNetParseAddress, if_neg (not_not.mpr colon), port_procColumn,
    width]
  exact if_pos other

/-- Parsing inverts the kernel's printing: the address bytes and the port in
network order, for both families and on either host; and a column of the other
family is rejected. -/
theorem parse_procColumn (ipv4 : UInt32) (ipv6 : BitVec 128) :
    chaosInitNetParseAddress order
        (procColumn order (networkBytes 4 ipv4.toNat) port) afInet =
      some (order.store 2 afInet ++ (networkBytes 2 port.toNat ++
        (networkBytes 4 ipv4.toNat ++ List.replicate 8 0))) ∧
      chaosInitNetParseAddress order
          (procColumn order (networkBytes 16 ipv6.toNat) port) afInet6 =
        some (order.store 2 afInet6 ++ (networkBytes 2 port.toNat ++
          (List.replicate 4 0 ++
            (networkBytes 16 ipv6.toNat ++ List.replicate 4 0)))) ∧
      chaosInitNetParseAddress order
          (procColumn order (networkBytes 4 ipv4.toNat) port) afInet6 = none ∧
      chaosInitNetParseAddress order
          (procColumn order (networkBytes 16 ipv6.toNat) port) afInet =
        none := by
  have length4 := length_networkBytes 4 ipv4.toNat
  have length16 := length_networkBytes 16 ipv6.toNat
  refine ⟨?_, ?_, ?_, ?_⟩
  · rcases procColumn_parts order (networkBytes 4 ipv4.toNat) port with
      ⟨colon, width, _⟩
    have inside : 4 * 0 + 4 ≤ (networkBytes 4 ipv4.toNat).length :=
      Nat.le_of_eq length4.symm
    have word := wordAt_procColumn order _ port inside
    have whole : field (networkBytes 4 ipv4.toNat) (4 * 0) 4 =
        networkBytes 4 ipv4.toNat :=
      List.take_of_length_le (Nat.le_of_eq length4)
    rw [chaosInitNetParseAddress, if_neg (not_not.mpr colon), port_procColumn]
    dsimp only
    rw [width, length4, if_pos rfl, if_neg (by decide), if_pos rfl,
      portBytes_eq, word, whole]
  · rcases procColumn_parts order (networkBytes 16 ipv6.toNat) port with
      ⟨colon, width, _⟩
    have words : ((List.range 4).flatMap fun index => order.store 4
        (wordAt (procColumn order (networkBytes 16 ipv6.toNat) port) index)) =
        networkBytes 16 ipv6.toNat := by
      have each : ∀ index ∈ List.range 4, order.store 4
          (wordAt (procColumn order (networkBytes 16 ipv6.toNat) port) index) =
            field (networkBytes 16 ipv6.toNat) (4 * index) 4 := by
        intro index member
        have below := List.mem_range.mp member
        exact wordAt_procColumn order _ port (by rw [length16]; omega)
      rw [List.flatMap_congr each]
      refine (Segments.flatMap_take_drop _ 4 4).trans ?_
      exact List.take_of_length_le (Nat.le_of_eq length16)
    rw [chaosInitNetParseAddress, if_neg (not_not.mpr colon), port_procColumn]
    dsimp only
    rw [width, length16, if_neg (by decide), if_neg (by decide),
      portBytes_eq, words]
  · exact parse_of_other_width order _ port (by rw [length4]; decide)
  · exact parse_of_other_width order _ port (by rw [length16]; decide)

end ChaosLibs.Init.NetAddress
