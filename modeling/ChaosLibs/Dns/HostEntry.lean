import ChaosLibs.Dns.AddressLists
import ChaosLibs.Machine.WriteLog

/-!
# A host entry in the caller's buffer

`chaos_dns_fill_hostent` counts the addresses of a family, lays out pointers, addresses
and name behind the padding of the buffer, and fills them in.  The writes are those of a
log in which no two overlap; so each is read back where the entry points.  The name and
the list lie outside the buffer and are passed by value.
-/

namespace ChaosLibs.Dns.HostEntry

open ChaosLibs.Common.CString
open ChaosLibs.Dns.AddressLists (AddrInfo)
open ChaosLibs.Dns.ConfigParser
open ChaosLibs.Machine.ByteMemory
open ChaosLibs.Machine.WriteLog

/-! ## The entry -/

/-- `struct hostent`; pointers are addresses. -/
structure Hostent where
  hName : Nat
  hAliases : Nat
  hAddrtype : Int
  hLength : Nat
  hAddrList : Nat
deriving DecidableEq, Repr

/-- `ENOENT` and `ERANGE`. -/
def enoent : Nat := 2
def erange : Nat := 34

/-- `sizeof(struct in6_addr)` and `sizeof(struct in_addr)`. -/
def addressSize (family : Int) : Nat :=
  if family = afInet6 then 16 else 4

/-- `sin6_addr` and `sin_addr` of a socket address. -/
def addressOf (family : Int) (addr : Bytes) : Bytes :=
  (addr.drop (if family = afInet6 then 8 else 4)).take (addressSize family)

/-- A node that the passes over the list do not skip. -/
def counted (family : Int) (node : AddrInfo) : Bool :=
  node.family == family && node.addr.isSome

/-- The name of the entry: the canonical name of the first node, or the queried name. -/
def hostName (name : Bytes) (list : List AddrInfo) : Bytes :=
  (list.head?.bind fun node => node.canonname).getD name

/-- The pass of `chaos_dns_fill_hostent` that copies the addresses. -/
def fillAddresses (family : Int) (pointers addresses : Nat) :
    List AddrInfo → Nat → Memory → Memory
  | [], _, memory => memory
  | node :: rest, index, memory =>
      match if node.family = family then node.addr else none with
      | none => fillAddresses family pointers addresses rest index memory
      | some addr =>
          let block := addresses + index * addressSize family
          fillAddresses family pointers addresses rest (index + 1)
            (store (store memory block (addressOf family addr))
              (pointers + 8 * (1 + index)) (wordBytes block))

/-- `chaos_dns_fill_hostent`: the entry and the memory, or `ENOENT` or `ERANGE`. -/
def chaosDnsFillHostent (name : Bytes) (family : Int) (list : List AddrInfo)
    (buffer bufferSize : Nat) (memory : Memory) : Except Nat (Hostent × Memory) :=
  let size := addressSize family
  let count := list.countP (counted family)
  if count = 0 then .error enoent
  else
    let host := hostName name list
    let nameSize := host.length + 1
    let offset := if buffer % 8 = 0 then 0 else 8 - buffer % 8
    let pointersSize := (count + 2) * 8 % 2 ^ 64
    if bufferSize < offset ∨
        bufferSize - offset < (pointersSize + count * size + nameSize) % 2 ^ 64 then
      .error erange
    else
      let pointers := buffer + offset
      let addresses := buffer + offset + pointersSize
      let filled := fillAddresses family pointers addresses list 0 memory
      let ended := store (store filled pointers (wordBytes 0))
        (pointers + 8 * (1 + count)) (wordBytes 0)
      .ok
        ({ hName := addresses + count * size
           hAliases := pointers
           hAddrtype := family
           hLength := size
           hAddrList := pointers + 8 },
          store ended (addresses + count * size) (host ++ [0]))

/-! ## What an entry says -/

/--
The arguments of a call.  A socket address of the family is a whole one, and what is
passed lies in memory: 48 bytes for each node, the name, and the buffer.
-/
structure HostentCall where
  name : Bytes
  family : Int
  list : List AddrInfo
  buffer : Nat
  bufferSize : Nat
  whole : ∀ node ∈ list, node.family = family → ∀ addr, node.addr = some addr →
    (if family = afInet6 then 28 else 16) ≤ addr.length
  inMemory : 48 * list.length + ((hostName name list).length + 1) ≤ 2 ^ 64
  inSpace : buffer + bufferSize ≤ 2 ^ 64

/-- The addresses of a family, in the order of a list. -/
def familyAddresses (family : Int) (list : List AddrInfo) : List Bytes :=
  ((list.filter fun node => node.family = family).filterMap fun node => node.addr).map
    (addressOf family)

def HostentCall.addresses (call : HostentCall) : List Bytes :=
  familyAddresses call.family call.list

/-- The name of the entry. -/
def HostentCall.hostName (call : HostentCall) : Bytes :=
  HostEntry.hostName call.name call.list

/-- The bytes of the pointers, the addresses and the name. -/
def HostentCall.need (call : HostentCall) : Nat :=
  8 * (call.addresses.length + 2) + call.addresses.length * addressSize call.family +
    (call.hostName.length + 1)

/-- Pointers at an aligned address, the addresses and the name fit in the buffer. -/
def HostentCall.Fits (call : HostentCall) : Prop :=
  ∃ pointers, 8 ∣ pointers ∧ call.buffer ≤ pointers ∧
    pointers + call.need ≤ call.buffer + call.bufferSize

/-- The pointers, the addresses and the name of an entry, each with its size. -/
def regions (entry : Hostent) (blocks : List Nat) (nameSize : Nat) : List (Nat × Nat) :=
  (entry.hAliases, 8 * (blocks.length + 2)) ::
    ((blocks.map fun block => (block, entry.hLength)) ++ [(entry.hName, nameSize)])

/-- An entry in the buffer says what the list and the name do. -/
structure Laid (call : HostentCall) (memory after : Memory) (entry : Hostent)
    (blocks : List Nat) : Prop where
  addrtype : entry.hAddrtype = call.family
  length : entry.hLength = addressSize call.family
  aligned : 8 ∣ entry.hAliases
  table : entry.hAddrList = entry.hAliases + 8
  noAliases : PointersAt after entry.hAliases []
  addrList : PointersAt after entry.hAddrList blocks
  addresses : (blocks.map fun block => contents after block entry.hLength) = call.addresses
  name : contents after entry.hName (call.hostName.length + 1) = call.hostName ++ [0]
  inside : ∀ region ∈ regions entry blocks (call.hostName.length + 1),
    call.buffer ≤ region.1 ∧ region.1 + region.2 ≤ call.buffer + call.bufferSize
  apart : (regions entry blocks (call.hostName.length + 1)).Pairwise
    fun first second => first.1 + first.2 ≤ second.1
  frame : ∀ address, (∀ region ∈ regions entry blocks (call.hostName.length + 1),
    address < region.1 ∨ region.1 + region.2 ≤ address) → after address = memory address

/-! ## The passes over the list -/

variable {family : Int} {list : List AddrInfo}

theorem familyAddresses_cons (node : AddrInfo) (rest : List AddrInfo) :
    familyAddresses family (node :: rest) =
      match if node.family = family then node.addr else none with
      | none => familyAddresses family rest
      | some addr => addressOf family addr :: familyAddresses family rest := by
  unfold familyAddresses
  by_cases same : node.family = family
  · rw [List.filter_cons, if_pos (decide_eq_true same), List.filterMap_cons, if_pos same]
    cases node.addr <;> rfl
  · rw [List.filter_cons, if_neg (by rwa [decide_eq_true_eq]), if_neg same]

/-- The counting pass and the copying pass find the same nodes. -/
theorem countP_counted (family : Int) (list : List AddrInfo) :
    list.countP (counted family) = (familyAddresses family list).length := by
  induction list with
  | nil => rfl
  | cons node rest induction =>
      rw [familyAddresses_cons, List.countP_cons, induction]
      by_cases same : node.family = family
      · cases addr : node.addr <;> simp [counted, same, addr]
      · simp [counted, same]

theorem length_addressOf {addr : Bytes}
    (whole : (if family = afInet6 then 28 else 16) ≤ addr.length) :
    (addressOf family addr).length = addressSize family := by
  rw [addressOf, List.length_take, List.length_drop, addressSize]
  split
  · rename_i inet6
    rw [if_pos inet6] at whole
    omega
  · rename_i inet
    rw [if_neg inet] at whole
    omega

theorem length_of_mem_addresses (call : HostentCall) :
    ∀ address ∈ call.addresses, address.length = addressSize call.family := by
  intro address member
  rcases List.mem_map.mp member with ⟨addr, found, rfl⟩
  rcases List.mem_filterMap.mp found with ⟨node, inFamily, same⟩
  rcases List.mem_filter.mp inFamily with ⟨inList, family⟩
  exact length_addressOf (call.whole node inList (of_decide_eq_true family) addr same)

/-! ## The log of the writes -/

/-- The address that is copied, and the pointer to it. -/
def fillLog (size pointers addresses : Nat) : Nat → List Bytes → List Write
  | _, [] => []
  | index, address :: rest =>
      ⟨addresses + index * size, address⟩ ::
        ⟨pointers + 8 * (1 + index), wordBytes (addresses + index * size)⟩ ::
          fillLog size pointers addresses (index + 1) rest

theorem fillAddresses_eq (pointers addresses : Nat) (list : List AddrInfo) (index : Nat)
    (memory : Memory) :
    fillAddresses family pointers addresses list index memory =
      run memory (fillLog (addressSize family) pointers addresses index
        (familyAddresses family list)) := by
  induction list generalizing index memory with
  | nil => rfl
  | cons node rest induction =>
      rw [fillAddresses, familyAddresses_cons]
      cases (if node.family = family then node.addr else none) with
      | none => exact induction index memory
      | some addr => exact induction (index + 1) _

variable {size pointers addresses index : Nat} {items : List Bytes}

/-- A write of the log is an address in its block or a pointer in its slot. -/
theorem mem_fillLog {write : Write} :
    write ∈ fillLog size pointers addresses index items ↔
      ∃ place item, items[place]? = some item ∧
        (write = ⟨addresses + (index + place) * size, item⟩ ∨
          write = ⟨pointers + 8 * (1 + (index + place)),
            wordBytes (addresses + (index + place) * size)⟩) := by
  induction items generalizing index with
  | nil =>
      constructor
      · nofun
      · rintro ⟨place, item, found, -⟩
        cases found
  | cons first rest induction =>
      rw [fillLog, List.mem_cons, List.mem_cons, induction]
      constructor
      · rintro (rfl | rfl | ⟨place, item, found, form⟩)
        · exact ⟨0, first, rfl, Or.inl rfl⟩
        · exact ⟨0, first, rfl, Or.inr rfl⟩
        · refine ⟨place + 1, item, found, ?_⟩
          rwa [Nat.add_comm place, ← Nat.add_assoc]
      · rintro ⟨place, item, found, form⟩
        cases place with
        | zero =>
            cases found
            exact form.elim Or.inl fun slot => Or.inr (Or.inl slot)
        | succ place =>
            refine Or.inr (Or.inr ⟨place, item, found, ?_⟩)
            rwa [Nat.add_comm place, ← Nat.add_assoc] at form

/-- Blocks and slots of an index are apart from those of later ones. -/
theorem pairwise_fillLog (sizes : ∀ item ∈ items, item.length = size)
    (table : pointers + 8 * (1 + index + items.length) ≤ addresses) :
    (fillLog size pointers addresses index items).Pairwise Apart := by
  induction items generalizing index with
  | nil => exact .nil
  | cons first rest induction =>
      have sameSize := sizes first List.mem_cons_self
      have later : ∀ item ∈ rest, item.length = size :=
        fun item member => sizes item (List.mem_cons_of_mem _ member)
      rw [List.length_cons] at table
      have steps : ∀ place, addresses + index * size + size ≤
          addresses + (index + 1 + place) * size := by
        intro place
        rw [Nat.add_mul, Nat.add_mul, Nat.one_mul]
        omega
      refine List.pairwise_cons.mpr ⟨?_, List.pairwise_cons.mpr ⟨?_, ?_⟩⟩
      · intro write member
        rcases List.mem_cons.mp member with rfl | member
        · right
          simp only [Write.stop, length_wordBytes]
          omega
        · rcases mem_fillLog.mp member with ⟨place, item, found, rfl | rfl⟩
          · left
            simp only [Write.stop, sameSize]
            exact steps place
          · right
            have inside := (List.getElem?_eq_some_iff.mp found).1
            simp only [Write.stop, length_wordBytes]
            omega
      · intro write member
        rcases mem_fillLog.mp member with ⟨place, item, found, rfl | rfl⟩
        · left
          simp only [Write.stop, length_wordBytes]
          omega
        · left
          simp only [Write.stop, length_wordBytes]
          omega
      · exact induction later (by omega)

/-- The blocks of the addresses. -/
def blocksAt (size addresses count : Nat) : List Nat :=
  (List.range count).map fun index => addresses + index * size

@[simp]
theorem length_blocksAt (size addresses count : Nat) :
    (blocksAt size addresses count).length = count := by
  rw [blocksAt, List.length_map, List.length_range]

theorem getElem?_blocksAt {count place pointer : Nat}
    (found : (blocksAt size addresses count)[place]? = some pointer) :
    place < count ∧ pointer = addresses + place * size := by
  rcases List.getElem?_eq_some_iff.mp found with ⟨inside, same⟩
  rw [length_blocksAt] at inside
  refine ⟨inside, same.symm.trans ?_⟩
  simp only [blocksAt, List.getElem_map, List.getElem_range]

/-- The entry of these blocks. -/
def entryAt (family : Int) (size pointers addresses count : Nat) : Hostent where
  hName := addresses + count * size
  hAliases := pointers
  hAddrtype := family
  hLength := size
  hAddrList := pointers + 8

/-- All writes: the addresses and their pointers, the two ends, and the name. -/
def entryLog (size pointers addresses : Nat) (items : List Bytes) (host : Bytes) :
    List Write :=
  fillLog size pointers addresses 0 items ++
    [⟨pointers, wordBytes 0⟩, ⟨pointers + 8 * (1 + items.length), wordBytes 0⟩,
      ⟨addresses + items.length * size, host ++ [0]⟩]

section Layout

variable {host : Bytes} (sizes : ∀ item ∈ items, item.length = size)
  (table : addresses = pointers + 8 * (items.length + 2))

include sizes table

theorem pairwise_entryLog :
    (entryLog size pointers addresses items host).Pairwise Apart := by
  have filled : (fillLog size pointers addresses 0 items).Pairwise Apart :=
    pairwise_fillLog sizes (by omega)
  refine List.pairwise_append.mpr ⟨filled, ?_, ?_⟩
  · simp only [List.pairwise_cons, List.mem_cons, List.not_mem_nil, or_false,
      forall_eq_or_imp, forall_eq, Apart, Write.stop, length_wordBytes]
    refine ⟨⟨?_, ?_⟩, ?_, nofun, .nil⟩
    · omega
    · omega
    · omega
  · intro write inFill last member
    rcases mem_fillLog.mp inFill with ⟨place, item, found, rfl | rfl⟩
    · have sameSize := sizes item (List.mem_of_getElem? found)
      have inside := (List.getElem?_eq_some_iff.mp found).1
      have ends : (0 + place) * size + size ≤ items.length * size := by
        rw [Nat.zero_add, ← Nat.succ_mul]
        exact Nat.mul_le_mul_right size inside
      simp only [List.mem_cons, List.not_mem_nil, or_false] at member
      rcases member with rfl | rfl | rfl
      · right
        simp only [Write.stop, length_wordBytes]
        omega
      · right
        simp only [Write.stop, length_wordBytes]
        omega
      · left
        simp only [Write.stop, sameSize]
        omega
    · have inside := (List.getElem?_eq_some_iff.mp found).1
      simp only [List.mem_cons, List.not_mem_nil, or_false] at member
      rcases member with rfl | rfl | rfl
      · right
        simp only [Write.stop, length_wordBytes]
        omega
      · left
        simp only [Write.stop, length_wordBytes]
        omega
      · left
        simp only [Write.stop, length_wordBytes]
        omega

variable (memory : Memory)

/-- The address list points at the blocks of the addresses, one after the other. -/
theorem addrList_entryLog (room : addresses + items.length * size < 2 ^ 64) :
    PointersAt (run memory (entryLog size pointers addresses items host)) (pointers + 8)
      (blocksAt size addresses items.length) := by
  have apart : (entryLog size pointers addresses items host).Pairwise Apart :=
    pairwise_entryLog sizes table
  refine pointersAt_of_words _ ?_ ?_ ?_
  · intro pointer member
    rcases List.mem_map.mp member with ⟨index, -, rfl⟩
    omega
  · intro index pointer found
    rcases getElem?_blocksAt found with ⟨inside, rfl⟩
    have below : index * size ≤ items.length * size :=
      Nat.mul_le_mul_right size inside.le
    have slot : pointers + 8 + 8 * index = pointers + 8 * (1 + (0 + index)) := by omega
    rw [slot]
    refine wordAt_run apart (List.mem_append_left _ (mem_fillLog.mpr ?_)) (by omega)
    refine ⟨index, items[index], List.getElem?_eq_getElem inside, Or.inr ?_⟩
    rw [Nat.zero_add]
  · have slot : pointers + 8 + 8 * (blocksAt size addresses items.length).length =
        pointers + 8 * (1 + items.length) := by
      rw [length_blocksAt]
      omega
    rw [slot]
    refine wordAt_run apart (List.mem_append_right _ ?_) (by decide)
    exact List.mem_cons_of_mem _ List.mem_cons_self

theorem addresses_entryLog :
    (blocksAt size addresses items.length).map
        (fun block => contents (run memory (entryLog size pointers addresses items host))
          block size) = items := by
  have apart : (entryLog size pointers addresses items host).Pairwise Apart :=
    pairwise_entryLog sizes table
  apply List.ext_getElem
  · rw [List.length_map, length_blocksAt]
  · intro index bound inside
    simp only [blocksAt, List.getElem_map, List.getElem_range]
    have written : (⟨addresses + index * size, items[index]⟩ : Write) ∈
        entryLog size pointers addresses items host := by
      refine List.mem_append_left _ (mem_fillLog.mpr ?_)
      refine ⟨index, items[index], List.getElem?_eq_getElem inside, Or.inl ?_⟩
      rw [Nat.zero_add]
    have read := @contents_run memory _ apart _ written
    dsimp only at read
    rwa [sizes _ (List.getElem_mem inside)] at read

theorem name_entryLog :
    contents (run memory (entryLog size pointers addresses items host))
        (addresses + items.length * size) (host.length + 1) = host ++ [0] := by
  have apart : (entryLog size pointers addresses items host).Pairwise Apart :=
    pairwise_entryLog sizes table
  have written : (⟨addresses + items.length * size, host ++ [0]⟩ : Write) ∈
      entryLog size pointers addresses items host :=
    List.mem_append_right _
      (List.mem_cons_of_mem _ (List.mem_cons_of_mem _ List.mem_cons_self))
  have read := @contents_run memory _ apart _ written
  dsimp only at read
  rwa [List.length_append, List.length_singleton] at read

theorem noAliases_entryLog :
    PointersAt (run memory (entryLog size pointers addresses items host)) pointers [] := by
  have apart : (entryLog size pointers addresses items host).Pairwise Apart :=
    pairwise_entryLog sizes table
  exact .last (wordAt_run apart (List.mem_append_right _ List.mem_cons_self) (by decide))

end Layout

/-- Every write lies in a region. -/
theorem covered_entryLog {host : Bytes} (sizes : ∀ item ∈ items, item.length = size)
    (family : Int) {write : Write}
    (member : write ∈ entryLog size pointers addresses items host) :
    ∃ region ∈ regions (entryAt family size pointers addresses items.length)
        (blocksAt size addresses items.length) (host.length + 1),
      region.1 ≤ write.start ∧ write.stop ≤ region.1 + region.2 := by
  have slots : ∀ place word, place < items.length + 2 →
      ∃ region ∈ regions (entryAt family size pointers addresses items.length)
          (blocksAt size addresses items.length) (host.length + 1),
        region.1 ≤ pointers + 8 * place ∧
          Write.stop ⟨pointers + 8 * place, wordBytes word⟩ ≤ region.1 + region.2 := by
    intro place word inside
    refine ⟨_, List.mem_cons_self, ?_⟩
    simp only [entryAt, Write.stop, length_wordBytes, length_blocksAt]
    omega
  rcases List.mem_append.mp member with inFill | last
  · rcases mem_fillLog.mp inFill with ⟨place, item, found, rfl | rfl⟩
    · have inside := (List.getElem?_eq_some_iff.mp found).1
      refine ⟨(addresses + (0 + place) * size, size), ?_, Nat.le_refl _, ?_⟩
      · refine List.mem_cons_of_mem _ (List.mem_append_left _ (List.mem_map.mpr ?_))
        refine ⟨addresses + place * size, List.mem_map.mpr ?_, ?_⟩
        · exact ⟨place, List.mem_range.mpr inside, rfl⟩
        · rw [Nat.zero_add]
          rfl
      · simp only [Write.stop, sizes item (List.mem_of_getElem? found)]
        exact Nat.le_refl _
    · have inside := (List.getElem?_eq_some_iff.mp found).1
      exact slots _ _ (by omega)
  · simp only [List.mem_cons, List.not_mem_nil, or_false] at last
    rcases last with rfl | rfl | rfl
    · exact slots 0 0 (by omega)
    · exact slots _ 0 (by omega)
    · refine ⟨_, List.mem_cons_of_mem _ (List.mem_append_right _ List.mem_cons_self), ?_⟩
      simp only [entryAt, Write.stop, List.length_append, List.length_singleton]
      omega

/-- The regions follow each other. -/
theorem pairwise_regions (family : Int) (count nameSize : Nat)
    (table : addresses = pointers + 8 * (count + 2)) :
    (regions (entryAt family size pointers addresses count) (blocksAt size addresses count)
      nameSize).Pairwise fun first second => first.1 + first.2 ≤ second.1 := by
  have steps : ∀ {first second : Nat}, first < second →
      addresses + first * size + size ≤ addresses + second * size := by
    intro first second less
    have next := Nat.mul_le_mul_right size less
    rw [Nat.succ_mul] at next
    omega
  refine List.pairwise_cons.mpr ⟨?_, List.pairwise_append.mpr ⟨?_, ?_, ?_⟩⟩
  · intro region member
    rw [length_blocksAt]
    rcases List.mem_append.mp member with inBlocks | last
    · rcases List.mem_map.mp inBlocks with ⟨block, isBlock, rfl⟩
      rcases List.mem_map.mp isBlock with ⟨index, -, rfl⟩
      simp only [entryAt]
      omega
    · cases List.mem_singleton.mp last
      simp only [entryAt]
      omega
  · rw [List.pairwise_map, blocksAt, List.pairwise_map]
    exact List.pairwise_lt_range.imp fun less => steps less
  · exact List.pairwise_singleton _ _
  · intro region inBlocks name last
    rcases List.mem_map.mp inBlocks with ⟨block, isBlock, rfl⟩
    rcases List.mem_map.mp isBlock with ⟨index, inRange, rfl⟩
    cases List.mem_singleton.mp last
    exact steps (List.mem_range.mp inRange)

theorem inside_regions (family : Int) (count nameSize : Nat) {region : Nat × Nat}
    (table : addresses = pointers + 8 * (count + 2))
    (member : region ∈ regions (entryAt family size pointers addresses count)
      (blocksAt size addresses count) nameSize) :
    pointers ≤ region.1 ∧ region.1 + region.2 ≤ addresses + count * size + nameSize := by
  rcases List.mem_cons.mp member with rfl | later
  · rw [length_blocksAt]
    simp only [entryAt]
    omega
  · rcases List.mem_append.mp later with inBlocks | last
    · rcases List.mem_map.mp inBlocks with ⟨block, isBlock, rfl⟩
      rcases List.mem_map.mp isBlock with ⟨index, inRange, rfl⟩
      have next := Nat.mul_le_mul_right size (List.mem_range.mp inRange : index < count)
      rw [Nat.succ_mul] at next
      simp only [entryAt]
      omega
    · cases List.mem_singleton.mp last
      simp only [entryAt]
      omega

/-! ## The call -/

/-- The first address of the buffer that pointers can stand at. -/
def alignedStart (buffer : Nat) : Nat :=
  buffer + if buffer % 8 = 0 then 0 else 8 - buffer % 8

theorem alignedStart_spec (buffer : Nat) :
    buffer ≤ alignedStart buffer ∧ 8 ∣ alignedStart buffer ∧
      ∀ pointers, 8 ∣ pointers → buffer ≤ pointers → alignedStart buffer ≤ pointers := by
  unfold alignedStart
  refine ⟨Nat.le_add_right _ _, ?_, fun pointers aligned above => ?_⟩
  · split
    · omega
    · omega
  · split
    · omega
    · omega

theorem HostentCall.fits_iff (call : HostentCall) :
    call.Fits ↔
      alignedStart call.buffer + call.need ≤ call.buffer + call.bufferSize := by
  rcases alignedStart_spec call.buffer with ⟨above, aligned, least⟩
  constructor
  · rintro ⟨pointers, multiple, start, ends⟩
    have first := least pointers multiple start
    omega
  · exact fun ends => ⟨_, aligned, above, ends⟩

/-- The sizes do not wrap: a node takes more memory than what the entry says of it. -/
theorem HostentCall.need_lt (call : HostentCall) (some : call.addresses ≠ []) :
    call.need < 2 ^ 64 := by
  have counted : call.addresses.length ≤ call.list.length := by
    rw [HostentCall.addresses, ← countP_counted]
    exact List.countP_le_length
  have positive : 0 < call.addresses.length := List.length_pos_iff.mpr some
  have inMemory := call.inMemory
  have size : call.addresses.length * addressSize call.family ≤
      call.addresses.length * 16 := by
    refine Nat.mul_le_mul_left _ ?_
    unfold addressSize
    split
    · exact Nat.le_refl _
    · decide
  unfold HostentCall.need HostentCall.hostName
  omega

/-- The entry of a call and where its parts are. -/
def HostentCall.entry (call : HostentCall) : Hostent :=
  entryAt call.family (addressSize call.family) (alignedStart call.buffer)
    (alignedStart call.buffer + 8 * (call.addresses.length + 2)) call.addresses.length

def HostentCall.blocks (call : HostentCall) : List Nat :=
  blocksAt (addressSize call.family)
    (alignedStart call.buffer + 8 * (call.addresses.length + 2)) call.addresses.length

/-- The writes of a call. -/
def HostentCall.log (call : HostentCall) : List Write :=
  entryLog (addressSize call.family) (alignedStart call.buffer)
    (alignedStart call.buffer + 8 * (call.addresses.length + 2)) call.addresses
    call.hostName

/-- `chaos_dns_fill_hostent` with the arguments of a call. -/
def HostentCall.fill (call : HostentCall) (memory : Memory) :
    Except Nat (Hostent × Memory) :=
  chaosDnsFillHostent call.name call.family call.list call.buffer call.bufferSize memory

/-- The test of the size refuses what does not fit. -/
theorem HostentCall.refused_iff (call : HostentCall) :
    call.bufferSize < (if call.buffer % 8 = 0 then 0 else 8 - call.buffer % 8) ∨
        call.bufferSize - (if call.buffer % 8 = 0 then 0 else 8 - call.buffer % 8) <
          call.need ↔
      ¬ call.Fits := by
  rw [call.fits_iff, alignedStart]
  generalize (if call.buffer % 8 = 0 then 0 else 8 - call.buffer % 8) = offset
  have some : 0 < call.need := Nat.succ_pos _
  omega

open Classical in
theorem HostentCall.fill_eq (call : HostentCall) (memory : Memory) :
    call.fill memory =
      if call.addresses = [] then .error enoent
      else if call.Fits then .ok (call.entry, run memory call.log)
      else .error erange := by
  have count : call.list.countP (counted call.family) = call.addresses.length :=
    countP_counted call.family call.list
  rw [HostentCall.fill, chaosDnsFillHostent, count]
  by_cases none : call.addresses = []
  · rw [if_pos none]
    exact if_pos (List.length_eq_zero_iff.mpr none)
  · have positive : call.addresses.length ≠ 0 := fun zero =>
      none (List.length_eq_zero_iff.mp zero)
    have small := call.need_lt none
    have table : (call.addresses.length + 2) * 8 % 2 ^ 64 =
        8 * (call.addresses.length + 2) := by
      unfold HostentCall.need at small
      rw [Nat.mul_comm]
      exact Nat.mod_eq_of_lt (by omega)
    have total : (8 * (call.addresses.length + 2) +
        call.addresses.length * addressSize call.family +
          ((HostEntry.hostName call.name call.list).length + 1)) % 2 ^ 64 = call.need :=
      Nat.mod_eq_of_lt small
    rw [if_neg none]
    dsimp only
    rw [if_neg positive, table, total]
    by_cases fits : call.Fits
    · rw [if_pos fits, if_neg fun refused => call.refused_iff.mp refused fits,
        fillAddresses_eq, HostentCall.log, entryLog, run_append]
      rfl
    · rw [if_neg fits, if_pos (call.refused_iff.mpr fits)]

theorem HostentCall.laid (call : HostentCall) (memory : Memory) (fits : call.Fits) :
    Laid call memory (run memory call.log) call.entry call.blocks := by
  have sizes := length_of_mem_addresses call
  have ends := call.fits_iff.mp fits
  rcases alignedStart_spec call.buffer with ⟨above, aligned, -⟩
  have space := call.inSpace
  unfold HostentCall.need at ends
  have inside : ∀ region ∈ regions call.entry call.blocks (call.hostName.length + 1),
      alignedStart call.buffer ≤ region.1 ∧ region.1 + region.2 ≤
        alignedStart call.buffer + 8 * (call.addresses.length + 2) +
          call.addresses.length * addressSize call.family + (call.hostName.length + 1) :=
    fun region member => inside_regions call.family _ _ rfl member
  exact
    { addrtype := rfl
      length := rfl
      aligned := aligned
      table := rfl
      noAliases := noAliases_entryLog sizes rfl memory
      addrList := addrList_entryLog sizes rfl memory (by omega)
      addresses := addresses_entryLog sizes rfl memory
      name := name_entryLog sizes rfl memory
      inside := fun region member => by
        have bounds := inside region member
        omega
      apart := pairwise_regions call.family _ _ rfl
      frame := fun address outside => by
        apply run_outside
        intro write member
        rcases covered_entryLog sizes call.family member with
          ⟨region, isRegion, least, most⟩
        have sides := outside region isRegion
        omega }

/--
For every list, family, name and buffer: `ENOENT` exactly when the list has no address of
the family; else `ERANGE` exactly when pointers, addresses and name do not fit; and else an
entry that points into the buffer and says what the list and the name do.
-/
theorem fillHostent_exact (call : HostentCall) (memory : Memory) :
    (call.fill memory = .error enoent ↔ call.addresses = []) ∧
      (call.fill memory = .error erange ↔ call.addresses ≠ [] ∧ ¬ call.Fits) ∧
        (call.addresses ≠ [] → call.Fits →
          ∃ entry after blocks, call.fill memory = .ok (entry, after) ∧
            Laid call memory after entry blocks) := by
  have differ : (Except.error enoent : Except Nat (Hostent × Memory)) ≠ .error erange := by
    intro same
    cases same
  rw [call.fill_eq memory]
  by_cases none : call.addresses = []
  · rw [if_pos none]
    refine ⟨⟨fun _ => none, fun _ => rfl⟩, ⟨fun same => absurd same differ, ?_⟩, ?_⟩
    · exact fun both => absurd none both.1
    · exact fun some => absurd none some
  · rw [if_neg none]
    by_cases fits : call.Fits
    · rw [if_pos fits]
      refine ⟨⟨nofun, fun empty => absurd empty none⟩, ⟨nofun, ?_⟩, fun _ _ => ?_⟩
      · exact fun both => absurd fits both.2
      · exact ⟨_, _, call.blocks, rfl, call.laid memory fits⟩
    · rw [if_neg fits]
      refine ⟨⟨fun same => absurd same.symm differ, fun empty => absurd empty none⟩,
        ⟨fun _ => ⟨none, fits⟩, fun _ => rfl⟩, fun _ enough => absurd enough fits⟩

/-- A buffer that starts one byte behind an aligned address: 37 bytes are enough. -/
example :
    [37, 36].map (fun bufferSize =>
      match chaosDnsFillHostent (bytes "h") afInet
          [⟨0, afInet, 1, 6, some ([2, 0, 0, 80, 127, 0, 0, 1] ++ List.replicate 8 0), none⟩]
          1 bufferSize fun _ => 255 with
      | .error _ => []
      | .ok (entry, after) =>
          wordAt after entry.hAddrList :: (contents after 32 6).map UInt8.toNat) =
      [[32, 127, 0, 0, 1, 104, 0], []] := by
  decide +kernel

end ChaosLibs.Dns.HostEntry
