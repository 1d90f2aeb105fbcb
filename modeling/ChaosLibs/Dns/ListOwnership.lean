import ChaosLibs.Dns.AddressLists

/-!
# Who owns an address list

A list that a lookup holds, with the memory as it was before the lookup: the list is
a real one, whose nodes are all that the memory has in addition, or one of a block,
which is in the table and is all that the memory has in addition.  Releasing such a
list gives the earlier memory back.
-/

namespace ChaosLibs.Dns.ListOwnership

open ChaosLibs.Common.CString
open ChaosLibs.Dns.AddressLists
open ChaosLibs.Dns.OwnedRegistry
open ChaosLibs.Machine

/-- The blocks of the table are live. -/
def Coherent (memory : Memory) : Prop :=
  ∀ index block, memory.owned index = some block →
    ∀ address ∈ blockAddresses block, memory.nodes address ≠ none

/-- What is allocated for a list: its nodes, or the block they are of. -/
def extent (block : Option Block) (nodes : List (Nat × AddrInfo)) : List Nat :=
  match block with
  | none => addresses nodes
  | some block => blockAddresses block

/-- The table with the block of a list, if it has one. -/
def Registered (before after : Fin chaosDnsMaxOwned → Option Block) :
    Option Block → Prop
  | none => after = before
  | some block =>
      ∃ index, before index = none ∧
        after = Function.update before index (some block)

/-- A lookup that began in `base` holds a list. -/
structure Owning (base memory : Memory) (block : Option Block) (head : Option Nat)
    (name : Option Bytes) (nodes : List (Nat × AddrInfo)) : Prop where
  linked : Segment memory.nodes head (withName name nodes) none
  distinct : (addresses nodes).Nodup
  /-- The name is on the first node only. -/
  bare : ∀ node ∈ nodes, node.2.canonname = none
  inside : ∀ address ∈ addresses nodes, address ∈ extent block nodes
  frame : ∀ address ∉ extent block nodes, memory.nodes address = base.nodes address
  fresh : ∀ address ∈ extent block nodes, base.nodes address = none
  live : ∀ address ∈ extent block nodes, memory.nodes address ≠ none
  registered : Registered base.owned memory.owned block

variable {base memory : Memory} {block : Option Block} {held : Block}
  {head : Option Nat} {name : Option Bytes} {nodes : List (Nat × AddrInfo)}
  {address : Nat}

@[simp]
theorem addresses_withName (name : Option Bytes) (nodes : List (Nat × AddrInfo)) :
    addresses (withName name nodes) = addresses nodes := by
  cases nodes with
  | nil => rfl
  | cons node rest => rfl

theorem withName_none_of_bare (bare : ∀ node ∈ nodes, node.2.canonname = none) :
    withName none nodes = nodes := by
  cases nodes with
  | nil => rfl
  | cons node rest =>
      have here := bare node List.mem_cons_self
      rcases node with ⟨place, info⟩
      simp only [withName, ← here]

theorem mem_blockAddresses :
    address ∈ blockAddresses held ↔
      held.first ≤ address ∧ address < held.first + held.count :=
  List.mem_range'_1

/-! ## The table -/

theorem stopsAt_contains {entry : Option Block} :
    (Call.contains address).stopsAt entry = true ↔
      ∃ block, entry = some block ∧ address ∈ blockAddresses block := by
  cases entry with
  | none => simp [Call.stopsAt]
  | some block => simp [Call.stopsAt, mem_blockAddresses]

theorem chaosDnsOwnedFind_eq_none
    (outside : ∀ index block, memory.owned index = some block →
      address ∉ blockAddresses block) :
    chaosDnsOwnedFind memory (some address) = none := by
  refine List.find?_eq_none.mpr fun index _ stops => ?_
  rcases stopsAt_contains.mp stops with ⟨block, entry, inside⟩
  exact outside index block entry inside

theorem chaosDnsOwnedFind_eq_some
    {index : Fin chaosDnsMaxOwned} (entry : memory.owned index = some held)
    (inside : address ∈ blockAddresses held)
    (only : ∀ other block, memory.owned other = some block →
      address ∈ blockAddresses block → other = index) :
    chaosDnsOwnedFind memory (some address) = some index := by
  have stops : (Call.contains address).stopsAt (memory.owned index) = true :=
    stopsAt_contains.mpr ⟨held, entry, inside⟩
  dsimp only [chaosDnsOwnedFind]
  cases found : (List.finRange chaosDnsMaxOwned).find? fun index =>
      (Call.contains address).stopsAt (memory.owned index) with
  | none =>
      exact absurd stops (List.find?_eq_none.mp found index (List.mem_finRange index))
  | some other =>
      have stopsThere : (Call.contains address).stopsAt (memory.owned other) = true :=
        @List.find?_some _ _ other _ found
      rcases stopsAt_contains.mp stopsThere with ⟨block, there, insideOther⟩
      rw [only other block there insideOther]

/-- A node of the list is of its block, if it has one, and of no other. -/
theorem Owning.find
    (owning : Owning base memory block head name nodes) (coherent : Coherent base)
    (member : address ∈ extent block nodes) :
    match block with
    | none => chaosDnsOwnedFind memory (some address) = none
    | some held =>
        ∃ index, chaosDnsOwnedFind memory (some address) = some index ∧
          memory.owned index = some held ∧
            Function.update memory.owned index none = base.owned := by
  have absent := owning.fresh address member
  have others : ∀ index block, base.owned index = some block →
      address ∉ blockAddresses block := fun index block entry inside =>
    coherent index block entry address inside absent
  cases block with
  | none =>
      have same : memory.owned = base.owned := owning.registered
      exact chaosDnsOwnedFind_eq_none (by rw [same]; exact others)
  | some held =>
      rcases owning.registered with ⟨index, free, same⟩
      have entry : memory.owned index = some held := by
        rw [same, Function.update_self]
      refine ⟨index, chaosDnsOwnedFind_eq_some entry member ?_, entry, ?_⟩
      · intro other block there inside
        by_contra different
        rw [same, Function.update_of_ne different] at there
        exact others other block there inside
      · rw [same, Function.update_idem, ← free, Function.update_eq_self]

theorem Owning.contains
    (owning : Owning base memory block head name nodes) (coherent : Coherent base)
    (member : address ∈ extent block nodes) :
    chaosDnsOwnedContains memory (some address) = block.isSome := by
  have found := owning.find coherent member
  cases block with
  | none => exact congrArg Option.isSome found
  | some held =>
      rcases found with ⟨index, found, -⟩
      exact congrArg Option.isSome found

/-- The blocks of the table are live with the list, too. -/
theorem Owning.coherent
    (owning : Owning base memory block head name nodes) (coherent : Coherent base) :
    Coherent memory := by
  have kept : ∀ index held, base.owned index = some held →
      ∀ address ∈ blockAddresses held, memory.nodes address ≠ none := by
    intro index held entry address member
    have live := coherent index held entry address member
    rw [owning.frame address fun inside => live (owning.fresh address inside)]
    exact live
  cases block with
  | none =>
      have same : memory.owned = base.owned := owning.registered
      intro index held entry
      rw [same] at entry
      exact kept index held entry
  | some own =>
      rcases owning.registered with ⟨place, free, same⟩
      intro index held entry
      rw [same] at entry
      by_cases here : index = place
      · rw [here, Function.update_self] at entry
        cases entry
        exact owning.live
      · rw [Function.update_of_ne here] at entry
        exact kept index held entry

/-! ## Releasing -/

/-- The real `freeaddrinfo` releases the nodes it walks over. -/
theorem realFreeaddrinfo_segment
    {listed : List (Nat × AddrInfo)} {fuel : Nat}
    (segment : Segment memory.nodes head listed none)
    (distinct : (addresses listed).Nodup)
    (real : ∀ address ∈ addresses listed,
      chaosDnsOwnedContains memory (some address) = false)
    (enough : listed.length ≤ fuel) :
    realFreeaddrinfo fuel memory head =
      some { memory with nodes := clear (addresses listed) memory.nodes } := by
  induction listed generalizing memory head fuel with
  | nil =>
      cases segment
      rw [addresses_nil, clear_nil]
      cases fuel <;> rfl
  | cons node rest induction =>
      rcases segment with ⟨rfl, next, cell, later⟩
      rcases List.nodup_cons.mp distinct with ⟨outside, distinctRest⟩
      cases fuel with
      | zero => cases enough
      | succ fuel =>
          have unowned := real node.1 List.mem_cons_self
          have tailFreed := @induction
            { memory with nodes := Function.update memory.nodes node.1 none }
            next fuel (later.update_of_not_mem outside none) distinctRest
            (fun address member => real address (List.mem_cons_of_mem _ member))
            (Nat.le_of_succ_le_succ enough)
          have released : realFreeaddrinfo (fuel + 1) memory (some node.1) =
              realFreeaddrinfo fuel
                { memory with nodes := Function.update memory.nodes node.1 none }
                next := by
            dsimp only [realFreeaddrinfo]
            rw [unowned, cell, if_neg Bool.false_ne_true]
          rw [released, tailFreed, clear_update]
          rfl

/-- A list without nodes leaves the memory as it was. -/
theorem Owning.eq_of_nil (owning : Owning base memory none head name []) :
    memory = base :=
  Memory.ext (funext fun address => owning.frame address List.not_mem_nil)
    owning.registered

/-- The real `freeaddrinfo` of a real list gives the earlier memory back. -/
theorem Owning.realFreeaddrinfo
    (owning : Owning base memory none head name nodes) (coherent : Coherent base)
    {fuel : Nat} (enough : nodes.length ≤ fuel) :
    AddressLists.realFreeaddrinfo fuel memory head = some base := by
  have sameLength : (withName name nodes).length = nodes.length := by
    cases nodes with
    | nil => rfl
    | cons node rest => rfl
  rw [realFreeaddrinfo_segment owning.linked
    (by rw [addresses_withName]; exact owning.distinct)
    (fun address member => owning.contains coherent
      (by rwa [addresses_withName] at member))
    (sameLength.trans_le enough)]
  rw [addresses_withName]
  refine congrArg some (Memory.ext (funext fun address => ?_) owning.registered)
  by_cases member : address ∈ addresses nodes
  · exact (clear_of_mem _ member).trans (owning.fresh address member).symm
  · exact (clear_of_not_mem _ member).trans (owning.frame address member)

/-- `chaos_dns_owned_free` of any node of a block gives the earlier memory back. -/
theorem Owning.chaosDnsOwnedFree
    (owning : Owning base memory (some held) head name nodes)
    (coherent : Coherent base) (member : address ∈ blockAddresses held) :
    AddressLists.chaosDnsOwnedFree memory (some address) = some (base, true) := by
  have found : ∃ index, chaosDnsOwnedFind memory (some address) = some index ∧
      memory.owned index = some held ∧
        Function.update memory.owned index none = base.owned :=
    owning.find coherent member
  rcases found with ⟨index, found, entry, cleared⟩
  have live : ((blockAddresses held).all fun address =>
      (memory.nodes address).isSome) = true :=
    List.all_eq_true.mpr fun address inside =>
      Option.isSome_iff_ne_none.mpr (owning.live address inside)
  have freed : freeBlock { memory with owned := base.owned } held = some base := by
    refine (if_pos live).trans (congrArg some (Memory.ext (funext fun address => ?_) rfl))
    by_cases inside : address ∈ blockAddresses held
    · exact (clear_of_mem _ inside).trans (owning.fresh address inside).symm
    · exact (clear_of_not_mem _ inside).trans (owning.frame address inside)
  dsimp only [AddressLists.chaosDnsOwnedFree]
  rw [found]
  dsimp only
  rw [entry]
  dsimp only
  rw [cleared, freed]
  rfl

/--
`freeaddrinfo` of any node of a list of a block, or of the head of a real list, gives
the memory back as it was before the lookup.
-/
theorem Owning.freeaddrinfo
    (owning : Owning base memory block head name nodes) (coherent : Coherent base)
    (member : address ∈ addresses nodes)
    (first : block = none → head = some address)
    {fuel : Nat} (enough : nodes.length ≤ fuel) :
    AddressLists.freeaddrinfo fuel memory (some address) = some base := by
  cases block with
  | some held =>
      dsimp only [AddressLists.freeaddrinfo]
      rw [owning.chaosDnsOwnedFree coherent (owning.inside address member)]
      rfl
  | none =>
      have found : chaosDnsOwnedFind memory (some address) = none :=
        owning.find coherent member
      have notOwned : AddressLists.chaosDnsOwnedFree memory (some address) =
          some (memory, false) := by
        dsimp only [AddressLists.chaosDnsOwnedFree]
        rw [found]
      dsimp only [AddressLists.freeaddrinfo]
      rw [notOwned, Option.bind_some, if_neg Bool.false_ne_true, ← first rfl]
      exact owning.realFreeaddrinfo coherent enough

end ChaosLibs.Dns.ListOwnership
