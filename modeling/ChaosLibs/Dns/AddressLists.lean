import ChaosLibs.Dns.ConfigParser
import ChaosLibs.Dns.OwnedRegistry
import ChaosLibs.Machine.LinkedCells
import Mathlib.Data.List.FinRange

/-!
# Address lists in memory

The nodes of address lists, the table of `chaos_dns_owned.c`, and who releases what.
A node is released once: releasing one that is not live, or handing a node of a block
to the real `freeaddrinfo`, has no result (`none`), and so has reading such a node.
-/

namespace ChaosLibs.Dns.AddressLists

open ChaosLibs.Common.CString
open ChaosLibs.Dns.OwnedRegistry
open ChaosLibs.Machine

/-! ## The memory -/

/-- `struct addrinfo` without `ai_next`; `addr` is the `addrlen` bytes at `ai_addr`. -/
structure AddrInfo where
  flags : UInt32
  family : Int
  socktype : Int
  protocol : Int
  addr : Option Bytes
  canonname : Option Bytes
deriving DecidableEq, Repr

/-- The live nodes, and `g_chaos_dns_owned`. -/
@[ext]
structure Memory where
  nodes : Cells AddrInfo
  owned : Fin chaosDnsMaxOwned → Option Block

/-- The hints of a lookup. -/
structure Hints where
  flags : UInt32
  family : Int
  socktype : Int
  protocol : Int
deriving DecidableEq, Repr

/-- A list with a name on its first node. -/
def withName (name : Option Bytes) :
    List (Nat × AddrInfo) → List (Nat × AddrInfo)
  | [] => []
  | (address, info) :: rest => (address, { info with canonname := name }) :: rest

/--
What the library takes from the C library: the real `getaddrinfo`, with the addresses
of the nodes it allocates, and `malloc` of a block, with the address of its first node.
-/
structure Libc where
  getaddrinfo :
    Memory → Option Bytes → Option Bytes → Option Hints →
      Except Int (List (Nat × AddrInfo))
  malloc : Memory → (count nameSize : Nat) → Option Nat
  /-- The nodes of an answer are new. -/
  answer_fresh : ∀ {memory node service hints nodes},
    getaddrinfo memory node service hints = .ok nodes →
      (addresses nodes).Nodup ∧ ∀ address ∈ addresses nodes,
        memory.nodes address = none
  /-- The canonical name is on the first node at most. -/
  answer_named : ∀ {memory node service hints nodes},
    getaddrinfo memory node service hints = .ok nodes →
      ∀ entry ∈ nodes.tail, entry.2.canonname = none
  /-- The nodes of a block are new. -/
  malloc_fresh : ∀ {memory count nameSize first},
    malloc memory count nameSize = some first →
      ∀ address, first ≤ address → address < first + count →
        memory.nodes address = none

/-! ## The table -/

/-- `chaos_dns_owned_find`. -/
def chaosDnsOwnedFind (memory : Memory) : Option Nat → Option (Fin chaosDnsMaxOwned)
  | none => none
  | some node =>
      (List.finRange chaosDnsMaxOwned).find? fun index =>
        (Call.contains node).stopsAt (memory.owned index)

/-- `chaos_dns_owned_contains`. -/
def chaosDnsOwnedContains (memory : Memory) (node : Option Nat) : Bool :=
  (chaosDnsOwnedFind memory node).isSome

/-- The addresses of the nodes of a block. -/
def blockAddresses (block : Block) : List Nat :=
  List.range' block.first block.count

/-- `free` of a block. -/
def freeBlock (memory : Memory) (block : Block) : Option Memory :=
  if (blockAddresses block).all fun address => (memory.nodes address).isSome then
    some { memory with nodes := clear (blockAddresses block) memory.nodes }
  else none

/-- `chaos_dns_owned_free`: whether the node was of a block. -/
def chaosDnsOwnedFree (memory : Memory) (node : Option Nat) : Option (Memory × Bool) :=
  match chaosDnsOwnedFind memory node with
  | none => some (memory, false)
  | some index =>
      match memory.owned index with
      | none => some (memory, false)
      | some block =>
          (freeBlock
            { memory with owned := Function.update memory.owned index none }
            block).map fun after => (after, true)

/-- The real `freeaddrinfo`, which walks `ai_next`. -/
def realFreeaddrinfo : Nat → Memory → Option Nat → Option Memory
  | _, memory, none => some memory
  | 0, _, some _ => none
  | fuel + 1, memory, some address =>
      if chaosDnsOwnedContains memory (some address) then none
      else
        match memory.nodes address with
        | none => none
        | some cell =>
            realFreeaddrinfo fuel
              { memory with nodes := Function.update memory.nodes address none }
              cell.next

/-- `freeaddrinfo`, the wrapper. -/
def freeaddrinfo (fuel : Nat) (memory : Memory) (result : Option Nat) :
    Option Memory :=
  (chaosDnsOwnedFree memory result).bind fun (after, owned) =>
    if owned then some after else realFreeaddrinfo fuel after result

/-- The nodes of a list, in the order of `ai_next`. -/
def readList : Nat → Memory → Option Nat → Option (List AddrInfo)
  | _, _, none => some []
  | 0, _, some _ => none
  | fuel + 1, memory, some address =>
      match memory.nodes address with
      | none => none
      | some cell =>
          (readList fuel memory cell.next).map fun rest => cell.content :: rest

/-- `sizeof(struct sockaddr_storage)`. -/
def sockaddrStorageSize : Nat := 128

/-- The copy of a node in a block. -/
def ownedInfo (info : AddrInfo) : AddrInfo :=
  { info with
    addr := info.addr.map fun addr => addr.take sockaddrStorageSize
    canonname := none }

/-- The nodes of a block at `first`, with the name on the first. -/
def blockNodes (first : Nat) (infos : List AddrInfo) (canonname : Option Bytes) :
    List (Nat × AddrInfo) :=
  withName canonname ((List.range' first infos.length).zip (infos.map ownedInfo))

/-- `chaos_dns_owned_copy`: the head of the copy, or `none` for `NULL`. -/
def chaosDnsOwnedCopy
    (libc : Libc) (fuel : Nat) (memory : Memory) (lists : List (Option Nat))
    (canonname : Option Bytes) : Option (Memory × Option Nat) :=
  (lists.mapM (readList fuel memory)).bind fun read =>
    let infos := read.flatten
    if infos = [] then some (memory, none)
    else
      match libc.malloc memory infos.length
          (canonname.elim 0 fun name => name.length + 1) with
      | none => some (memory, none)
      | some first =>
          let filled :=
            { memory with
              nodes := link none (blockNodes first infos canonname) memory.nodes }
          match (List.finRange chaosDnsMaxOwned).find? fun index =>
              (memory.owned index).isNone with
          | none =>
              (freeBlock filled ⟨first, infos.length⟩).map fun after => (after, none)
          | some index =>
              some
                ({ filled with
                    owned :=
                      Function.update memory.owned index
                        (some ⟨first, infos.length⟩) },
                  some first)

end ChaosLibs.Dns.AddressLists
