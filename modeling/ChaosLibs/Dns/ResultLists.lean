import ChaosLibs.Dns.ListOwnership
import Mathlib.Data.List.Perm.Basic

/-!
# Transforms of a result list

`chaos_dns_filter_result_list`, `chaos_dns_limit_result_list` and
`chaos_dns_shuffle_result_list`, as the loops over `ai_next` that they are, and what
each does to a list that a lookup owns.
-/

namespace ChaosLibs.Dns.ResultLists

open ChaosLibs.Common.CString
open ChaosLibs.Dns.AddressLists
open ChaosLibs.Dns.ConfigParser
open ChaosLibs.Dns.ListOwnership
open ChaosLibs.Dns.OwnedRegistry
open ChaosLibs.Machine

/-! ## Stores -/

/-- A store into `ai_next`. -/
def setNext (memory : Memory) (address : Nat) (next : Option Nat) : Option Memory :=
  (memory.nodes address).map fun cell =>
    { memory with
      nodes :=
        Function.update memory.nodes address (some { cell with next := next }) }

/-- A store into `ai_canonname`. -/
def setCanonname (memory : Memory) (address : Nat) (canonname : Option Bytes) :
    Option Memory :=
  (memory.nodes address).map fun cell =>
    { memory with
      nodes :=
        Function.update memory.nodes address
          (some
            { cell with content := { cell.content with canonname := canonname } }) }

/-- `chaos_dns_call_real_freeaddrinfo` of the actions: a node of a block stays. -/
def chaosDnsCallRealFreeaddrinfo (fuel : Nat) (memory : Memory)
    (result : Option Nat) : Option Memory :=
  if result = none ∨ chaosDnsOwnedContains memory result then some memory
  else realFreeaddrinfo fuel memory result

/-! ## FILTER_FAMILY -/

/-- The name of a node that is dropped goes to the next one, when that has none. -/
def handOnName (memory : Memory) (current : Nat) (cell : Cell AddrInfo) :
    Option Memory :=
  match cell.content.canonname, cell.next with
  | some name, some next =>
      match memory.nodes next with
      | none => none
      | some nextCell =>
          if nextCell.content.canonname = none then
            (setCanonname memory next (some name)).bind fun named =>
              setCanonname named current none
          else some memory
  | _, _ => some memory

/-- The nodes after a dropped one follow the ones before it, or are the result. -/
def unlink (memory : Memory) (result previous next : Option Nat) :
    Option (Memory × Option Nat) :=
  match previous with
  | none => some (memory, next)
  | some before => (setNext memory before next).map fun after => (after, result)

/-- A node of the other family is unlinked, isolated and released. -/
def dropNode (fuel : Nat) (memory : Memory) (result previous : Option Nat)
    (current : Nat) (cell : Cell AddrInfo) : Option (Memory × Option Nat) :=
  (handOnName memory current cell).bind fun named =>
    (unlink named result previous cell.next).bind fun (unlinked, newResult) =>
      (setNext unlinked current none).bind fun isolated =>
        (chaosDnsCallRealFreeaddrinfo fuel isolated (some current)).map
          fun released => (released, newResult)

/-- The loop of `chaos_dns_filter_result_list`. -/
def filterLoop (wanted : Int) :
    Nat → Memory → (result previous current : Option Nat) →
      Option (Memory × Option Nat)
  | _, memory, result, _, none => some (memory, result)
  | 0, _, _, _, some _ => none
  | fuel + 1, memory, result, previous, some current =>
      match memory.nodes current with
      | none => none
      | some cell =>
          if cell.content.family ≠ wanted then
            (dropNode (fuel + 1) memory result previous current cell).bind
              fun (released, newResult) =>
                filterLoop wanted fuel released newResult previous cell.next
          else filterLoop wanted fuel memory result (some current) cell.next

/-- The family that a filter keeps; `any` keeps what it gets. -/
def wantedFamily : ChaosDnsFamilyFilter → Int
  | .inet4 => afInet
  | .any | .inet6 => afInet6

/-- `chaos_dns_filter_result_list`: the list, and whether something is left of it. -/
def chaosDnsFilterResultList (fuel : Nat) (memory : Memory) (result : Option Nat)
    (family : ChaosDnsFamilyFilter) : Option (Memory × Option Nat × Bool) :=
  if result = none ∨ family = .any then some (memory, result, false)
  else
    (filterLoop (wantedFamily family) fuel memory result none result).map
      fun (after, left) => (after, left, left.isSome)

/-! ## LIMIT -/

/-- The loop of `chaos_dns_limit_result_list`. -/
def limitLoop (limit : Nat) :
    Nat → Memory → (current : Option Nat) → (count : Nat) → Option Memory
  | _, memory, none, _ => some memory
  | 0, _, some _, _ => none
  | fuel + 1, memory, some current, count =>
      match memory.nodes current with
      | none => none
      | some cell =>
          if count + 1 = limit then
            (setNext memory current none).bind fun cut =>
              chaosDnsCallRealFreeaddrinfo fuel cut cell.next
          else limitLoop limit fuel memory cell.next (count + 1)

/-- `chaos_dns_limit_result_list`. -/
def chaosDnsLimitResultList (fuel : Nat) (memory : Memory) (result : Option Nat)
    (limit : Nat) : Option (Memory × Option Nat) :=
  if result = none then some (memory, none)
  else if limit = 0 then
    (chaosDnsCallRealFreeaddrinfo fuel memory result).map fun after => (after, none)
  else (limitLoop limit fuel memory result 0).map fun after => (after, result)

/-! ## SHUFFLE -/

/-- `chaos_dns_result_count`. -/
def chaosDnsResultCount : Nat → Memory → Option Nat → Option Nat
  | _, _, none => some 0
  | 0, _, some _ => none
  | fuel + 1, memory, some address =>
      match memory.nodes address with
      | none => none
      | some cell => (chaosDnsResultCount fuel memory cell.next).map (· + 1)

/-- The addresses of the first `count` nodes. -/
def collect (memory : Memory) : (count : Nat) → Option Nat → Option (List Nat)
  | 0, _ => some []
  | _ + 1, none => none
  | count + 1, some address =>
      match memory.nodes address with
      | none => none
      | some cell =>
          (collect memory count cell.next).map fun rest => address :: rest

/--
The descending sweep, from `index` down; `draws index` is the sample that is taken
there.  No list is so long that the divisor is 0.
-/
def sweep (draws : Nat → UInt32) : Nat → Array Nat → Array Nat
  | 0, nodes => nodes
  | index + 1, nodes =>
      sweep draws index
        (nodes.swapIfInBounds (index + 1)
          ((draws (index + 1)).toNat % ((index + 2) % 2 ^ 32)))

/-- The name of the old head is swapped with the one of the new head. -/
def swapNames (memory : Memory) (head first : Nat) : Option Memory :=
  (memory.nodes head).bind fun headCell =>
    (memory.nodes first).bind fun firstCell =>
      (setCanonname memory head firstCell.content.canonname).bind fun after =>
        setCanonname after first headCell.content.canonname

/-- The nodes are linked in the order of the array. -/
def relink : List Nat → Memory → Option Memory
  | [], memory => some memory
  | [last], memory => setNext memory last none
  | address :: next :: rest, memory =>
      (setNext memory address (some next)).bind (relink (next :: rest))

/-- `chaos_dns_shuffle_result_list`; `room` is whether `calloc` gives the array. -/
def chaosDnsShuffleResultList (fuel : Nat) (room : Bool) (draws : Nat → UInt32)
    (memory : Memory) (result : Option Nat) : Option (Memory × Option Nat) :=
  match result with
  | none => some (memory, none)
  | some head =>
      (chaosDnsResultCount fuel memory (some head)).bind fun count =>
        if count < 2 ∨ room = false then some (memory, some head)
        else
          (collect memory count (some head)).bind fun found =>
            match (sweep draws (count - 1) found.toArray).toList with
            | [] => none
            | first :: rest =>
                (swapNames memory head first).bind fun named =>
                  (relink (first :: rest) named).map fun after =>
                    (after, some first)

end ChaosLibs.Dns.ResultLists
