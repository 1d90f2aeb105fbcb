import ChaosLibs.Dns.Override
import ChaosLibs.Dns.TransformOwnership

/-!
# A lookup and its list

`chaos_dns_resolve_with_rules` for any rules that fire: what it returns, what it leaves
in memory, and that the application's `freeaddrinfo` leaves nothing.
-/

namespace ChaosLibs.Dns.Resolve

open ChaosLibs.Common.CString
open ChaosLibs.Dns.AddressLists
open ChaosLibs.Dns.ConfigParser
open ChaosLibs.Dns.ListOwnership
open ChaosLibs.Dns.Override
open ChaosLibs.Dns.OwnedRegistry
open ChaosLibs.Dns.ResultLists
open ChaosLibs.Dns.TransformOwnership
open ChaosLibs.Machine

/-- The rules that match the name and fire, and what SHUFFLE draws. -/
structure Firing where
  rule : ChaosDnsEffect → Option ChaosDnsRule
  /-- Whether `calloc` gives the array of the shuffle. -/
  room : Bool
  draws : Nat → UInt32

/-- The name that is resolved. -/
def Firing.node (firing : Firing) (node : Bytes) : Bytes :=
  (firing.rule .rewrite).elim node fun rule => rule.text

/-- The service that is asked for. -/
def Firing.service (firing : Firing) (service : Option Bytes) : Option Bytes :=
  (firing.rule .service).elim service fun rule => some rule.text

/-- The family that is filtered for; a rule with `any` is skipped. -/
def Firing.family (firing : Firing) : Option ChaosDnsFamilyFilter :=
  (firing.rule .filterFamily).bind fun rule =>
    if rule.family = .any then none else some rule.family

/-- The limit of the answer. -/
def Firing.limit (firing : Firing) : Option Nat :=
  (firing.rule .limit).map fun rule => rule.limit

/-- OVERRIDE, or the real resolver. -/
def answer (libc : Libc) (fuel : Nat) (firing : Firing) (memory : Memory)
    (node : Bytes) (service : Option Bytes) (hints : Option Hints) :
    Option (Memory × Except Int (Option Nat)) :=
  match firing.rule .override with
  | some rule =>
      (chaosDnsApplyOverride libc fuel memory rule.text node (firing.service service)
        hints).map fun (after, outcome) => (after, outcome.map some)
  | none =>
      match libc.getaddrinfo memory (some (firing.node node)) (firing.service service)
          hints with
      | .error code => some (memory, .error code)
      | .ok nodes =>
          some
            ({ memory with nodes := link none nodes memory.nodes },
              .ok (headAddress nodes none))

/-- Nothing is left: a block is freed as a whole, and the answer is `EAI_NONAME`. -/
def emptied (memory : Memory) (owned : Option Nat) :
    Option (Memory × Except Int (Option Nat)) :=
  (chaosDnsOwnedFree memory owned).map fun (after, _) => (after, .error eaiNoname)

/-- SHUFFLE and LIMIT. -/
def shuffleAndLimit (fuel : Nat) (firing : Firing) (memory : Memory)
    (owned result : Option Nat) : Option (Memory × Except Int (Option Nat)) :=
  (match firing.rule .shuffle with
    | none => some (memory, result)
    | some _ =>
        chaosDnsShuffleResultList fuel firing.room firing.draws memory result).bind
    fun (shuffled, head) =>
      match firing.limit with
      | none => some (shuffled, .ok head)
      | some limit =>
          (chaosDnsLimitResultList fuel shuffled head limit).bind
            fun (limited, left) =>
              if left = none then emptied limited owned
              else some (limited, .ok left)

/-- FILTER_FAMILY, SHUFFLE and LIMIT. -/
def shape (fuel : Nat) (firing : Firing) (memory : Memory)
    (owned result : Option Nat) : Option (Memory × Except Int (Option Nat)) :=
  match firing.family with
  | none => shuffleAndLimit fuel firing memory owned result
  | some family =>
      (chaosDnsFilterResultList fuel memory result family).bind
        fun (filtered, head, left) =>
          if left then shuffleAndLimit fuel firing filtered owned head
          else emptied filtered owned

/-- `chaos_dns_resolve_with_rules` with a place for the result. -/
def chaosDnsResolveWithRules (libc : Libc) (fuel : Nat) (firing : Firing)
    (memory : Memory) (node : Bytes) (service : Option Bytes)
    (hints : Option Hints) : Option (Memory × Except Int (Option Nat)) :=
  (answer libc fuel firing memory node service hints).bind fun (answered, outcome) =>
    match outcome with
    | .error code => some (answered, .error code)
    | .ok result =>
        shape fuel firing answered
          (if (firing.rule .override).isSome then result else none) result

/-! ## The answer -/

/-- The list that the resolver or the OVERRIDE rule produces. -/
def Produced (libc : Libc) (fuel : Nat) (firing : Firing) (base : Memory)
    (node : Bytes) (service : Option Bytes) (hints : Option Hints)
    (block : Option Block) (name : Option Bytes) (nodes : List (Nat × AddrInfo)) :
    Prop :=
  match block with
  | none =>
      libc.getaddrinfo base (some (firing.node node)) (firing.service service) hints =
        .ok (withName name nodes)
  | some held =>
      ∃ rule answered head, firing.rule .override = some rule ∧
        chaosDnsApplyOverride libc fuel base rule.text node (firing.service service)
          hints = some (answered, .ok head) ∧
          Owning base answered (some held) (some head) name nodes

variable {libc : Libc} {base memory : Memory} {block : Option Block}
  {head owned : Option Nat} {name : Option Bytes}
  {nodes : List (Nat × AddrInfo)} {fuel : Nat}

theorem exists_withName
    (bare : ∀ entry ∈ nodes.tail, entry.2.canonname = none) :
    ∃ name plain, nodes = withName name plain ∧
      ∀ entry ∈ plain, entry.2.canonname = none := by
  cases nodes with
  | nil => exact ⟨none, [], rfl, nofun⟩
  | cons node rest =>
      refine ⟨node.2.canonname,
        (node.1, { node.2 with canonname := none }) :: rest, rfl, ?_⟩
      intro entry member
      rcases List.mem_cons.mp member with rfl | later
      · rfl
      · exact bare entry later

/-- A real answer is owned. -/
theorem owning_answer
    {node service : Option Bytes} {hints : Option Hints}
    (answered : libc.getaddrinfo base node service hints = .ok (withName name nodes))
    (bare : ∀ entry ∈ nodes, entry.2.canonname = none) :
    Owning base { base with nodes := link none (withName name nodes) base.nodes }
      none (headAddress (withName name nodes) none) name nodes := by
  rcases libc.answer_fresh answered with ⟨distinct, fresh⟩
  have linked := segment_link none base.nodes distinct
  rw [addresses_withName] at distinct fresh
  refine ⟨linked, distinct, bare, fun _ member => member, ?_, fresh, ?_, rfl⟩
  · intro address outside
    refine link_of_not_mem _ _ ?_
    rwa [addresses_withName]
  · intro address member
    refine linked.live ?_
    rwa [addresses_withName]

/-! ## The transforms -/

/-- The block that an emptied list leaves is known by a node of it. -/
def Remembers (block : Option Block) (owned : Option Nat) : Prop :=
  match block with
  | none => owned = none
  | some held => ∃ address ∈ blockAddresses held, owned = some address

theorem emptied_eq
    (owning : Owning base memory block head name []) (coherent : Coherent base)
    (remembers : Remembers block owned) :
    emptied memory owned = some (base, .error eaiNoname) := by
  cases block with
  | none =>
      cases remembers
      rw [owning.eq_of_nil]
      rfl
  | some held =>
      rcases remembers with ⟨address, member, rfl⟩
      dsimp only [emptied]
      rw [owning.chaosDnsOwnedFree coherent member]
      rfl

/-- A list that ends at once has no nodes. -/
theorem Owning.eq_nil (owning : Owning base memory block none name nodes) :
    nodes = [] := by
  cases nodes with
  | nil => rfl
  | cons node rest => exact absurd owning.linked.1 nofun

/-- The nodes that LIMIT keeps. -/
def Firing.limited (firing : Firing) (nodes : List (Nat × AddrInfo)) :
    List (Nat × AddrInfo) :=
  match firing.limit with
  | none => nodes
  | some limit => nodes.take limit

/-- The nodes that FILTER_FAMILY keeps. -/
def Firing.filtered (firing : Firing) (nodes : List (Nat × AddrInfo)) :
    List (Nat × AddrInfo) :=
  match firing.family with
  | none => nodes
  | some family => nodes.filter fun node => node.2.family = wantedFamily family

/-- The lookup returns an owned list of these nodes, or leaves nothing in memory. -/
def Returns (base : Memory) (block : Option Block) (name : Option Bytes)
    (wanted : List (Nat × AddrInfo) → Prop) (after : Memory) :
    Except Int (Option Nat) → Prop
  | .error _ => after = base
  | .ok head => ∃ left, wanted left ∧ Owning base after block head name left

theorem shuffleAndLimit_returns
    (firing : Firing) (owning : Owning base memory block head name nodes)
    (coherent : Coherent base) (remembers : Remembers block owned)
    (enough : nodes.length ≤ fuel) :
    ∃ after outcome,
      shuffleAndLimit fuel firing memory owned head = some (after, outcome) ∧
        Returns base block name
          (fun left => (nodes ≠ [] → left ≠ []) ∧ ∃ order, order.Perm nodes ∧
            (firing.rule .shuffle = none → order = nodes) ∧
              left = firing.limited order) after outcome := by
  have shuffled : ∃ shuffled newHead order,
      (match firing.rule .shuffle with
        | none => some (memory, head)
        | some _ =>
            chaosDnsShuffleResultList fuel firing.room firing.draws memory head) =
          some (shuffled, newHead) ∧
        order.Perm nodes ∧ (firing.rule .shuffle = none → order = nodes) ∧
          Owning base shuffled block newHead name order := by
    cases fires : firing.rule .shuffle with
    | none => exact ⟨memory, head, nodes, rfl, List.Perm.refl _, fun _ => rfl, owning⟩
    | some rule =>
        rcases chaosDnsShuffleResultList_owning owning firing.room firing.draws enough
          with ⟨shuffled, newHead, order, shuffles, perm, left⟩
        exact ⟨shuffled, newHead, order, shuffles, perm, nofun, left⟩
  rcases shuffled with ⟨shuffled, newHead, order, shuffles, perm, same, owningOrder⟩
  dsimp only [shuffleAndLimit]
  rw [shuffles, Option.bind_some]
  cases limits : firing.limit with
  | none =>
      refine ⟨shuffled, .ok newHead, rfl, order,
        ⟨fun notEmpty => ?_, order, perm, same, ?_⟩, owningOrder⟩
      · rintro rfl
        exact notEmpty perm.nil_eq.symm
      · dsimp only [Firing.limited]
        rw [limits]
  | some limit =>
      have enoughOrder : order.length ≤ fuel := perm.length_eq.trans_le enough
      rcases chaosDnsLimitResultList_owning owningOrder coherent limit enoughOrder with
        ⟨limited, left, cuts, owningLeft⟩
      dsimp only
      rw [cuts, Option.bind_some]
      by_cases nothing : left = none
      · refine ⟨base, .error eaiNoname, ?_, rfl⟩
        rw [nothing] at owningLeft
        rw [if_pos nothing]
        have empty := Owning.eq_nil owningLeft
        rw [empty] at owningLeft
        exact emptied_eq owningLeft coherent remembers
      · refine ⟨limited, .ok left, if_neg nothing, order.take limit,
          ⟨fun _ empty => nothing ?_, order, perm, same, ?_⟩, owningLeft⟩
        · rw [empty] at owningLeft
          exact owningLeft.linked
        · dsimp only [Firing.limited]
          rw [limits]

theorem shape_returns
    (firing : Firing) (owning : Owning base memory block head name nodes)
    (coherent : Coherent base) (remembers : Remembers block owned)
    (enough : nodes.length ≤ fuel) :
    ∃ after outcome,
      shape fuel firing memory owned head = some (after, outcome) ∧
        Returns base block name
          (fun left => (nodes ≠ [] → left ≠ []) ∧
            ∃ order, order.Perm (firing.filtered nodes) ∧
              (firing.rule .shuffle = none → order = firing.filtered nodes) ∧
                left = firing.limited order) after outcome := by
  cases filters : firing.family with
  | none =>
      have same : firing.filtered nodes = nodes := by
        dsimp only [Firing.filtered]
        rw [filters]
      dsimp only [shape]
      rw [filters, same]
      exact shuffleAndLimit_returns firing owning coherent remembers enough
  | some family =>
      have same : firing.filtered nodes =
          nodes.filter fun node => node.2.family = wantedFamily family := by
        dsimp only [Firing.filtered]
        rw [filters]
      have notAny : family ≠ .any := by
        rcases Option.bind_eq_some_iff.mp filters with ⟨rule, -, kept⟩
        split at kept
        · cases kept
        · cases kept
          assumption
      rcases chaosDnsFilterResultList_owning owning coherent notAny enough with
        ⟨filtered, newHead, drops, owningLeft⟩
      dsimp only [shape]
      rw [filters]
      dsimp only
      rw [drops, Option.bind_some, same]
      cases newHead with
      | none =>
          refine ⟨base, .error eaiNoname, ?_, rfl⟩
          have empty := Owning.eq_nil owningLeft
          rw [empty] at owningLeft
          exact emptied_eq owningLeft coherent remembers
      | some address =>
          have kept : (nodes.filter fun node => node.2.family = wantedFamily family) ≠
              [] := by
            intro empty
            rw [empty] at owningLeft
            exact absurd owningLeft.linked nofun
          rcases shuffleAndLimit_returns firing owningLeft coherent remembers
              ((List.length_filter_le _ _).trans enough) with
            ⟨after, outcome, shapes, returns⟩
          refine ⟨after, outcome, shapes, ?_⟩
          cases outcome with
          | error code => exact returns
          | ok result =>
              rcases returns with ⟨left, ⟨notEmpty, ordered⟩, owningAfter⟩
              exact ⟨left, ⟨fun _ => notEmpty kept, ordered⟩, owningAfter⟩

/-! ## The lookup -/

/-- What a lookup may end in, for the application that called it. -/
def Owned (libc : Libc) (fuel : Nat) (firing : Firing) (base : Memory) (node : Bytes)
    (service : Option Bytes) (hints : Option Hints) (after : Memory) :
    Except Int (Option Nat) → Prop
  | .error _ => after = base
  | .ok head => ∃ block name nodes order,
      Produced libc fuel firing base node service hints block name nodes ∧
        order.Perm (firing.filtered nodes) ∧
        (firing.rule .shuffle = none → order = firing.filtered nodes) ∧
        Segment after.nodes head (withName name (firing.limited order)) none ∧
        (∀ entry ∈ firing.limited order, entry.2.canonname = none) ∧
        (∀ address ∈ addresses (firing.limited order),
          (block = none → head = some address) →
            freeaddrinfo fuel after (some address) = some base) ∧
        Coherent after

theorem length_limited_le (firing : Firing) (order : List (Nat × AddrInfo)) :
    (firing.limited order).length ≤ order.length := by
  dsimp only [Firing.limited]
  split
  · exact Nat.le_refl _
  · exact List.length_take_le' _ _

theorem length_filtered_le (firing : Firing) (nodes : List (Nat × AddrInfo)) :
    (firing.filtered nodes).length ≤ nodes.length := by
  dsimp only [Firing.filtered]
  split
  · exact Nat.le_refl _
  · exact List.length_filter_le _ _

theorem length_limited_le_of_perm
    {firing : Firing} {order : List (Nat × AddrInfo)}
    (perm : order.Perm (firing.filtered nodes)) :
    (firing.limited order).length ≤ nodes.length :=
  calc (firing.limited order).length
      ≤ order.length := length_limited_le firing order
    _ = (firing.filtered nodes).length := perm.length_eq
    _ ≤ nodes.length := length_filtered_le firing nodes

/-- From the answer of the resolver or the rule to what the application gets. -/
theorem owned_of_owning
    {firing : Firing} {node : Bytes} {service : Option Bytes} {hints : Option Hints}
    (owning : Owning base memory block head name nodes) (coherent : Coherent base)
    (remembers : Remembers block owned)
    (produced : Produced libc fuel firing base node service hints block name nodes)
    (enough : nodes.length ≤ fuel) :
    ∃ after outcome,
      shape fuel firing memory owned head = some (after, outcome) ∧
        Owned libc fuel firing base node service hints after outcome := by
  rcases shape_returns firing owning coherent remembers enough with
    ⟨after, outcome, shapes, returns⟩
  refine ⟨after, outcome, shapes, ?_⟩
  cases outcome with
  | error code => exact returns
  | ok result =>
      rcases returns with ⟨left, ⟨-, order, perm, same, rfl⟩, owningLeft⟩
      refine ⟨block, name, nodes, order, produced, perm, same, owningLeft.linked,
        owningLeft.bare, ?_, owningLeft.coherent coherent⟩
      intro address member first
      exact owningLeft.freeaddrinfo coherent member first
        ((length_limited_le_of_perm perm).trans enough)

/--
A lookup is over at once and leaves the memory as it was, or shapes a list that it owns;
an OVERRIDE list is not empty.
-/
theorem exists_produced
    (libc : Libc) (coherent : Coherent base) (firing : Firing) (node : Bytes)
    (service : Option Bytes) (hints : Option Hints) :
    ∃ enough, ∀ fuel, enough ≤ fuel →
      (∃ code, chaosDnsResolveWithRules libc fuel firing base node service hints =
        some (base, .error code)) ∨
      ∃ memory block head owned name nodes,
        chaosDnsResolveWithRules libc fuel firing base node service hints =
            shape fuel firing memory owned head ∧
          Owning base memory block head name nodes ∧ Remembers block owned ∧
          Produced libc fuel firing base node service hints block name nodes ∧
          (block.isSome → nodes ≠ []) ∧ nodes.length ≤ fuel := by
  cases overrides : firing.rule .override with
  | some rule =>
      rcases chaosDnsApplyOverride_owning libc coherent rule.text node
          (firing.service service) hints with ⟨enough, applies⟩
      refine ⟨enough, fun fuel within => ?_⟩
      rcases applies fuel within with ⟨answered, outcome, applied, owning⟩
      have answers : answer libc fuel firing base node service hints =
          some (answered, outcome.map some) := by
        dsimp only [answer]
        rw [overrides]
        dsimp only
        rw [applied]
        rfl
      dsimp only [chaosDnsResolveWithRules]
      rw [answers, Option.bind_some, overrides]
      cases outcome with
      | error code =>
          cases owning
          exact Or.inl ⟨code, rfl⟩
      | ok first =>
          rcases owning with ⟨held, name, nodes, short, owning⟩
          cases nodes with
          | nil => exact absurd owning.linked nofun
          | cons entry rest =>
              have starts : some first = some entry.1 := owning.linked.1
              exact Or.inr ⟨answered, some held, some first, some first, name,
                entry :: rest, rfl, owning,
                ⟨entry.1, owning.inside entry.1 List.mem_cons_self, starts⟩,
                ⟨rule, answered, first, overrides, applied, owning⟩,
                fun _ => List.cons_ne_nil _ _, short.trans within⟩
  | none =>
      cases resolves : libc.getaddrinfo base (some (firing.node node))
          (firing.service service) hints with
      | error code =>
          refine ⟨0, fun fuel _ => Or.inl ⟨code, ?_⟩⟩
          dsimp only [chaosDnsResolveWithRules, answer]
          rw [overrides]
          dsimp only
          rw [resolves]
          rfl
      | ok listed =>
          rcases exists_withName (libc.answer_named resolves) with
            ⟨name, nodes, rfl, bare⟩
          refine ⟨nodes.length, fun fuel within => Or.inr ⟨_, none, _, none, name, nodes,
            ?_, owning_answer resolves bare, rfl, resolves, nofun, within⟩⟩
          dsimp only [chaosDnsResolveWithRules, answer]
          rw [overrides]
          dsimp only
          rw [resolves]
          rfl

/-- A lookup that is over: its list is read to the end, and released as it was built. -/
def Settled (fuel : Nat) (base after : Memory) : Except Int (Option Nat) → Prop
  | .error _ => after = base
  | .ok head => ∃ list, readList fuel after head = some list ∧
      freeaddrinfo fuel after head = some base

theorem settled_of_owning
    (owning : Owning base memory block head name nodes) (coherent : Coherent base)
    (notEmpty : block.isSome → nodes ≠ []) (enough : nodes.length ≤ fuel) :
    Settled fuel base memory (.ok head) := by
  have short : (withName name nodes).length ≤ fuel := by
    rw [← List.length_map Prod.fst]
    change (addresses (withName name nodes)).length ≤ fuel
    rw [addresses_withName, addresses, List.length_map]
    exact enough
  refine ⟨_, readList_segment owning.linked short, ?_⟩
  cases nodes with
  | nil =>
      cases block with
      | some held => exact absurd rfl (notEmpty rfl)
      | none =>
          have ended : head = none := owning.linked
          rw [ended, owning.eq_of_nil]
          cases fuel <;> rfl
  | cons entry rest =>
      have starts : head = some entry.1 := owning.linked.1
      rw [starts]
      exact owning.freeaddrinfo coherent List.mem_cons_self (fun _ => starts) enough

theorem exists_settled
    (libc : Libc) (coherent : Coherent base) (firing : Firing) (node : Bytes)
    (service : Option Bytes) (hints : Option Hints) :
    ∃ enough, ∀ fuel, enough ≤ fuel → ∃ after outcome,
      chaosDnsResolveWithRules libc fuel firing base node service hints =
          some (after, outcome) ∧ Settled fuel base after outcome := by
  rcases exists_produced libc coherent firing node service hints with ⟨enough, produces⟩
  refine ⟨enough, fun fuel within => ?_⟩
  rcases produces fuel within with ⟨code, fails⟩ | ⟨memory, block, head, owned, name,
    nodes, shapes, owning, remembers, -, listed, short⟩
  · exact ⟨base, .error code, fails, rfl⟩
  · rcases shape_returns firing owning coherent remembers short with
      ⟨after, outcome, shaped, returns⟩
    refine ⟨after, outcome, shapes.trans shaped, ?_⟩
    cases outcome with
    | error code => exact returns
    | ok result =>
        rcases returns with ⟨left, ⟨notEmpty, order, perm, -, rfl⟩, owningLeft⟩
        exact settled_of_owning owningLeft coherent (fun held => notEmpty (listed held))
          ((length_limited_le_of_perm perm).trans short)

/--
For every list that the resolver or an OVERRIDE rule produces, every combination of
rules that fire and every draw: a lookup that fails leaves the memory as it was; one
that succeeds returns the first nodes, up to the limit, of an order of the nodes of the
wanted family, with the canonical name on the first; and `freeaddrinfo` of any node of
an OVERRIDE list, or of the head of a real one, gives the memory back as it was.
-/
theorem chaosDnsResolveWithRules_owned
    (libc : Libc) (coherent : Coherent base) (firing : Firing) (node : Bytes)
    (service : Option Bytes) (hints : Option Hints) :
    ∃ enough, ∀ fuel, enough ≤ fuel → ∃ after outcome,
      chaosDnsResolveWithRules libc fuel firing base node service hints =
          some (after, outcome) ∧
        Owned libc fuel firing base node service hints after outcome := by
  rcases exists_produced libc coherent firing node service hints with ⟨enough, produces⟩
  refine ⟨enough, fun fuel within => ?_⟩
  rcases produces fuel within with ⟨code, fails⟩ | ⟨memory, block, head, owned, name,
    nodes, shapes, owning, remembers, produced, -, short⟩
  · exact ⟨base, .error code, fails, rfl⟩
  · rw [shapes]
    exact owned_of_owning owning coherent remembers produced short

/-- A resolver that knows an IPv4 and an IPv6 address, and a name for them. -/
def pairLibc : Libc where
  getaddrinfo memory _ _ _ :=
    if memory.nodes 1 |>.isNone then
      if memory.nodes 2 |>.isNone then
        .ok
          [(1, ⟨0, afInet, 1, 6, none, some (bytes "host")⟩),
            (2, ⟨0, afInet6, 1, 6, none, none⟩)]
      else .error eaiMemory
    else .error eaiMemory
  malloc memory count _ :=
    if (List.range' 3 count).all fun address => (memory.nodes address).isNone then
      some 3
    else none
  answer_fresh := by
    intro memory node service hints nodes answered
    split at answered
    · rename_i first
      split at answered
      · rename_i second
        cases answered
        refine ⟨by decide, fun address member => ?_⟩
        rcases List.mem_cons.mp member with rfl | later
        · exact Option.isNone_iff_eq_none.mp first
        · cases List.mem_singleton.mp later
          exact Option.isNone_iff_eq_none.mp second
      · cases answered
    · cases answered
  answer_named := by
    intro memory node service hints nodes answered
    split at answered
    · split at answered
      · cases answered
        intro entry member
        cases List.mem_singleton.mp member
        rfl
      · cases answered
    · cases answered
  malloc_fresh := by
    intro memory count nameSize first allocated address above below
    split at allocated
    · rename_i free
      cases allocated
      exact Option.isNone_iff_eq_none.mp
        (List.all_eq_true.mp free address (List.mem_range'_1.mpr ⟨above, below⟩))
    · cases allocated

/-- Rules that keep the IPv6 addresses, shuffle them and return one. -/
def shapingFiring : Firing where
  rule
    | .filterFamily =>
        some { selector := ⟨.any, .lookup, 1, []⟩, effect := .filterFamily,
               family := .inet6 }
    | .shuffle => some { selector := ⟨.any, .lookup, 1, []⟩, effect := .shuffle }
    | .limit =>
        some { selector := ⟨.any, .lookup, 1, []⟩, effect := .limit, limit := 1 }
    | .gai | .latency | .rewrite | .service | .override => none
  room := true
  draws := fun _ => 0

theorem chaosDnsResolveWithRules_owned_pairLibc :
    ∃ enough, ∀ fuel, enough ≤ fuel → ∃ after outcome,
      chaosDnsResolveWithRules pairLibc fuel shapingFiring
          ⟨fun _ => none, fun _ => none⟩ (bytes "host") none none =
        some (after, outcome) ∧
        Owned pairLibc fuel shapingFiring ⟨fun _ => none, fun _ => none⟩
          (bytes "host") none none after outcome :=
  chaosDnsResolveWithRules_owned pairLibc (fun _ _ entry => by cases entry)
    shapingFiring (bytes "host") none none

/-- The IPv4 node is dropped, and the name is on the other one. -/
example :
    (chaosDnsResolveWithRules pairLibc 2 shapingFiring
        ⟨fun _ => none, fun _ => none⟩ (bytes "host") none none).map
      (fun (after, _) => ((after.nodes 1).isNone,
        (after.nodes 2).bind fun cell => cell.content.canonname)) =
      some (true, some (bytes "host")) := by
  decide +kernel

end ChaosLibs.Dns.Resolve
