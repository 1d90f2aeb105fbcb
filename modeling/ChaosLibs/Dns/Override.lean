import ChaosLibs.Dns.ListOwnership
import ChaosLibs.Dns.OverrideTokens

/-!
# The answer of an OVERRIDE rule

`chaos_dns_apply_override`: the real lists of the literals, their copy in one block,
and the release of the real lists.  Whatever a lookup comes to, what is left in memory
is the block of its answer.
-/

namespace ChaosLibs.Dns.Override

open ChaosLibs.Common.CString
open ChaosLibs.Dns.AddressLists
open ChaosLibs.Dns.ConfigParser
open ChaosLibs.Dns.ListOwnership
open ChaosLibs.Dns.OverrideTokens
open ChaosLibs.Dns.OwnedRegistry
open ChaosLibs.Machine

/-- `AI_CANONNAME` and `AI_NUMERICHOST`. -/
def aiCanonname : UInt32 := 2
def aiNumerichost : UInt32 := 4

/-- The hints of a literal's lookup. -/
def numericHints (hints : Option Hints) : Hints :=
  let given := hints.getD ⟨0, afUnspec, 0, 0⟩
  { given with flags := given.flags ||| aiNumerichost }

/-- The hints exclude the family of a literal. -/
def Excludes (hints : Hints) (host : Bytes) : Prop :=
  hints.family ≠ afUnspec ∧ chaosDnsLiteralFamily host ≠ 0 ∧
    chaosDnsLiteralFamily host ≠ hints.family

instance (hints : Hints) (host : Bytes) : Decidable (Excludes hints host) :=
  inferInstanceAs (Decidable (_ ∧ _))

/-- What the loop over the tokens has come to; `error` is `rc` when it is not 0. -/
structure Gathered where
  error : Option Int
  memory : Memory
  partials : List (Option Nat)

/-- The loop over the tokens. -/
def gather (libc : Libc) (service : Option Bytes) (hints : Hints) :
    List Bytes → Memory → List (Option Nat) → Gathered
  | [], memory, partials => ⟨none, memory, partials⟩
  | token :: rest, memory, partials =>
      match lookupHost token with
      | none => ⟨some eaiFail, memory, partials⟩
      | some host =>
          if partials.length = chaosDnsMaxOverride then
            ⟨some eaiFail, memory, partials⟩
          else if Excludes hints host then
            -- The caller asked for the other family.
            gather libc service hints rest memory partials
          else
            match libc.getaddrinfo memory (some host) service (some hints) with
            | .error code => ⟨some code, memory, partials⟩
            | .ok nodes =>
                gather libc service hints rest
                  { memory with nodes := link none nodes memory.nodes }
                  (partials ++ [headAddress nodes none])

/-- The real lists are released one after the other. -/
def freePartials (fuel : Nat) : Memory → List (Option Nat) → Option Memory
  | memory, [] => some memory
  | memory, head :: rest =>
      (realFreeaddrinfo fuel memory head).bind fun after =>
        freePartials fuel after rest

/-- `chaos_dns_apply_override`: an error, or the head of the answer. -/
def chaosDnsApplyOverride
    (libc : Libc) (fuel : Nat) (memory : Memory) (text name : Bytes)
    (service : Option Bytes) (hints : Option Hints) :
    Option (Memory × Except Int Nat) :=
  if chaosDnsMaxValue ≤ text.length then some (memory, .error eaiFail)
  else
    let numeric := numericHints hints
    let gathered := gather libc service numeric (commaTokens text) memory []
    match gathered.error with
    | some code =>
        (freePartials fuel gathered.memory gathered.partials).map fun after =>
          (after, .error code)
    | none =>
        if gathered.partials = [] then some (gathered.memory, .error eaiNoname)
        else
          (chaosDnsOwnedCopy libc fuel gathered.memory gathered.partials
            (if numeric.flags &&& aiCanonname ≠ 0 then some name else none)).bind
              fun (copied, head) =>
                (freePartials fuel copied gathered.partials).map fun after =>
                  match head with
                  | none => (after, .error eaiMemory)
                  | some first => (after, .ok first)

/-! ## Several real lists -/

/-- The memory has some real lists in addition. -/
structure Partials (base memory : Memory) (lists : List (List (Nat × AddrInfo))) :
    Prop where
  linked : ∀ nodes ∈ lists, Segment memory.nodes (headAddress nodes none) nodes none
  distinct : (addresses lists.flatten).Nodup
  frame : ∀ address ∉ addresses lists.flatten,
    memory.nodes address = base.nodes address
  fresh : ∀ address ∈ addresses lists.flatten, base.nodes address = none
  owned : memory.owned = base.owned

variable {libc : Libc} {base memory : Memory}
  {lists : List (List (Nat × AddrInfo))} {nodes : List (Nat × AddrInfo)}
  {service : Option Bytes} {hints : Hints} {fuel : Nat}

theorem partials_nil (memory : Memory) : Partials memory memory [] where
  linked := nofun
  distinct := List.nodup_nil
  frame := fun _ _ => rfl
  fresh := nofun
  owned := rfl

theorem Partials.eq_of_nil (ok : Partials base memory []) : memory = base :=
  Memory.ext (funext fun address => ok.frame address List.not_mem_nil) ok.owned

theorem mem_addresses_flatten {address : Nat} :
    address ∈ addresses lists.flatten ↔
      ∃ nodes ∈ lists, address ∈ addresses nodes := by
  simp only [addresses, List.mem_map, List.mem_flatten]
  constructor
  · rintro ⟨node, ⟨nodes, listed, member⟩, rfl⟩
    exact ⟨nodes, listed, node, member, rfl⟩
  · rintro ⟨nodes, listed, node, member, rfl⟩
    exact ⟨node, ⟨nodes, listed, member⟩, rfl⟩

theorem Partials.live
    (ok : Partials base memory lists) {address : Nat}
    (member : address ∈ addresses lists.flatten) : memory.nodes address ≠ none := by
  rcases mem_addresses_flatten.mp member with ⟨nodes, listed, inside⟩
  exact (ok.linked nodes listed).live inside

/-- The answer of the real resolver is one more list. -/
theorem Partials.answer
    (ok : Partials base memory lists)
    {node : Option Bytes} {given : Option Hints}
    (answered : libc.getaddrinfo memory node service given = .ok nodes) :
    Partials base { memory with nodes := link none nodes memory.nodes }
      (lists ++ [nodes]) := by
  rcases libc.answer_fresh answered with ⟨distinct, fresh⟩
  have apart : ∀ address ∈ addresses lists.flatten, address ∉ addresses nodes :=
    fun address member inside => ok.live member (fresh address inside)
  have flat : (lists ++ [nodes]).flatten = lists.flatten ++ nodes := by
    rw [List.flatten_append, List.flatten_singleton]
  refine ⟨?_, ?_, ?_, ?_, ok.owned⟩
  · intro other member
    rcases List.mem_append.mp member with before | last
    · refine (ok.linked other before).congr fun address inside => ?_
      exact link_of_not_mem _ _
        (apart address (mem_addresses_flatten.mpr ⟨other, before, inside⟩))
    · cases List.mem_singleton.mp last
      exact segment_link none memory.nodes distinct
  · rw [flat, addresses_append, List.nodup_append]
    refine ⟨ok.distinct, distinct, ?_⟩
    rintro address before other inside rfl
    exact apart address before inside
  · intro address absent
    rw [flat, addresses_append, List.mem_append] at absent
    rcases not_or.mp absent with ⟨notBefore, notNew⟩
    exact (link_of_not_mem _ _ notNew).trans (ok.frame address notBefore)
  · intro address member
    rw [flat, addresses_append] at member
    rcases List.mem_append.mp member with before | inside
    · exact ok.fresh address before
    · by_cases before : address ∈ addresses lists.flatten
      · exact ok.fresh address before
      · rw [← ok.frame address before]
        exact fresh address inside

/-- Releasing the first list leaves the others. -/
theorem Partials.free
    (ok : Partials base memory (nodes :: lists)) (coherent : Coherent base)
    (enough : nodes.length ≤ fuel) :
    ∃ after, realFreeaddrinfo fuel memory (headAddress nodes none) = some after ∧
      Partials base after lists := by
  have distinct := ok.distinct
  rw [List.flatten_cons, addresses_append, List.nodup_append] at distinct
  rcases distinct with ⟨distinctNodes, distinctLists, apart⟩
  have inFirst : ∀ address ∈ addresses nodes,
      address ∈ addresses (nodes :: lists).flatten := fun address member =>
    mem_addresses_flatten.mpr ⟨nodes, List.mem_cons_self, member⟩
  have notBlock : ∀ address ∈ addresses nodes,
      chaosDnsOwnedContains memory (some address) = false := by
    intro address member
    have absent := ok.fresh address (inFirst address member)
    refine congrArg Option.isSome (chaosDnsOwnedFind_eq_none ?_)
    intro index block entry inside
    rw [ok.owned] at entry
    exact coherent index block entry address inside absent
  refine ⟨_, realFreeaddrinfo_segment (ok.linked nodes List.mem_cons_self)
    distinctNodes notBlock enough, ?_, distinctLists, ?_, ?_, ok.owned⟩
  · intro other member
    refine (ok.linked other (List.mem_cons_of_mem _ member)).congr
      fun address inside => clear_of_not_mem _ fun inNodes => ?_
    exact apart address inNodes address
      (mem_addresses_flatten.mpr ⟨other, member, inside⟩) rfl
  · intro address absent
    by_cases member : address ∈ addresses nodes
    · rw [ok.fresh address (inFirst address member)]
      exact clear_of_mem _ member
    · refine (clear_of_not_mem _ member).trans (ok.frame address ?_)
      rw [List.flatten_cons, addresses_append, List.mem_append]
      exact not_or.mpr ⟨member, absent⟩
  · intro address member
    rcases mem_addresses_flatten.mp member with ⟨other, listed, inside⟩
    exact ok.fresh address
      (mem_addresses_flatten.mpr ⟨other, List.mem_cons_of_mem _ listed, inside⟩)

theorem Partials.freeAll
    (ok : Partials base memory lists) (coherent : Coherent base)
    (enough : lists.flatten.length ≤ fuel) :
    freePartials fuel memory (lists.map (headAddress · none)) = some base := by
  induction lists generalizing memory with
  | nil =>
      rw [ok.eq_of_nil]
      rfl
  | cons nodes rest induction =>
      rw [List.flatten_cons, List.length_append] at enough
      rcases ok.free coherent ((Nat.le_add_right _ _).trans enough) with
        ⟨after, freed, left⟩
      have later := induction left ((Nat.le_add_left _ _).trans enough)
      rw [List.map_cons]
      change (realFreeaddrinfo fuel memory (headAddress nodes none)).bind _ = _
      rw [freed, Option.bind_some]
      exact later

/-! ## The copy -/

theorem readList_segment
    {head : Option Nat} (segment : Segment memory.nodes head nodes none)
    (enough : nodes.length ≤ fuel) :
    readList fuel memory head = some (nodes.map Prod.snd) := by
  induction nodes generalizing head fuel with
  | nil =>
      cases segment
      cases fuel <;> rfl
  | cons node rest induction =>
      rcases segment with ⟨rfl, next, cell, later⟩
      cases fuel with
      | zero => cases enough
      | succ fuel =>
          dsimp only [readList]
          rw [cell]
          dsimp only
          rw [induction later (Nat.le_of_succ_le_succ enough)]
          rfl

theorem mapM_readList
    (linked : ∀ nodes ∈ lists,
      Segment memory.nodes (headAddress nodes none) nodes none)
    (enough : lists.flatten.length ≤ fuel) :
    (lists.map (headAddress · none)).mapM (readList fuel memory) =
      some (lists.map (List.map Prod.snd)) := by
  induction lists with
  | nil => rfl
  | cons nodes rest induction =>
      rw [List.flatten_cons, List.length_append] at enough
      have here := readList_segment (linked nodes List.mem_cons_self)
        ((Nat.le_add_right _ _).trans enough)
      have later := induction
        (fun other member => linked other (List.mem_cons_of_mem _ member))
        ((Nat.le_add_left _ _).trans enough)
      rw [List.map_cons, List.mapM_cons, here, later]
      rfl

/-- The nodes of a block, without the name. -/
def copiedNodes (first : Nat) (infos : List AddrInfo) : List (Nat × AddrInfo) :=
  (List.range' first infos.length).zip (infos.map ownedInfo)

theorem addresses_copiedNodes (first : Nat) (infos : List AddrInfo) :
    addresses (copiedNodes first infos) =
      blockAddresses ⟨first, infos.length⟩ := by
  refine List.map_fst_zip ?_
  rw [List.length_range', List.length_map]

theorem map_snd_copiedNodes (first : Nat) (infos : List AddrInfo) :
    (copiedNodes first infos).map Prod.snd = infos.map ownedInfo := by
  refine List.map_snd_zip ?_
  rw [List.length_range', List.length_map]

theorem distinct_copiedNodes (first : Nat) (infos : List AddrInfo) :
    (addresses (copiedNodes first infos)).Nodup := by
  rw [addresses_copiedNodes]
  exact List.nodup_range'

/-- The block and its nodes, over a memory without them. -/
theorem owning_copied
    {first : Nat} {infos : List AddrInfo} {index : Fin chaosDnsMaxOwned}
    (name : Option Bytes) (notEmpty : infos ≠ [])
    (fresh : ∀ address ∈ blockAddresses ⟨first, infos.length⟩,
      base.nodes address = none)
    (free : base.owned index = none) :
    Owning base
      ⟨link none (blockNodes first infos name) base.nodes,
        Function.update base.owned index (some ⟨first, infos.length⟩)⟩
      (some ⟨first, infos.length⟩) (some first) name (copiedNodes first infos) := by
  have distinct : (addresses (blockNodes first infos name)).Nodup := by
    rw [blockNodes, addresses_withName]
    exact distinct_copiedNodes first infos
  have sameAddresses : addresses (blockNodes first infos name) =
      blockAddresses ⟨first, infos.length⟩ := by
    rw [blockNodes, addresses_withName]
    exact addresses_copiedNodes first infos
  have linked := segment_link none base.nodes distinct
  have starts : headAddress (blockNodes first infos name) none = some first := by
    cases infos with
    | nil => exact absurd rfl notEmpty
    | cons info rest => rfl
  rw [starts] at linked
  refine ⟨linked, distinct_copiedNodes first infos, ?_, ?_, ?_, fresh, ?_, ?_⟩
  · intro node member
    have info := List.mem_map_of_mem (f := Prod.snd) member
    rw [map_snd_copiedNodes] at info
    rcases List.mem_map.mp info with ⟨original, -, same⟩
    rw [← same]
    rfl
  · intro address member
    rwa [addresses_copiedNodes] at member
  · intro address absent
    refine link_of_not_mem _ _ ?_
    rwa [sameAddresses]
  · intro address member
    refine linked.live ?_
    rw [sameAddresses]
    exact member
  · exact ⟨index, free, rfl⟩

/-- A block that finds no place in the table is freed again. -/
theorem freeBlock_link
    {first : Nat} {infos : List AddrInfo} (name : Option Bytes)
    (fresh : ∀ address ∈ blockAddresses ⟨first, infos.length⟩,
      memory.nodes address = none) :
    freeBlock
        { memory with nodes := link none (blockNodes first infos name) memory.nodes }
        ⟨first, infos.length⟩ = some memory := by
  have sameAddresses : addresses (blockNodes first infos name) =
      blockAddresses ⟨first, infos.length⟩ := by
    rw [blockNodes, addresses_withName]
    exact addresses_copiedNodes first infos
  have distinct : (addresses (blockNodes first infos name)).Nodup := by
    rw [sameAddresses]
    exact List.nodup_range'
  have linked := segment_link none memory.nodes distinct
  have live : ((blockAddresses ⟨first, infos.length⟩).all fun address =>
      (link none (blockNodes first infos name) memory.nodes address).isSome) = true :=
    List.all_eq_true.mpr fun address inside =>
      Option.isSome_iff_ne_none.mpr (linked.live (by rwa [sameAddresses]))
  refine (if_pos live).trans (congrArg some (Memory.ext (funext fun address => ?_) rfl))
  by_cases inside : address ∈ blockAddresses ⟨first, infos.length⟩
  · exact (clear_of_mem _ inside).trans (fresh address inside).symm
  · refine (clear_of_not_mem _ inside).trans (link_of_not_mem _ _ ?_)
    rwa [sameAddresses]

/-- The block table or memory is exhausted, or there is nothing to copy. -/
def NoRoom (libc : Libc) (memory : Memory) (infos : List AddrInfo)
    (canonname : Option Bytes) : Prop :=
  infos = [] ∨
    libc.malloc memory infos.length
      (canonname.elim 0 fun name => name.length + 1) = none ∨
    ∀ index, memory.owned index ≠ none

/-- `chaos_dns_owned_copy` of real lists: `NULL`, or a block of their nodes. -/
theorem chaosDnsOwnedCopy_partials
    (ok : Partials base memory lists) (coherent : Coherent base)
    (enough : lists.flatten.length ≤ fuel) (canonname : Option Bytes) :
    (chaosDnsOwnedCopy libc fuel memory (lists.map (headAddress · none)) canonname =
        some (memory, none) ∧
      NoRoom libc memory (lists.flatten.map Prod.snd) canonname) ∨
    ∃ copied first own held,
      chaosDnsOwnedCopy libc fuel memory (lists.map (headAddress · none)) canonname =
          some (copied, some first) ∧
        Coherent own ∧ Partials own copied lists ∧
        Owning base own (some held) (some first) canonname
          (copiedNodes first (lists.flatten.map Prod.snd)) := by
  have read := mapM_readList ok.linked enough
  have flat : (lists.map (List.map Prod.snd)).flatten = lists.flatten.map Prod.snd :=
    List.map_flatten.symm
  by_cases empty : lists.flatten.map Prod.snd = []
  · refine Or.inl ⟨?_, Or.inl empty⟩
    dsimp only [chaosDnsOwnedCopy]
    rw [read, Option.bind_some, flat, if_pos empty]
  · cases allocated : libc.malloc memory (lists.flatten.map Prod.snd).length
        (canonname.elim 0 fun name => name.length + 1) with
    | none =>
        refine Or.inl ⟨?_, Or.inr (Or.inl allocated)⟩
        dsimp only [chaosDnsOwnedCopy]
        rw [read, Option.bind_some, flat, if_neg empty, allocated]
    | some first =>
        have freshMemory : ∀ address ∈ blockAddresses
            ⟨first, (lists.flatten.map Prod.snd).length⟩,
              memory.nodes address = none := fun address member =>
          libc.malloc_fresh allocated address (mem_blockAddresses.mp member).1
            (mem_blockAddresses.mp member).2
        have apart : ∀ address ∈ addresses lists.flatten, address ∉ blockAddresses
            ⟨first, (lists.flatten.map Prod.snd).length⟩ :=
          fun address member inside => ok.live member (freshMemory address inside)
        have freshBase : ∀ address ∈ blockAddresses
            ⟨first, (lists.flatten.map Prod.snd).length⟩,
              base.nodes address = none := fun address member => by
          rw [← ok.frame address fun inside => apart address inside member]
          exact freshMemory address member
        have blockOf : addresses (blockNodes first (lists.flatten.map Prod.snd)
            canonname) =
              blockAddresses ⟨first, (lists.flatten.map Prod.snd).length⟩ := by
          rw [blockNodes, addresses_withName]
          exact addresses_copiedNodes first _
        cases found : (List.finRange chaosDnsMaxOwned).find? fun index =>
            (memory.owned index).isNone with
        | none =>
            refine Or.inl ⟨?_, Or.inr (Or.inr fun index absent => ?_)⟩
            · dsimp only [chaosDnsOwnedCopy]
              rw [read, Option.bind_some, flat, if_neg empty, allocated]
              dsimp only
              rw [found]
              exact congrArg (Option.map _) (freeBlock_link canonname freshMemory)
            · refine List.find?_eq_none.mp found index (List.mem_finRange index) ?_
              rw [absent]
              rfl
        | some index =>
            have free : base.owned index = none := by
              rw [← ok.owned]
              exact Option.isNone_iff_eq_none.mp
                (@List.find?_some _ _ index _ found)
            have owning := @owning_copied base first _ index canonname empty freshBase
              free
            refine Or.inr
              ⟨⟨link none (blockNodes first (lists.flatten.map Prod.snd) canonname)
                    memory.nodes,
                  Function.update memory.owned index
                    (some ⟨first, (lists.flatten.map Prod.snd).length⟩)⟩,
                first, _, _, ?_, owning.coherent coherent, ?_, owning⟩
            · dsimp only [chaosDnsOwnedCopy]
              rw [read, Option.bind_some, flat, if_neg empty, allocated]
              dsimp only
              rw [found]
            · refine ⟨?_, ok.distinct, ?_, ?_, ?_⟩
              · intro nodes listed
                refine (ok.linked nodes listed).congr fun address inside => ?_
                refine link_of_not_mem _ _ ?_
                rw [blockOf]
                exact apart address
                  (mem_addresses_flatten.mpr ⟨nodes, listed, inside⟩)
              · exact fun address absent =>
                  link_congr none fun _ => ok.frame address absent
              · intro address member
                refine (link_of_not_mem _ _ ?_).trans (ok.fresh address member)
                rw [blockOf]
                exact apart address member
              · exact congrArg (Function.update · index _) ok.owned

/-! ## The lookup -/

/-- What the loop has gathered are real lists. -/
theorem gather_partials
    (ok : Partials base memory lists) (tokens : List Bytes) :
    ∃ more,
      (gather libc service hints tokens memory
          (lists.map (headAddress · none))).partials =
        more.map (headAddress · none) ∧
        Partials base
          (gather libc service hints tokens memory
            (lists.map (headAddress · none))).memory more := by
  induction tokens generalizing memory lists with
  | nil => exact ⟨lists, rfl, ok⟩
  | cons token rest induction =>
      dsimp only [gather]
      split
      · exact ⟨lists, rfl, ok⟩
      · split
        · exact ⟨lists, rfl, ok⟩
        · split
          · exact induction ok
          · split
            · exact ⟨lists, rfl, ok⟩
            · rename_i nodes answered
              have later := induction (ok.answer answered)
              rw [List.map_append] at later
              exact later

/-- An OVERRIDE answer is owned, and a failed lookup leaves the memory as it was. -/
theorem chaosDnsApplyOverride_owning
    (libc : Libc) (coherent : Coherent base) (text name : Bytes)
    (service : Option Bytes) (hints : Option Hints) :
    ∃ enough, ∀ fuel, enough ≤ fuel →
      ∃ after outcome,
        chaosDnsApplyOverride libc fuel base text name service hints =
            some (after, outcome) ∧
          match outcome with
          | .error _ => after = base
          | .ok head => ∃ held canonname nodes, nodes.length ≤ enough ∧
              Owning base after (some held) (some head) canonname nodes := by
  rcases @gather_partials libc base base [] service (numericHints hints)
      (partials_nil base) (commaTokens text) with ⟨lists, heads, ok⟩
  change (gather libc service (numericHints hints) (commaTokens text) base
    []).partials = _ at heads
  change Partials base (gather libc service (numericHints hints) (commaTokens text)
    base []).memory lists at ok
  refine ⟨lists.flatten.length, fun fuel enough => ?_⟩
  dsimp only [chaosDnsApplyOverride]
  split
  · exact ⟨base, .error eaiFail, rfl, rfl⟩
  · split
    · rename_i code failed
      refine ⟨base, .error code, ?_, rfl⟩
      rw [heads, ok.freeAll coherent enough]
      rfl
    · split
      · rename_i none
        have empty : lists = [] := List.map_eq_nil_iff.mp (heads.symm.trans none)
        rw [empty] at ok
        exact ⟨_, .error eaiNoname, rfl, ok.eq_of_nil⟩
      · rw [heads]
        rcases chaosDnsOwnedCopy_partials ok coherent enough
            (if (numericHints hints).flags &&& aiCanonname ≠ 0 then some name
              else none) with ⟨copies, -⟩ | ⟨copied, first, own, held, copies,
                coherentOwn, partials, owning⟩
        · refine ⟨base, .error eaiMemory, ?_, rfl⟩
          rw [copies, Option.bind_some, ok.freeAll coherent enough]
          rfl
        · refine ⟨own, .ok first, ?_, held, _, _, ?_, owning⟩
          · rw [copies, Option.bind_some, partials.freeAll coherentOwn enough]
            rfl
          · rw [← List.length_map Prod.snd, map_snd_copiedNodes, List.length_map,
              List.length_map]

end ChaosLibs.Dns.Override
