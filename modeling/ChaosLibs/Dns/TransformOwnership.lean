import ChaosLibs.Dns.ResultLists

/-!
# What the transforms leave owned

A filter, a cut and a shuffle of a list that a lookup owns leave it owning the nodes
of the wanted family, the first nodes, and the same nodes in another order.
-/

namespace ChaosLibs.Dns.TransformOwnership

open ChaosLibs.Common.CString
open ChaosLibs.Dns.AddressLists
open ChaosLibs.Dns.ConfigParser
open ChaosLibs.Dns.ListOwnership
open ChaosLibs.Dns.OwnedRegistry
open ChaosLibs.Dns.ResultLists
open ChaosLibs.Machine

variable {base memory after : Memory} {block : Option Block}
  {head newHead : Option Nat} {name : Option Bytes}
  {nodes kept left : List (Nat × AddrInfo)} {address : Nat} {fuel : Nat}

/-! ## Fewer nodes -/

/--
The lookup owns a list of fewer nodes of the one that it owned: the others of a real
list are released, the others of a block are still live.
-/
theorem owning_of_owning
    (owning : Owning base memory block head name nodes)
    (linked : Segment after.nodes newHead (withName name left) none)
    (distinct : (addresses left).Nodup)
    (part : ∀ node ∈ left, node ∈ nodes)
    (outside : ∀ address ∉ addresses nodes,
      after.nodes address = memory.nodes address)
    (dropped : ∀ address ∈ addresses nodes, address ∉ addresses left →
      (after.nodes address = none ↔ block = none))
    (owned : after.owned = memory.owned) :
    Owning base after block newHead name left := by
  have partAddress : ∀ address ∈ addresses left, address ∈ addresses nodes := by
    intro address member
    rcases List.mem_map.mp member with ⟨node, inLeft, rfl⟩
    exact mem_addresses_of_mem (part node inLeft)
  have liveLeft : ∀ address ∈ addresses left, after.nodes address ≠ none :=
    fun address member => linked.live (by rwa [addresses_withName])
  have bare : ∀ node ∈ left, node.2.canonname = none :=
    fun node member => owning.bare node (part node member)
  have registered : Registered base.owned after.owned block := by
    rw [owned]
    exact owning.registered
  cases block with
  | none =>
      refine ⟨linked, distinct, bare, fun _ member => member, ?_, ?_, liveLeft,
        registered⟩
      · intro address absent
        by_cases member : address ∈ addresses nodes
        · rw [(dropped address member absent).mpr rfl]
          exact (owning.fresh address member).symm
        · rw [outside address member]
          exact owning.frame address member
      · exact fun address member =>
          owning.fresh address (partAddress address member)
  | some held =>
      refine ⟨linked, distinct, bare,
        fun address member => owning.inside address (partAddress address member),
        ?_, owning.fresh, ?_, registered⟩
      · intro address absent
        have notListed : address ∉ addresses nodes := fun member =>
          absent (owning.inside address member)
        rw [outside address notListed]
        exact owning.frame address absent
      · intro address member
        by_cases listed : address ∈ addresses nodes
        · by_cases stays : address ∈ addresses left
          · exact liveLeft address stays
          · exact fun gone =>
              absurd ((dropped address listed stays).mp gone) (Option.some_ne_none _)
        · rw [outside address listed]
          exact owning.live address member

/-- The nodes of these addresses are released if they are real. -/
def release (block : Option Block) (released : List Nat) (cells : Cells AddrInfo) :
    Cells AddrInfo :=
  if block = none then clear released cells else cells

theorem release_of_not_mem
    {released : List Nat} (cells : Cells AddrInfo) (outside : address ∉ released) :
    release block released cells address = cells address := by
  dsimp only [release]
  split
  · exact clear_of_not_mem cells outside
  · rfl

theorem release_eq_none_iff
    {released : List Nat} {cells : Cells AddrInfo} (member : address ∈ released)
    (live : cells address ≠ none) :
    release block released cells address = none ↔ block = none := by
  dsimp only [release]
  split
  · rename_i real
    exact iff_of_true (clear_of_mem cells member) real
  · rename_i notReal
    exact iff_of_false live notReal

/-- The nodes that are taken out of the list are released, if they are real. -/
theorem chaosDnsCallRealFreeaddrinfo_segment
    (owning : Owning base memory block head name nodes) (coherent : Coherent base)
    (owned : after.owned = memory.owned)
    {taken : Option Nat} {listed : List (Nat × AddrInfo)}
    (segment : Segment after.nodes taken listed none)
    (distinct : (addresses listed).Nodup)
    (part : ∀ address ∈ addresses listed, address ∈ addresses nodes)
    (enough : listed.length ≤ fuel) :
    chaosDnsCallRealFreeaddrinfo fuel after taken =
      some { after with nodes := release block (addresses listed) after.nodes } := by
  have contained : ∀ address ∈ addresses listed,
      chaosDnsOwnedContains after (some address) = block.isSome := by
    intro address member
    rw [← owning.contains coherent (owning.inside address (part address member))]
    dsimp only [chaosDnsOwnedContains, chaosDnsOwnedFind]
    rw [owned]
  cases listed with
  | nil =>
      cases segment
      have same : release block [] after.nodes = after.nodes :=
        funext fun _ => release_of_not_mem _ List.not_mem_nil
      rw [addresses_nil, same]
      exact if_pos (Or.inl rfl)
  | cons node rest =>
      have here : taken = some node.1 := segment.1
      have first := contained node.1 List.mem_cons_self
      cases block with
      | none =>
          refine (if_neg ?_).trans (realFreeaddrinfo_segment segment distinct
            (fun address member => contained address member) enough)
          rw [here, first]
          rintro (absent | contains)
          · cases absent
          · cases contains
      | some held =>
          refine if_pos (Or.inr ?_)
          rw [here, first]
          rfl

/-! ## Stores into the nodes of a list -/

theorem setNext_of_cell
    {content : AddrInfo} {before : Option Nat}
    (cell : memory.nodes address = some ⟨content, before⟩) (next : Option Nat) :
    setNext memory address next =
      some
        { memory with
          nodes := Function.update memory.nodes address (some ⟨content, next⟩) } := by
  dsimp only [setNext]
  rw [cell]
  rfl

theorem setCanonname_of_cell
    {content : AddrInfo} {next : Option Nat}
    (cell : memory.nodes address = some ⟨content, next⟩)
    (canonname : Option Bytes) :
    setCanonname memory address canonname =
      some
        { memory with
          nodes :=
            Function.update memory.nodes address
              (some ⟨{ content with canonname := canonname }, next⟩) } := by
  dsimp only [setCanonname]
  rw [cell]
  rfl

theorem withName_append_of_ne_nil (notEmpty : kept ≠ []) :
    withName name (kept ++ left) = withName name kept ++ left := by
  cases kept with
  | nil => exact absurd rfl notEmpty
  | cons node rest => rfl

/-! ## FILTER_FAMILY -/

variable {node : Nat × AddrInfo} {rest : List (Nat × AddrInfo)}

theorem exists_withName_append (name : Option Bytes)
    (kept : List (Nat × AddrInfo)) (node : Nat × AddrInfo) :
    ∃ before, ∀ rest,
      withName name (kept ++ node :: rest) =
        before ++
          (node.1, if kept = [] then { node.2 with canonname := name } else node.2) ::
            rest := by
  cases kept with
  | nil => exact ⟨[], fun _ => rfl⟩
  | cons first others =>
      exact ⟨(first.1, { first.2 with canonname := name }) :: others, fun _ => rfl⟩

/-- The cell of a node that follows others. -/
theorem Owning.cell
    (owning : Owning base memory block head name (kept ++ node :: rest)) :
    memory.nodes node.1 =
      some
        ⟨if kept = [] then { node.2 with canonname := name } else node.2,
          headAddress rest none⟩ := by
  rcases exists_withName_append name kept node with ⟨before, same⟩
  have linked := owning.linked
  rw [same] at linked
  exact linked.cell

/-- A node that is out of the list is isolated and released. -/
theorem release_isolated
    (owning : Owning base memory block head name nodes) (coherent : Coherent base)
    {content : AddrInfo} {next : Option Nat}
    (cell : after.nodes node.1 = some ⟨content, next⟩)
    (linked : Segment after.nodes newHead (withName name left) none)
    (distinct : (addresses left).Nodup)
    (split : (addresses nodes).Perm (node.1 :: addresses left))
    (part : ∀ other ∈ left, other ∈ nodes)
    (outside : ∀ address ∉ addresses nodes,
      after.nodes address = memory.nodes address)
    (owned : after.owned = memory.owned) :
    ∃ released,
      ((setNext after node.1 none).bind fun isolated =>
        (chaosDnsCallRealFreeaddrinfo (fuel + 1) isolated (some node.1)).map
          fun freed => (freed, newHead)) = some (released, newHead) ∧
        Owning base released block newHead name left := by
  have inside : node.1 ∈ addresses nodes := split.mem_iff.mpr List.mem_cons_self
  have absent : node.1 ∉ addresses left :=
    (List.nodup_cons.mp (split.nodup_iff.mp owning.distinct)).1
  have isolated : Segment
      (Function.update after.nodes node.1 (some ⟨content, none⟩)) (some node.1)
      [(node.1, content)] none :=
    ⟨rfl, none, Function.update_self _ _ _, rfl⟩
  have released := @chaosDnsCallRealFreeaddrinfo_segment base memory
    { after with
      nodes := Function.update after.nodes node.1 (some ⟨content, none⟩) }
    block head name nodes (fuel + 1) owning coherent owned (some node.1)
    [(node.1, content)] isolated (List.nodup_singleton _)
    (fun address member => by
      cases List.mem_singleton.mp member
      exact inside)
    (Nat.succ_le_succ (Nat.zero_le fuel))
  refine
    ⟨{ after with
        nodes :=
          release block [node.1]
            (Function.update after.nodes node.1 (some ⟨content, none⟩)) }, ?_, ?_⟩
  · rw [setNext_of_cell cell none, Option.bind_some, released]
    rfl
  · have kept : ∀ address, address ≠ node.1 →
        release block [node.1]
          (Function.update after.nodes node.1 (some ⟨content, none⟩)) address =
            after.nodes address := by
      intro address different
      rw [release_of_not_mem _ (mt List.mem_singleton.mp different)]
      exact Function.update_of_ne different _ _
    refine owning_of_owning owning ?_ distinct part ?_ ?_ owned
    · refine linked.congr fun address member => kept address ?_
      rintro rfl
      rw [addresses_withName] at member
      exact absent member
    · intro address notListed
      rw [← outside address notListed]
      refine kept address ?_
      rintro rfl
      exact notListed inside
    · intro address listed stays
      have same : address = node.1 :=
        (List.mem_cons.mp (split.mem_iff.mp listed)).resolve_right stays
      rw [same]
      refine release_eq_none_iff List.mem_cons_self ?_
      rw [Function.update_self]
      exact Option.some_ne_none _

/-- The name of a dropped first node is on the next one, and nothing else changes. -/
theorem handOnName_first
    (owning : Owning base memory block head name (node :: rest)) :
    ∃ named content,
      handOnName memory node.1
          ⟨{ node.2 with canonname := name }, headAddress rest none⟩ = some named ∧
        named.nodes node.1 = some ⟨content, headAddress rest none⟩ ∧
        Segment named.nodes (headAddress rest none) (withName name rest) none ∧
        (∀ address ∉ addresses (node :: rest),
          named.nodes address = memory.nodes address) ∧
        named.owned = memory.owned := by
  have linked := owning.linked
  have distinct := owning.distinct
  rcases linked with ⟨-, next, cell, later⟩
  rw [later.head_eq] at cell later
  cases name with
  | none =>
      have bareRest : ∀ other ∈ rest, other.2.canonname = none :=
        fun other member => owning.bare other (List.mem_cons_of_mem _ member)
      rw [withName_none_of_bare bareRest]
      exact ⟨memory, _, rfl, cell, later, fun _ _ => rfl, rfl⟩
  | some text =>
      cases rest with
      | nil => exact ⟨memory, _, rfl, cell, rfl, fun _ _ => rfl, rfl⟩
      | cons second others =>
          have bare : second.2.canonname = none :=
            owning.bare second (List.mem_cons_of_mem _ List.mem_cons_self)
          have different : node.1 ≠ second.1 := fun same =>
            (List.nodup_cons.mp distinct).1 (same ▸ List.mem_cons_self)
          rcases id later with ⟨-, afterSecond, secondCell, tail⟩
          have named : Segment
              (Function.update memory.nodes second.1
                (some ⟨{ second.2 with canonname := some text },
                  headAddress others none⟩))
              (some second.1) (withName (some text) (second :: others)) none :=
            later.setHead (List.nodup_cons.mp distinct).2 _
          rw [tail.head_eq] at secondCell
          have cellAfter : Function.update memory.nodes second.1
              (some ⟨{ second.2 with canonname := some text },
                headAddress others none⟩) node.1 =
              some ⟨{ node.2 with canonname := some text }, some second.1⟩ :=
            (Function.update_of_ne different _ _).trans cell
          refine
            ⟨{ memory with
                nodes :=
                  Function.update
                    (Function.update memory.nodes second.1
                      (some ⟨{ second.2 with canonname := some text },
                        headAddress others none⟩)) node.1
                    (some ⟨{ node.2 with canonname := none }, some second.1⟩) },
              { node.2 with canonname := none }, ?_, Function.update_self _ _ _,
              ?_, ?_, rfl⟩
          · have read : memory.nodes second.1 =
                some ⟨second.2, headAddress others none⟩ := secondCell
            dsimp only [handOnName, headAddress]
            rw [read]
            dsimp only
            rw [if_pos bare, setCanonname_of_cell read, Option.bind_some,
              setCanonname_of_cell cellAfter]
            rfl
          · refine named.update_of_not_mem ?_ _
            rw [addresses_withName]
            exact (List.nodup_cons.mp distinct).1
          · intro address outside
            rcases not_or.mp (mt List.mem_cons.mpr outside) with ⟨notFirst, notLater⟩
            rcases not_or.mp (mt List.mem_cons.mpr notLater) with ⟨notSecond, -⟩
            exact (Function.update_of_ne notFirst _ _).trans
              (Function.update_of_ne notSecond _ _)

/-- What is left when a node is dropped. -/
theorem dropNode_owning
    (owning : Owning base memory block head name (kept ++ node :: rest))
    (coherent : Coherent base) (fuel : Nat) :
    ∃ released newResult,
      dropNode (fuel + 1) memory head (kept.getLast?.map Prod.fst) node.1
          ⟨if kept = [] then { node.2 with canonname := name } else node.2,
            headAddress rest none⟩ = some (released, newResult) ∧
        Owning base released block newResult name (kept ++ rest) := by
  have split : (addresses (kept ++ node :: rest)).Perm
      (node.1 :: addresses (kept ++ rest)) := by
    rw [addresses_append, addresses_append]
    exact List.perm_middle
  have distinct : (addresses (kept ++ rest)).Nodup :=
    (List.nodup_cons.mp (split.nodup_iff.mp owning.distinct)).2
  have part : ∀ other ∈ kept ++ rest, other ∈ kept ++ node :: rest := by
    intro other member
    rcases List.mem_append.mp member with before | after
    · exact List.mem_append_left _ before
    · exact List.mem_append_right _ (List.mem_cons_of_mem _ after)
  rcases List.eq_nil_or_concat kept with rfl | ⟨before, last, rfl⟩
  · rcases handOnName_first owning with
      ⟨named, content, handed, cell, linked, outside, owned⟩
    rcases @release_isolated base memory named block head
        (headAddress rest none) name _ rest fuel node owning coherent content _ cell
        linked distinct split part outside owned with ⟨released, freed, left⟩
    refine ⟨released, headAddress rest none, ?_, left⟩
    rw [if_pos rfl]
    dsimp only [dropNode]
    rw [handed]
    exact freed
  · rw [List.concat_eq_append] at owning split distinct part ⊢
    have notEmpty : before ++ [last] ≠ [] :=
      List.append_ne_nil_of_right_ne_nil _ (List.cons_ne_nil _ _)
    have cell := Owning.cell owning
    rw [if_neg notEmpty] at cell ⊢
    have bare : node.2.canonname = none :=
      owning.bare node (List.mem_append_right _ List.mem_cons_self)
    rcases exists_withName_append name before last with ⟨others, named⟩
    have whole : ∀ later : List (Nat × AddrInfo),
        withName name (before ++ [last] ++ later) =
          others ++
            [(last.1, if before = [] then { last.2 with canonname := name }
              else last.2)] ++ later := by
      intro later
      rw [withName_append_of_ne_nil notEmpty, named]
    have linked := owning.linked
    have distinctAll := owning.distinct
    rw [← addresses_withName name] at distinctAll
    rw [whole] at linked distinctAll
    have lastCell := Owning.cell (by rw [List.append_assoc] at owning; exact owning)
    have shortened := linked.unlink distinctAll
    have lastInside : last.1 ∈ addresses (before ++ [last] ++ rest) := by
      rw [addresses_append, addresses_append]
      exact List.mem_append_left _ (List.mem_append_right _ List.mem_cons_self)
    have different : node.1 ≠ last.1 := by
      intro same
      rw [← same] at lastInside
      exact (List.nodup_cons.mp (split.nodup_iff.mp owning.distinct)).1 lastInside
    have handed : handOnName memory node.1 ⟨node.2, headAddress rest none⟩ =
        some memory := by
      dsimp only [handOnName]
      rw [bare]
    have previous : (before ++ [last]).getLast?.map Prod.fst = some last.1 := by
      rw [List.getLast?_concat]
      rfl
    have unchanged : ∀ address ∉ addresses (before ++ [last] ++ node :: rest),
        Function.update memory.nodes last.1
            (some
              ⟨if before = [] then { last.2 with canonname := name } else last.2,
                headAddress rest none⟩) address = memory.nodes address := by
      intro address outside
      refine Function.update_of_ne ?_ _ _
      rintro rfl
      exact outside (split.mem_iff.mpr (List.mem_cons_of_mem _ lastInside))
    rcases @release_isolated base memory
        { memory with
          nodes :=
            Function.update memory.nodes last.1
              (some
                ⟨if before = [] then { last.2 with canonname := name } else last.2,
                  headAddress rest none⟩) }
        block head head name _ (before ++ [last] ++ rest) fuel node owning coherent
        node.2 _ ((Function.update_of_ne different _ _).trans cell)
        (by rw [whole]; exact shortened) distinct split part
        unchanged rfl
      with ⟨released, freed, left⟩
    refine ⟨released, head, ?_, left⟩
    dsimp only [dropNode]
    rw [handed, previous, Option.bind_some]
    dsimp only [unlink]
    rw [setNext_of_cell lastCell, Option.map_some, Option.bind_some]
    exact freed

/-- The loop leaves the nodes of the wanted family. -/
theorem filterLoop_owning
    (owning : Owning base memory block head name (kept ++ rest))
    (coherent : Coherent base) (wanted : Int) (enough : rest.length ≤ fuel) :
    ∃ released newHead,
      filterLoop wanted fuel memory head (kept.getLast?.map Prod.fst)
          (headAddress rest none) = some (released, newHead) ∧
        Owning base released block newHead name
          (kept ++ rest.filter fun node => node.2.family = wanted) := by
  induction rest generalizing memory head kept fuel with
  | nil =>
      refine ⟨memory, head, ?_, owning⟩
      cases fuel <;> rfl
  | cons node rest induction =>
      cases fuel with
      | zero => cases enough
      | succ fuel =>
          have enoughRest : rest.length ≤ fuel := Nat.le_of_succ_le_succ enough
          have cell := Owning.cell owning
          have sameFamily : (if kept = [] then { node.2 with canonname := name }
              else node.2).family = node.2.family := by
            split <;> rfl
          by_cases unwanted : node.2.family ≠ wanted
          · rcases dropNode_owning owning coherent fuel with
              ⟨dropped, droppedHead, drops, owningDropped⟩
            rcases induction owningDropped enoughRest with
              ⟨released, newHead, loops, left⟩
            refine ⟨released, newHead, ?_, ?_⟩
            · dsimp only [filterLoop, headAddress]
              rw [cell]
              dsimp only
              rw [sameFamily, if_pos unwanted, drops, Option.bind_some]
              exact loops
            · rw [List.filter_cons_of_neg (by simpa using unwanted)]
              exact left
          · have moved : kept ++ node :: rest = (kept ++ [node]) ++ rest := by
              rw [List.append_assoc]
              rfl
            rw [moved] at owning
            rcases induction owning enoughRest with
              ⟨released, newHead, loops, left⟩
            refine ⟨released, newHead, ?_, ?_⟩
            · dsimp only [filterLoop, headAddress]
              rw [cell]
              dsimp only
              rw [sameFamily, if_neg unwanted]
              rw [List.getLast?_concat] at loops
              exact loops
            · rw [List.filter_cons_of_pos (by simpa using unwanted)]
              rw [List.append_assoc] at left
              exact left

/-- FILTER_FAMILY keeps the nodes of its family. -/
theorem chaosDnsFilterResultList_owning
    (owning : Owning base memory block head name nodes) (coherent : Coherent base)
    {family : ChaosDnsFamilyFilter} (filters : family ≠ .any)
    (enough : nodes.length ≤ fuel) :
    ∃ released newHead,
      chaosDnsFilterResultList fuel memory head family =
          some (released, newHead, newHead.isSome) ∧
        Owning base released block newHead name
          (nodes.filter fun node => node.2.family = wantedFamily family) := by
  have start : head = headAddress nodes none := by
    rw [owning.linked.head_eq]
    cases nodes with
    | nil => rfl
    | cons node rest => rfl
  cases nodes with
  | nil =>
      refine ⟨memory, none, ?_, ?_⟩
      · rw [start]
        exact if_pos (Or.inl rfl)
      · rw [start] at owning
        exact owning
  | cons node rest =>
      rcases @filterLoop_owning base memory block head name [] fuel (node :: rest)
          owning coherent (wantedFamily family) enough with
        ⟨released, newHead, loops, left⟩
      refine ⟨released, newHead, ?_, left⟩
      have list : ¬ (head = none ∨ family = .any) := by
        rw [start]
        rintro (absent | isAny)
        · cases absent
        · exact filters isAny
      dsimp only [chaosDnsFilterResultList]
      rw [if_neg list, start]
      rw [start] at loops
      exact congrArg _ loops

/-! ## LIMIT -/

/-- The nodes after the last one that is kept are cut off and released. -/
theorem cut_owning
    (owning : Owning base memory block head name (kept ++ node :: rest))
    (coherent : Coherent base) (enough : rest.length ≤ fuel) :
    ∃ released,
      ((setNext memory node.1 none).bind fun cut =>
        chaosDnsCallRealFreeaddrinfo fuel cut (headAddress rest none)) =
          some released ∧
        Owning base released block head name (kept ++ [node]) := by
  rcases exists_withName_append name kept node with ⟨before, named⟩
  have cell := Owning.cell owning
  have distinct := owning.distinct
  have linked := owning.linked
  rw [← addresses_withName name, named] at distinct
  rw [named] at linked
  have all : (addresses (kept ++ [node]) ++ addresses rest).Nodup := by
    rw [← addresses_append, List.append_assoc]
    exact owning.distinct
  rw [List.nodup_append] at all
  rcases all with ⟨distinctKept, distinctRest, apart⟩
  have inKept : node.1 ∈ addresses (kept ++ [node]) := by
    rw [addresses_append]
    exact List.mem_append_right _ List.mem_cons_self
  have partRest : ∀ address ∈ addresses rest,
      address ∈ addresses (kept ++ node :: rest) := by
    intro address member
    rw [addresses_append]
    exact List.mem_append_right _ (List.mem_cons_of_mem _ member)
  rcases linked.cut distinct with ⟨linkedKept, linkedRest⟩
  rw [← named []] at linkedKept
  have released := @chaosDnsCallRealFreeaddrinfo_segment base memory
    { memory with
      nodes :=
        Function.update memory.nodes node.1
          (some
            ⟨if kept = [] then { node.2 with canonname := name } else node.2,
              none⟩) }
    block head name _ fuel owning coherent rfl (headAddress rest none) rest linkedRest
    distinctRest partRest enough
  refine ⟨_, (congrArg (Option.bind · _) (setNext_of_cell cell none)).trans released, ?_⟩
  have split : ∀ address, address ∈ addresses (kept ++ node :: rest) ↔
      address ∈ addresses (kept ++ [node]) ∨ address ∈ addresses rest := by
    intro address
    rw [← List.mem_append, ← addresses_append, List.append_assoc]
    rfl
  refine owning_of_owning owning ?_ distinctKept ?_ ?_ ?_ rfl
  · refine linkedKept.congr fun address member => release_of_not_mem _ fun inRest => ?_
    rw [addresses_withName] at member
    exact apart address member address inRest rfl
  · intro other member
    rcases List.mem_append.mp member with before | last
    · exact List.mem_append_left _ before
    · rw [List.mem_singleton.mp last]
      exact List.mem_append_right _ List.mem_cons_self
  · intro address notListed
    rcases not_or.mp (mt (split address).mpr notListed) with ⟨notKept, notRest⟩
    refine (release_of_not_mem _ notRest).trans (Function.update_of_ne ?_ _ _)
    rintro rfl
    exact notKept inKept
  · intro address listed notKept
    have inRest := ((split address).mp listed).resolve_left notKept
    exact release_eq_none_iff inRest (linkedRest.live inRest)

/-- The loop leaves the first nodes. -/
theorem limitLoop_owning
    {limit : Nat} (owning : Owning base memory block head name (kept ++ rest))
    (coherent : Coherent base) (room : kept.length < limit)
    (enough : rest.length ≤ fuel) :
    ∃ released,
      limitLoop limit fuel memory (headAddress rest none) kept.length =
          some released ∧
        Owning base released block head name ((kept ++ rest).take limit) := by
  induction rest generalizing kept fuel with
  | nil =>
      refine ⟨memory, ?_, ?_⟩
      · cases fuel <;> rfl
      · rw [List.take_of_length_le]
        · exact owning
        · rw [List.append_nil]
          exact Nat.le_of_lt room
  | cons node rest induction =>
      cases fuel with
      | zero => cases enough
      | succ fuel =>
          have enoughRest : rest.length ≤ fuel := Nat.le_of_succ_le_succ enough
          have cell := Owning.cell owning
          have moved : kept ++ node :: rest = (kept ++ [node]) ++ rest := by
            rw [List.append_assoc]
            rfl
          have longer : (kept ++ [node]).length = kept.length + 1 := by
            rw [List.length_append]
            rfl
          by_cases last : kept.length + 1 = limit
          · rcases cut_owning owning coherent enoughRest with ⟨released, cuts, left⟩
            refine ⟨released, ?_, ?_⟩
            · dsimp only [limitLoop, headAddress]
              rw [cell]
              dsimp only
              rw [if_pos last]
              exact cuts
            · rw [moved, List.take_append_of_le_length (last ▸ longer.ge),
                List.take_of_length_le (last ▸ longer.le)]
              exact left
          · rw [moved] at owning
            have roomNext : (kept ++ [node]).length < limit := by
              rw [longer]
              exact Nat.lt_of_le_of_ne room last
            rcases induction owning roomNext enoughRest with ⟨released, loops, left⟩
            refine ⟨released, ?_, ?_⟩
            · dsimp only [limitLoop, headAddress]
              rw [cell]
              dsimp only
              rw [if_neg last]
              rw [longer] at loops
              exact loops
            · rw [moved]
              exact left

/-- LIMIT keeps the first nodes. -/
theorem chaosDnsLimitResultList_owning
    (owning : Owning base memory block head name nodes) (coherent : Coherent base)
    (limit : Nat) (enough : nodes.length ≤ fuel) :
    ∃ released newHead,
      chaosDnsLimitResultList fuel memory head limit = some (released, newHead) ∧
        Owning base released block newHead name (nodes.take limit) := by
  have start := owning.linked.head_eq
  cases nodes with
  | nil =>
      cases start
      refine ⟨memory, none, if_pos rfl, ?_⟩
      rw [List.take_nil]
      exact owning
  | cons node rest =>
      have list : head ≠ none := by
        rw [start]
        exact Option.some_ne_none _
      by_cases zero : limit = 0
      · have distinct := owning.distinct
        rw [← addresses_withName name] at distinct
        have released := chaosDnsCallRealFreeaddrinfo_segment owning coherent rfl
          owning.linked distinct
          (fun address member => by rwa [addresses_withName] at member) enough
        refine ⟨{ memory with
          nodes := release block (addresses (withName name (node :: rest)))
            memory.nodes }, none, ?_, ?_⟩
        · dsimp only [chaosDnsLimitResultList]
          rw [if_neg list, if_pos zero, released]
          rfl
        · rw [zero, List.take_zero]
          refine owning_of_owning owning rfl List.nodup_nil nofun ?_ ?_ rfl
          · exact fun address outside => release_of_not_mem _ outside
          · exact fun address listed _ =>
              release_eq_none_iff listed (owning.live address
                (owning.inside address listed))
      · rcases @limitLoop_owning base memory block head name [] fuel (node :: rest)
            limit owning coherent (Nat.pos_of_ne_zero zero) enough with
          ⟨released, loops, left⟩
        refine ⟨released, head, ?_, left⟩
        dsimp only [chaosDnsLimitResultList]
        rw [if_neg list, if_neg zero, start]
        exact congrArg _ loops

/-! ## SHUFFLE -/

/-- The sweep only swaps. -/
theorem sweep_perm (draws : Nat → UInt32) (index : Nat) (found : Array Nat) :
    (sweep draws index found).toList.Perm found.toList := by
  induction index generalizing found with
  | zero => exact List.Perm.refl _
  | succ index induction =>
      refine (induction _).trans ?_
      dsimp only [Array.swapIfInBounds]
      split
      · split
        · exact (Array.swap_perm _ _).toList
        · exact List.Perm.refl _
      · exact List.Perm.refl _

theorem chaosDnsResultCount_segment
    {listed : List (Nat × AddrInfo)}
    (segment : Segment memory.nodes head listed none)
    (enough : listed.length ≤ fuel) :
    chaosDnsResultCount fuel memory head = some listed.length := by
  induction listed generalizing head fuel with
  | nil =>
      cases segment
      cases fuel <;> rfl
  | cons node rest induction =>
      rcases segment with ⟨rfl, next, cell, later⟩
      cases fuel with
      | zero => cases enough
      | succ fuel =>
          dsimp only [chaosDnsResultCount]
          rw [cell]
          dsimp only
          rw [induction later (Nat.le_of_succ_le_succ enough)]
          rfl

theorem collect_segment
    {listed : List (Nat × AddrInfo)}
    (segment : Segment memory.nodes head listed none) :
    collect memory listed.length head = some (addresses listed) := by
  induction listed generalizing head with
  | nil => rfl
  | cons node rest induction =>
      rcases segment with ⟨rfl, next, cell, later⟩
      dsimp only [collect, List.length_cons]
      rw [cell]
      dsimp only
      rw [induction later]
      rfl

/-- The nodes are linked in the order they are given in. -/
theorem relink_linked
    {listed : List (Nat × AddrInfo)} (distinct : (addresses listed).Nodup)
    (cells : ∀ node ∈ listed, ∃ next, memory.nodes node.1 = some ⟨node.2, next⟩) :
    ∃ after, relink (addresses listed) memory = some after ∧
      Segment after.nodes (headAddress listed none) listed none ∧
      (∀ address ∉ addresses listed,
        after.nodes address = memory.nodes address) ∧
      after.owned = memory.owned := by
  induction listed generalizing memory with
  | nil => exact ⟨memory, rfl, rfl, fun _ _ => rfl, rfl⟩
  | cons node rest induction =>
      rcases cells node List.mem_cons_self with ⟨before, cell⟩
      rcases List.nodup_cons.mp distinct with ⟨outside, distinctRest⟩
      cases rest with
      | nil =>
          refine ⟨_, setNext_of_cell cell none,
            ⟨rfl, none, Function.update_self _ _ _, rfl⟩, ?_, rfl⟩
          intro address absent
          exact Function.update_of_ne (mt List.mem_singleton.mpr absent) _ _
      | cons second others =>
          have kept : ∀ other ∈ second :: others, ∃ next,
              Function.update memory.nodes node.1 (some ⟨node.2, some second.1⟩)
                other.1 = some ⟨other.2, next⟩ := by
            intro other member
            have different : other.1 ≠ node.1 := fun same =>
              outside (same ▸ mem_addresses_of_mem member)
            rw [Function.update_of_ne different]
            exact cells other (List.mem_cons_of_mem _ member)
          rcases @induction
              { memory with
                nodes :=
                  Function.update memory.nodes node.1
                    (some ⟨node.2, some second.1⟩) }
              distinctRest kept with ⟨after, links, linked, unchanged, owned⟩
          refine ⟨after, ?_, ⟨rfl, some second.1, ?_, linked⟩, ?_, owned⟩
          · change (setNext memory node.1 (some second.1)).bind
              (relink (addresses (second :: others))) = some after
            rw [setNext_of_cell cell, Option.bind_some]
            exact links
          · rw [unchanged node.1 outside]
            exact Function.update_self _ _ _
          · intro address absent
            rcases not_or.mp (mt List.mem_cons.mpr absent) with ⟨notFirst, notLater⟩
            rw [unchanged address notLater]
            exact Function.update_of_ne notFirst _ _

/-- The name goes from the old head to the first node of another order. -/
theorem swapNames_owning
    {first : Nat × AddrInfo}
    (owning : Owning base memory block head name (node :: rest))
    (perm : (first :: left).Perm (node :: rest)) :
    ∃ named, swapNames memory node.1 first.1 = some named ∧
      (∀ other ∈ withName name (first :: left),
        ∃ next, named.nodes other.1 = some ⟨other.2, next⟩) ∧
      (∀ address ∉ addresses (node :: rest),
        named.nodes address = memory.nodes address) ∧
      named.owned = memory.owned := by
  rcases owning.linked with ⟨-, nodeNext, nodeCell, later⟩
  have distinct : (addresses (first :: left)).Nodup :=
    ((perm.map Prod.fst).nodup_iff).mpr owning.distinct
  have bare : ∀ other ∈ first :: left, other.2.canonname = none :=
    fun other member => owning.bare other (perm.mem_iff.mp member)
  -- A node that is not the old head has no name.
  have plain : ∀ other ∈ first :: left, other.1 ≠ node.1 →
      ∃ next, memory.nodes other.1 = some ⟨other.2, next⟩ := by
    intro other member different
    rcases List.mem_cons.mp (perm.mem_iff.mp member) with rfl | inRest
    · exact absurd rfl different
    · exact later.exists_cell inRest
  have sameNode : ∀ other ∈ first :: left, other.1 = node.1 → other = node := by
    intro other member same
    rcases List.mem_cons.mp (perm.mem_iff.mp member) with here | inRest
    · exact here
    · exact absurd (same ▸ mem_addresses_of_mem inRest)
        (List.nodup_cons.mp owning.distinct).1
  have firstInside : first.1 ∈ addresses (node :: rest) :=
    mem_addresses_of_mem (perm.mem_iff.mp List.mem_cons_self)
  have apart : ∀ other ∈ left, other.1 ≠ first.1 := fun other member same =>
    (List.nodup_cons.mp distinct).1 (same ▸ mem_addresses_of_mem member)
  by_cases same : first.1 = node.1
  · cases sameNode first List.mem_cons_self same
    have cellAfter : Function.update memory.nodes node.1
        (some ⟨{ node.2 with canonname := name }, nodeNext⟩) node.1 =
          some ⟨{ node.2 with canonname := name }, nodeNext⟩ :=
      Function.update_self _ _ _
    refine
      ⟨{ memory with
          nodes :=
            Function.update
              (Function.update memory.nodes node.1
                (some ⟨{ node.2 with canonname := name }, nodeNext⟩)) node.1
              (some ⟨{ node.2 with canonname := name }, nodeNext⟩) },
        ?_, ?_, ?_, rfl⟩
    · dsimp only [swapNames]
      rw [nodeCell, Option.bind_some, Option.bind_some, setCanonname_of_cell nodeCell,
        Option.bind_some, setCanonname_of_cell cellAfter]
    · intro other member
      rcases List.mem_cons.mp member with rfl | inLeft
      · exact ⟨nodeNext, Function.update_self _ _ _⟩
      · have different := apart other inLeft
        dsimp only
        rw [Function.update_of_ne different, Function.update_of_ne different]
        exact plain other (List.mem_cons_of_mem _ inLeft) different
    · intro address outside
      have different : address ≠ node.1 := fun equal =>
        outside (equal ▸ firstInside)
      exact (Function.update_of_ne different _ _).trans
        (Function.update_of_ne different _ _)
  · rcases plain first List.mem_cons_self same with ⟨firstNext, firstCell⟩
    have firstBare := bare first List.mem_cons_self
    have nodeBare := owning.bare node List.mem_cons_self
    have unnamed : { node.2 with canonname := first.2.canonname } = node.2 := by
      rw [firstBare, ← nodeBare]
    have cellAfter : Function.update memory.nodes node.1
        (some ⟨node.2, nodeNext⟩) first.1 = some ⟨first.2, firstNext⟩ :=
      (Function.update_of_ne same _ _).trans firstCell
    refine
      ⟨{ memory with
          nodes :=
            Function.update
              (Function.update memory.nodes node.1 (some ⟨node.2, nodeNext⟩)) first.1
              (some ⟨{ first.2 with canonname := name }, firstNext⟩) },
        ?_, ?_, ?_, rfl⟩
    · have unnamedCell := setCanonname_of_cell nodeCell first.2.canonname
      dsimp only at unnamedCell
      rw [unnamed] at unnamedCell
      dsimp only [swapNames]
      rw [nodeCell, Option.bind_some, firstCell, Option.bind_some, unnamedCell,
        Option.bind_some, setCanonname_of_cell cellAfter]
    · intro other member
      rcases List.mem_cons.mp member with rfl | inLeft
      · exact ⟨firstNext, Function.update_self _ _ _⟩
      · dsimp only
        rw [Function.update_of_ne (apart other inLeft)]
        by_cases old : other.1 = node.1
        · cases sameNode other (List.mem_cons_of_mem _ inLeft) old
          exact ⟨nodeNext, Function.update_self _ _ _⟩
        · rw [Function.update_of_ne old]
          exact plain other (List.mem_cons_of_mem _ inLeft) old
    · intro address outside
      have notFirst : address ≠ first.1 := fun equal =>
        outside (equal ▸ firstInside)
      have notNode : address ≠ node.1 := fun equal =>
        outside (equal ▸ List.mem_cons_self)
      exact (Function.update_of_ne notFirst _ _).trans
        (Function.update_of_ne notNode _ _)

/-- SHUFFLE leaves the same nodes in some order. -/
theorem chaosDnsShuffleResultList_owning
    (owning : Owning base memory block head name nodes) (room : Bool)
    (draws : Nat → UInt32) (enough : nodes.length ≤ fuel) :
    ∃ released newHead left,
      chaosDnsShuffleResultList fuel room draws memory head =
          some (released, newHead) ∧
        left.Perm nodes ∧ Owning base released block newHead name left := by
  have start := owning.linked.head_eq
  cases nodes with
  | nil =>
      cases start
      exact ⟨memory, none, [], rfl, List.Perm.refl _, owning⟩
  | cons node rest =>
      have counted := chaosDnsResultCount_segment owning.linked enough
      have found := collect_segment owning.linked
      rw [addresses_withName] at found
      have start : head = some node.1 := start
      rw [start] at counted found
      by_cases short : (withName name (node :: rest)).length < 2 ∨ room = false
      · refine ⟨memory, head, node :: rest, ?_, List.Perm.refl _, owning⟩
        rw [start]
        dsimp only [chaosDnsShuffleResultList]
        rw [counted, Option.bind_some, if_pos short]
      · have swept := sweep_perm draws ((withName name (node :: rest)).length - 1)
          (addresses (node :: rest)).toArray
        rw [List.toList_toArray] at swept
        -- The order of the addresses is one of the nodes.
        have composed := congrFun (congrFun (@List.eq_map_comp_perm _ _ Prod.fst)
          (sweep draws ((withName name (node :: rest)).length - 1)
            (addresses (node :: rest)).toArray).toList) (node :: rest)
        rcases (of_eq_true ((composed.trans (eq_true swept)))) with
          ⟨left, order, perm⟩
        cases left with
        | nil => exact absurd perm.symm.eq_nil (List.cons_ne_nil _ _)
        | cons first others =>
            rcases swapNames_owning owning perm with
              ⟨named, swaps, cells, unchanged, owned⟩
            have distinct : (addresses (first :: others)).Nodup :=
              ((perm.map Prod.fst).nodup_iff).mpr owning.distinct
            have members : ∀ address, address ∈ addresses (first :: others) ↔
                address ∈ addresses (node :: rest) := fun address =>
              (perm.map Prod.fst).mem_iff
            rcases relink_linked (by rw [addresses_withName]; exact distinct) cells
              with ⟨after, links, linked, kept, sameOwned⟩
            rw [addresses_withName] at links kept
            refine ⟨after, some first.1, first :: others, ?_, perm, ?_⟩
            · rw [start]
              dsimp only [chaosDnsShuffleResultList]
              rw [counted, Option.bind_some, if_neg short, found, Option.bind_some,
                order, List.map_cons]
              dsimp only
              rw [swaps, Option.bind_some]
              exact congrArg _ links
            · refine owning_of_owning owning linked distinct
                (fun other member => perm.mem_iff.mp member) ?_ ?_
                (sameOwned.trans owned)
              · intro address outside
                rw [kept address (mt (members address).mp outside),
                  unchanged address outside]
              · exact fun address listed absent =>
                  absurd ((members address).mpr listed) absent

end ChaosLibs.Dns.TransformOwnership
