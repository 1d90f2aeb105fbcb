import Mathlib.Data.List.Nodup
import Mathlib.Logic.Function.Basic

/-!
# Singly linked cells

A memory of cells that each hold a content and the address of the next one.  A
segment of it is described by the list of its addresses and contents; what a store
into the memory does to a segment is a fact about that list.
-/

namespace ChaosLibs.Machine

variable {Content : Type*}

/-- A cell: what it holds, and the address of the next one. -/
structure Cell (Content : Type*) where
  content : Content
  next : Option Nat

/-- The live cells by their addresses. -/
abbrev Cells (Content : Type*) := Nat → Option (Cell Content)

/-- The cells of a list lead from `head` to `tail`. -/
def Segment (cells : Cells Content) :
    Option Nat → List (Nat × Content) → Option Nat → Prop
  | head, [], tail => head = tail
  | head, (address, content) :: rest, tail =>
      head = some address ∧
        ∃ next, cells address = some ⟨content, next⟩ ∧
          Segment cells next rest tail

/-- The addresses of a list. -/
def addresses (nodes : List (Nat × Content)) : List Nat :=
  nodes.map Prod.fst

/-- The address that a list starts with, or the one that follows it. -/
def headAddress (nodes : List (Nat × Content)) (tail : Option Nat) : Option Nat :=
  match nodes with
  | [] => tail
  | (address, _) :: _ => some address

/-- Lay out the cells of a list that ends at `tail`. -/
def link (tail : Option Nat) :
    List (Nat × Content) → Cells Content → Cells Content
  | [], cells => cells
  | (address, content) :: rest, cells =>
      Function.update (link tail rest cells) address
        (some ⟨content, headAddress rest tail⟩)

variable {cells other : Cells Content} {head tail : Option Nat}
  {nodes left right : List (Nat × Content)} {address : Nat} {content : Content}

@[simp]
theorem addresses_nil : addresses ([] : List (Nat × Content)) = [] :=
  rfl

@[simp]
theorem addresses_cons (node : Nat × Content) :
    addresses (node :: nodes) = node.1 :: addresses nodes :=
  rfl

@[simp]
theorem addresses_append :
    addresses (left ++ right) = addresses left ++ addresses right :=
  List.map_append

theorem mem_addresses_of_mem
    {node : Nat × Content} (member : node ∈ nodes) : node.1 ∈ addresses nodes :=
  List.mem_map_of_mem member

theorem Segment.head_eq (segment : Segment cells head nodes tail) :
    head = headAddress nodes tail := by
  cases nodes with
  | nil => exact segment
  | cons node rest => exact segment.1

theorem segment_append :
    Segment cells head (left ++ right) tail ↔
      ∃ middle, Segment cells head left middle ∧ Segment cells middle right tail := by
  induction left generalizing head with
  | nil =>
      constructor
      · exact fun segment => ⟨head, rfl, segment⟩
      · rintro ⟨middle, same, segment⟩
        cases same
        exact segment
  | cons node rest induction =>
      constructor
      · rintro ⟨here, next, cell, segment⟩
        rcases induction.mp segment with ⟨middle, before, after⟩
        exact ⟨middle, ⟨here, next, cell, before⟩, after⟩
      · rintro ⟨middle, ⟨here, next, cell, before⟩, after⟩
        exact ⟨here, next, cell, induction.mpr ⟨middle, before, after⟩⟩

/-- A segment is what its own cells say. -/
theorem Segment.congr
    (segment : Segment cells head nodes tail)
    (same : ∀ address ∈ addresses nodes, other address = cells address) :
    Segment other head nodes tail := by
  induction nodes generalizing head with
  | nil => exact segment
  | cons node rest induction =>
      rcases segment with ⟨here, next, cell, later⟩
      refine ⟨here, next, ?_, induction later fun address member =>
        same address (List.mem_cons_of_mem _ member)⟩
      rw [same node.1 List.mem_cons_self]
      exact cell

/-- A store outside a segment leaves it alone. -/
theorem Segment.update_of_not_mem
    (segment : Segment cells head nodes tail) (outside : address ∉ addresses nodes)
    (cell : Option (Cell Content)) :
    Segment (Function.update cells address cell) head nodes tail := by
  refine segment.congr fun inside member => Function.update_of_ne ?_ _ _
  rintro rfl
  exact outside member

/-- The cells of a segment are live. -/
theorem Segment.live
    (segment : Segment cells head nodes tail)
    (member : address ∈ addresses nodes) : cells address ≠ none := by
  induction nodes generalizing head with
  | nil => cases member
  | cons node rest induction =>
      rcases segment with ⟨-, next, cell, later⟩
      rcases List.mem_cons.mp member with rfl | inRest
      · rw [cell]
        exact Option.some_ne_none _
      · exact induction later inRest

/-- The cell of a node leads to the node after it. -/
theorem Segment.cell
    (segment : Segment cells head (left ++ (address, content) :: right) tail) :
    cells address = some ⟨content, headAddress right tail⟩ := by
  rcases segment_append.mp segment with ⟨middle, -, -, next, cell, later⟩
  rw [← later.head_eq]
  exact cell

theorem Segment.exists_cell
    (segment : Segment cells head nodes tail)
    {node : Nat × Content} (member : node ∈ nodes) :
    ∃ next, cells node.1 = some ⟨node.2, next⟩ := by
  rcases List.append_of_mem member with ⟨before, after, rfl⟩
  exact ⟨_, segment.cell⟩

/-- The last cell of a segment gets another successor. -/
theorem Segment.setTail
    (segment : Segment cells head (left ++ [(address, content)]) tail)
    (distinct : (addresses (left ++ [(address, content)])).Nodup)
    (after : Option Nat) :
    Segment (Function.update cells address (some ⟨content, after⟩)) head
      (left ++ [(address, content)]) after := by
  rcases segment_append.mp segment with ⟨middle, before, here, next, -, -⟩
  have outside : address ∉ addresses left := by
    intro member
    rw [addresses_append, List.nodup_append] at distinct
    exact distinct.2.2 address member address List.mem_cons_self rfl
  exact segment_append.mpr
    ⟨middle, before.update_of_not_mem outside _, here, after,
      Function.update_self _ _ _, rfl⟩

/-- A node is taken out of a segment when the node before it gets its successor. -/
theorem Segment.unlink
    {node : Nat × Content}
    (segment : Segment cells head (left ++ [(address, content)] ++ node :: right) tail)
    (distinct : (addresses (left ++ [(address, content)] ++ node :: right)).Nodup) :
    Segment
      (Function.update cells address (some ⟨content, headAddress right tail⟩)) head
      (left ++ [(address, content)] ++ right) tail := by
  rcases segment_append.mp segment with ⟨middle, before, -, next, -, after⟩
  rw [addresses_append, List.nodup_append] at distinct
  have outside : address ∉ addresses right := by
    intro member
    refine distinct.2.2 address ?_ address (List.mem_cons_of_mem _ member) rfl
    rw [addresses_append]
    exact List.mem_append_right _ List.mem_cons_self
  have shortened := before.setTail distinct.1 (headAddress right tail)
  rw [← after.head_eq] at shortened ⊢
  exact segment_append.mpr
    ⟨next, shortened, after.update_of_not_mem outside _⟩

/-- A segment is cut after a node. -/
theorem Segment.cut
    (segment : Segment cells head (left ++ (address, content) :: right) tail)
    (distinct : (addresses (left ++ (address, content) :: right)).Nodup) :
    Segment (Function.update cells address (some ⟨content, none⟩)) head
        (left ++ [(address, content)]) none ∧
      Segment (Function.update cells address (some ⟨content, none⟩))
        (headAddress right tail) right tail := by
  rcases segment_append.mp segment with ⟨middle, before, here, next, -, after⟩
  rw [addresses_append, List.nodup_append] at distinct
  rcases distinct with ⟨-, distinctRight, apart⟩
  have outsideLeft : address ∉ addresses left := fun member =>
    apart address member address List.mem_cons_self rfl
  have outsideRight : address ∉ addresses right :=
    (List.nodup_cons.mp distinctRight).1
  refine ⟨segment_append.mpr ⟨middle, before.update_of_not_mem outsideLeft _, here,
    none, Function.update_self _ _ _, rfl⟩, ?_⟩
  rw [← after.head_eq]
  exact after.update_of_not_mem outsideRight _

/-- The first cell of a segment gets another content. -/
theorem Segment.setHead
    (segment : Segment cells head ((address, content) :: nodes) tail)
    (distinct : (addresses ((address, content) :: nodes)).Nodup)
    (fresh : Content) :
    Segment
      (Function.update cells address (some ⟨fresh, headAddress nodes tail⟩))
      head ((address, fresh) :: nodes) tail := by
  rcases segment with ⟨here, next, -, later⟩
  have outside : address ∉ addresses nodes := (List.nodup_cons.mp distinct).1
  rw [← later.head_eq]
  exact ⟨here, next, Function.update_self _ _ _, later.update_of_not_mem outside _⟩

theorem link_of_not_mem
    (tail : Option Nat) (cells : Cells Content)
    (outside : address ∉ addresses nodes) :
    link tail nodes cells address = cells address := by
  induction nodes with
  | nil => rfl
  | cons node rest induction =>
      rcases not_or.mp (mt List.mem_cons.mpr outside) with ⟨different, later⟩
      exact (Function.update_of_ne different _ _).trans (induction later)

/-- The cells of a list do not depend on what was there. -/
theorem link_congr
    (tail : Option Nat)
    (same : address ∉ addresses nodes → other address = cells address) :
    link tail nodes other address = link tail nodes cells address := by
  induction nodes with
  | nil => exact same List.not_mem_nil
  | cons node rest induction =>
      dsimp only [link]
      by_cases here : address = node.1
      · rw [here, Function.update_self, Function.update_self]
      · rw [Function.update_of_ne here, Function.update_of_ne here]
        exact induction fun outside => same fun member =>
          (List.mem_cons.mp member).elim here outside

theorem segment_link
    (tail : Option Nat) (cells : Cells Content)
    (distinct : (addresses nodes).Nodup) :
    Segment (link tail nodes cells) (headAddress nodes tail) nodes tail := by
  induction nodes with
  | nil => rfl
  | cons node rest induction =>
      rcases List.nodup_cons.mp distinct with ⟨outside, later⟩
      exact ⟨rfl, headAddress rest tail, Function.update_self _ _ _,
        (induction later).update_of_not_mem outside _⟩

/-! ## Releasing -/

/-- The cells of these addresses are no longer live. -/
def clear (released : List Nat) (cells : Cells Content) : Cells Content :=
  fun address => if address ∈ released then none else cells address

theorem clear_of_mem (cells : Cells Content) {released : List Nat}
    (member : address ∈ released) : clear released cells address = none :=
  if_pos member

theorem clear_of_not_mem (cells : Cells Content) {released : List Nat}
    (outside : address ∉ released) : clear released cells address = cells address :=
  if_neg outside

@[simp]
theorem clear_nil (cells : Cells Content) : clear [] cells = cells :=
  funext fun _ => clear_of_not_mem cells List.not_mem_nil

/-- The first cell is released, then the others. -/
theorem clear_update (cells : Cells Content) (released : List Nat) :
    clear released (Function.update cells address none) =
      clear (address :: released) cells := by
  funext place
  by_cases member : place ∈ released
  · rw [clear_of_mem _ member, clear_of_mem _ (List.mem_cons_of_mem _ member)]
  · rw [clear_of_not_mem _ member]
    by_cases same : place = address
    · rw [same, Function.update_self, clear_of_mem _ List.mem_cons_self]
    · rw [Function.update_of_ne same, clear_of_not_mem]
      exact fun inside => (List.mem_cons.mp inside).elim same member

end ChaosLibs.Machine
