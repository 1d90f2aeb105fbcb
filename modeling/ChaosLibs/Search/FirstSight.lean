import Mathlib.Data.Set.Basic
import Mathlib.Logic.Function.Basic

/-!
# Two scans that find the same first

A scan takes the first item of a list that a test accepts.  An item that an
earlier one hides, one that every test accepting it accepts too, is never taken.
Tests tell items apart by their names only.  When they tell any two names apart,
two lists give the same first item under every test exactly when they show the
same names in the same order, those of hidden items left out.
-/

namespace ChaosLibs.Search

variable {Item Name Found : Type*}

/-! ## Hidden items -/

section Names

variable (name : Item → Name) (hides : Name → Item → Bool)

/-- The names a scan shows, those in `seen` having come before. -/
def shownAfter (seen : List Name) : List Item → List Name
  | [] => []
  | item :: rest =>
      if seen.any fun earlier => hides earlier item then
        shownAfter seen rest
      else
        name item :: shownAfter (name item :: seen) rest

/-- The names of a list in the order of first sight. -/
def shown (items : List Item) : List Name :=
  shownAfter name hides [] items

/-- Whether a test accepts none of the items with the names in `seen`. -/
def Blind (seen : List Name) (test : Item → Option Found) : Prop :=
  ∀ item, name item ∈ seen → test item = none

/-- No item with a name in `seen` hides the item. -/
def Unhidden (seen : List Name) (item : Item) : Prop :=
  ∀ earlier ∈ seen, hides earlier item = false

/-- Tests that tell apart what no item hides. -/
structure Separates (tests : Set (Item → Option Found)) : Prop where
  reflexive : ∀ item, hides (name item) item = true
  factors : ∀ test ∈ tests, Function.FactorsThrough test name
  respects : ∀ test ∈ tests, ∀ earlier later,
    hides (name earlier) later = true → test earlier = none →
      test later = none
  detects : ∀ seen item, Unhidden hides seen item →
    ∃ test ∈ tests, Blind name seen test ∧ (test item).isSome
  tells : ∀ seen left right, Unhidden hides seen left →
    Unhidden hides seen right → name left ≠ name right →
      ∃ test ∈ tests, Blind name seen test ∧ (test left).isSome ∧
        (test right).isSome ∧ test left ≠ test right

end Names

variable {name : Item → Name} {hides : Name → Item → Bool}

theorem shownAfter_cons_of_hidden
    {seen : List Name} {item : Item} {rest : List Item}
    (hidden : (seen.any fun earlier => hides earlier item) = true) :
    shownAfter name hides seen (item :: rest) =
      shownAfter name hides seen rest :=
  if_pos hidden

theorem shownAfter_cons_of_unhidden
    {seen : List Name} {item : Item} {rest : List Item}
    (unhidden : ¬ (seen.any fun earlier => hides earlier item) = true) :
    shownAfter name hides seen (item :: rest) =
      name item :: shownAfter name hides (name item :: seen) rest :=
  if_neg unhidden

theorem unhidden_of_not_any
    {seen : List Name} {item : Item}
    (unhidden : ¬ (seen.any fun earlier => hides earlier item) = true) :
    Unhidden hides seen item := by
  intro earlier member
  rw [Bool.eq_false_iff]
  intro hidden
  exact unhidden (List.any_eq_true.mpr ⟨earlier, member, hidden⟩)

namespace Separates

variable {tests : Set (Item → Option Found)}
variable (separates : Separates name hides tests)

include separates

/-- A test that is blind to what came before is blind to what that hides. -/
theorem eq_none_of_hidden
    {test : Item → Option Found} (member : test ∈ tests) {seen : List Name}
    (blind : Blind name seen test) {item : Item}
    (came : ∀ earlier ∈ seen, ∃ before, name before = earlier)
    (hidden : (seen.any fun earlier => hides earlier item) = true) :
    test item = none := by
  rcases List.any_eq_true.mp hidden with ⟨earlier, listed, hidden⟩
  rcases came earlier listed with ⟨before, rfl⟩
  exact separates.respects test member before item hidden (blind before listed)

theorem blind_cons
    {test : Item → Option Found} (member : test ∈ tests) {seen : List Name}
    (blind : Blind name seen test) {item : Item} (nothing : test item = none) :
    Blind name (name item :: seen) test := by
  intro other listed
  rcases List.mem_cons.mp listed with same | listed
  · exact (separates.factors test member same).trans nothing
  · exact blind other listed

/-- A scan takes the first of the names it shows. -/
theorem findSome_shownAfter
    {test : Item → Option Found} (member : test ∈ tests) {seen : List Name}
    (blind : Blind name seen test)
    (came : ∀ earlier ∈ seen, ∃ before, name before = earlier)
    (items : List Item) :
    (shownAfter name hides seen items).findSome?
        (Function.extend name test fun _ => none) =
      items.findSome? test := by
  have named := (separates.factors test member).extend_apply fun _ => none
  induction items generalizing seen with
  | nil => rfl
  | cons item rest induction =>
      by_cases hidden : (seen.any fun earlier => hides earlier item) = true
      · have nothing := separates.eq_none_of_hidden member blind came hidden
        rw [shownAfter_cons_of_hidden hidden, induction blind came,
          List.findSome?_cons, nothing]
      · rw [shownAfter_cons_of_unhidden hidden, List.findSome?_cons,
          List.findSome?_cons, named item]
        cases taken : test item with
        | some found => rfl
        | none =>
            apply induction (separates.blind_cons member blind taken)
            intro earlier listed
            rcases List.mem_cons.mp listed with rfl | listed
            · exact ⟨item, rfl⟩
            · exact came earlier listed

/-- The first item shown decides the scan, unless a test does not accept it. -/
theorem exists_head
    {seen : List Name} {items : List Item} {first : Name} {rest : List Name}
    (came : ∀ earlier ∈ seen, ∃ before, name before = earlier)
    (shows : shownAfter name hides seen items = first :: rest) :
    ∃ item after, name item = first ∧ Unhidden hides seen item ∧
      shownAfter name hides (first :: seen) after = rest ∧
        ∀ test ∈ tests, Blind name seen test →
          items.findSome? test = (item :: after).findSome? test := by
  induction items with
  | nil => cases shows
  | cons item after induction =>
      by_cases hidden : (seen.any fun earlier => hides earlier item) = true
      · rw [shownAfter_cons_of_hidden hidden] at shows
        rcases induction shows with ⟨head, others, same, unhidden, later, scan⟩
        refine ⟨head, others, same, unhidden, later, ?_⟩
        intro test member blind
        rw [List.findSome?_cons,
          separates.eq_none_of_hidden member blind came hidden]
        exact scan test member blind
      · rw [shownAfter_cons_of_unhidden hidden] at shows
        cases shows
        exact ⟨item, after, rfl, unhidden_of_not_any hidden, rfl,
          fun _ _ _ => rfl⟩

/-- A list that shows nothing gives no test anything. -/
theorem findSome_eq_none_of_shown_nil
    {seen : List Name} {items : List Item}
    (came : ∀ earlier ∈ seen, ∃ before, name before = earlier)
    (shows : shownAfter name hides seen items = [])
    {test : Item → Option Found} (member : test ∈ tests)
    (blind : Blind name seen test) :
    items.findSome? test = none := by
  rw [← separates.findSome_shownAfter member blind came, shows]
  rfl

/-- Scans that no test tells apart show the same names. -/
theorem shownAfter_eq
    {seen : List Name} {left right : List Item}
    (came : ∀ earlier ∈ seen, ∃ before, name before = earlier)
    (agree : ∀ test ∈ tests, Blind name seen test →
      left.findSome? test = right.findSome? test) :
    shownAfter name hides seen left = shownAfter name hides seen right := by
  -- The induction is on the names one side shows; both sides lose a name a step.
  generalize shows : shownAfter name hides seen left = names
  induction names generalizing seen left right with
  | nil =>
      cases others : shownAfter name hides seen right with
      | nil => rfl
      | cons first rest =>
          rcases separates.exists_head came others with
            ⟨item, after, -, unhidden, -, scan⟩
          rcases separates.detects seen item unhidden with
            ⟨test, member, blind, accepted⟩
          have nothing := separates.findSome_eq_none_of_shown_nil came shows
            member blind
          rw [agree test member blind, scan test member blind,
            List.findSome?_cons_of_isSome accepted] at nothing
          rw [nothing] at accepted
          cases accepted
  | cons first rest induction =>
      rcases separates.exists_head came shows with
        ⟨item, after, rfl, unhidden, later, scan⟩
      cases others : shownAfter name hides seen right with
      | nil =>
          rcases separates.detects seen item unhidden with
            ⟨test, member, blind, accepted⟩
          have nothing := separates.findSome_eq_none_of_shown_nil came others
            member blind
          rw [← agree test member blind, scan test member blind,
            List.findSome?_cons_of_isSome accepted] at nothing
          rw [nothing] at accepted
          cases accepted
      | cons second remaining =>
          rcases separates.exists_head came others with
            ⟨other, following, rfl, unhiddenOther, laterOther, scanOther⟩
          have same : name item = name other := by
            by_contra different
            rcases separates.tells seen item other unhidden unhiddenOther
              different with
              ⟨test, member, blind, accepted, acceptedOther, apart⟩
            have equal := agree test member blind
            rw [scan test member blind, scanOther test member blind,
              List.findSome?_cons_of_isSome accepted,
              List.findSome?_cons_of_isSome acceptedOther] at equal
            exact apart equal
          rw [← same] at laterOther ⊢
          have tails : rest = remaining := by
            rw [← laterOther]
            apply induction ?_ ?_ later
            · intro earlier listed
              rcases List.mem_cons.mp listed with rfl | listed
              · exact ⟨item, rfl⟩
              · exact came earlier listed
            · intro test member blind
              have nothing : test item = none :=
                blind item List.mem_cons_self
              have nothingOther : test other = none :=
                blind other (same ▸ List.mem_cons_self)
              have before : Blind name seen test := fun earlier listed =>
                blind earlier (List.mem_cons_of_mem _ listed)
              have equal := agree test member before
              rw [scan test member before, scanOther test member before,
                List.findSome?_cons, List.findSome?_cons, nothing,
                nothingOther] at equal
              exact equal
          rw [tails]

/-- Two scans agree under every test exactly when they show the same names. -/
theorem scans_agree_iff {left right : List Item} :
    (∀ test ∈ tests, left.findSome? test = right.findSome? test) ↔
      shown name hides left = shown name hides right := by
  have came : ∀ earlier ∈ ([] : List Name), ∃ before, name before = earlier :=
    nofun
  constructor
  · intro agree
    exact separates.shownAfter_eq came fun test member _ => agree test member
  · intro same test member
    have blind : Blind name [] test := nofun
    rw [← separates.findSome_shownAfter member blind came left,
      ← separates.findSome_shownAfter member blind came right]
    exact congrArg (List.findSome? _) same

end Separates

end ChaosLibs.Search
