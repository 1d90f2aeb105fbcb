import Mathlib.Data.List.Nodup

/-!
# Two tests that accept the same first

Two tests take the same first item of a list exactly when every item that they
judge differently comes after one that both accept.
-/

namespace ChaosLibs.Search

variable {Item : Type*}

/-- Every item that two tests judge differently comes after one both accept. -/
def Settled (first second : Item → Bool) (items : List Item) : Prop :=
  ∀ before item after, items = before ++ item :: after →
    first item ≠ second item →
      ∃ earlier ∈ before, first earlier = true ∧ second earlier = true

variable {first second : Item → Bool}

theorem settled_nil : Settled first second [] := by
  intro before item after split
  exact absurd split.symm (List.append_ne_nil_of_right_ne_nil _ nofun)

/-- The head settles the list when both tests accept it. -/
theorem settled_cons_of_both
    {item : Item} {rest : List Item}
    (accepted : first item = true ∧ second item = true) :
    Settled first second (item :: rest) := by
  intro before other after split different
  cases before with
  | nil =>
      cases split
      exact absurd (accepted.1.trans accepted.2.symm) different
  | cons head tail =>
      cases split
      exact ⟨item, List.mem_cons_self, accepted⟩

/-- A head that both tests refuse can be left out. -/
theorem settled_cons_of_neither
    {item : Item} {rest : List Item}
    (refused : first item = false ∧ second item = false) :
    Settled first second (item :: rest) ↔ Settled first second rest := by
  constructor
  · intro settled before other after split different
    rcases settled (item :: before) other after (congrArg _ split) different with
      ⟨earlier, member, accepted⟩
    rcases List.mem_cons.mp member with rfl | member
    · exact absurd (refused.1.symm.trans accepted.1) nofun
    · exact ⟨earlier, member, accepted⟩
  · intro settled before other after split different
    cases before with
    | nil =>
        cases split
        exact absurd (refused.1.trans refused.2.symm) different
    | cons head tail =>
        cases split
        rcases settled tail other after rfl different with
          ⟨earlier, member, accepted⟩
        exact ⟨earlier, List.mem_cons_of_mem _ member, accepted⟩

/-- A head that the tests judge differently leaves the list unsettled. -/
theorem not_settled_cons
    {item : Item} {rest : List Item} (different : first item ≠ second item) :
    ¬ Settled first second (item :: rest) := by
  intro settled
  rcases settled [] item rest rfl different with ⟨earlier, member, -⟩
  cases member

theorem find?_eq_find?_iff
    {items : List Item} (distinct : items.Nodup) :
    items.find? first = items.find? second ↔ Settled first second items := by
  induction items with
  | nil => exact iff_of_true rfl settled_nil
  | cons item rest induction =>
      rcases List.nodup_cons.mp distinct with ⟨fresh, distinct⟩
      -- The item is not found again behind itself.
      have later : ∀ test : Item → Bool, rest.find? test ≠ some item := by
        intro test found
        exact fresh (List.mem_of_find?_eq_some found)
      cases one : first item with
      | true =>
          rw [List.find?_cons_of_pos one]
          cases other : second item with
          | true =>
              rw [List.find?_cons_of_pos other]
              exact iff_of_true rfl (settled_cons_of_both ⟨one, other⟩)
          | false =>
              rw [List.find?_cons_of_neg (by rw [other]; nofun)]
              refine iff_of_false (later second).symm (not_settled_cons ?_)
              rw [one, other]
              nofun
      | false =>
          rw [List.find?_cons_of_neg (by rw [one]; nofun)]
          cases other : second item with
          | true =>
              rw [List.find?_cons_of_pos other]
              refine iff_of_false (later first) (not_settled_cons ?_)
              rw [one, other]
              nofun
          | false =>
              rw [List.find?_cons_of_neg (by rw [other]; nofun),
                settled_cons_of_neither ⟨one, other⟩]
              exact induction distinct

end ChaosLibs.Search
