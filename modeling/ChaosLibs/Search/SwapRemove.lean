import Mathlib.Data.List.Basic
import Mathlib.Data.List.Perm.Basic

/-!
# Removal from an unordered array

An item is removed from an unordered array by moving the last item into its
place.  What is left is a permutation of the other items.
-/

namespace ChaosLibs.Search

variable {Item : Type*}

/-- The items without the one at `index`: the last takes its place. -/
def swapRemove (items : List Item) (index : Nat) : List Item :=
  match items.getLast? with
  | none => []
  | some last => (items.set index last).dropLast

theorem swapRemove_concat_of_lt
    {items : List Item} {index : Nat} (inside : index < items.length)
    (last : Item) :
    swapRemove (items ++ [last]) index = items.set index last := by
  unfold swapRemove
  rw [List.getLast?_concat]
  change ((items ++ [last]).set index last).dropLast = _
  rw [List.set_append_left _ _ inside, List.dropLast_concat]

theorem swapRemove_concat_length (items : List Item) (last : Item) :
    swapRemove (items ++ [last]) items.length = items := by
  unfold swapRemove
  rw [List.getLast?_concat]
  change ((items ++ [last]).set items.length last).dropLast = _
  rw [List.set_append_right _ _ (Nat.le_refl _), Nat.sub_self,
    List.set_cons_zero, List.dropLast_concat]

/-- Replacing one item leaves the others. -/
theorem perm_set
    {items : List Item} {index : Nat} (inside : index < items.length)
    (last : Item) :
    (last :: items).Perm (items[index] :: items.set index last) := by
  have here : items = items.take index ++ items[index] :: items.drop (index + 1) := by
    rw [List.getElem_cons_drop, List.take_append_drop]
  have there :
      items.set index last =
        items.take index ++ last :: items.drop (index + 1) :=
    List.set_eq_take_append_cons_drop.trans (if_pos inside)
  rw [there]
  calc
    (last :: items).Perm
        (last :: items[index] :: (items.take index ++ items.drop (index + 1))) := by
      apply List.Perm.cons
      conv_lhs => rw [here]
      exact List.perm_middle
    _ |>.Perm
        (items[index] :: last ::
          (items.take index ++ items.drop (index + 1))) :=
      List.Perm.swap _ _ _
    _ |>.Perm
        (items[index] ::
          (items.take index ++ last :: items.drop (index + 1))) :=
      List.Perm.cons _ List.perm_middle.symm

/-- What is removed and what is left are the items. -/
theorem perm_swapRemove
    {items : List Item} {index : Nat} (inside : index < items.length) :
    items.Perm (items[index] :: swapRemove items index) := by
  rcases List.eq_nil_or_concat' items with rfl | ⟨init, last, rfl⟩
  · exact absurd inside (Nat.not_lt_zero _)
  · rw [List.length_append, List.length_singleton] at inside
    rcases Nat.lt_succ_iff_lt_or_eq.mp inside with earlier | rfl
    · rw [swapRemove_concat_of_lt earlier, List.getElem_append_left earlier]
      exact (List.perm_append_singleton last init).trans (perm_set earlier last)
    · rw [swapRemove_concat_length, List.getElem_append_right (Nat.le_refl _)]
      simp

end ChaosLibs.Search
