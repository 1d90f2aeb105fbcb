import Mathlib.Data.List.Basic
import Mathlib.Data.List.TakeDrop

/-!
# Scattered sequences

A scatter list names one sequence in several segments, some of them empty.  A
walk over the segments with a counter of what remains cuts the sequence at a
limit, or finds the element at a flat index; both agree with the sequence
itself.  Segments of one size are found by multiplication.
-/

namespace ChaosLibs.Machine.Segments

variable {Element : Type*}

/-- The segments of the first `limit` elements, the last one cut. -/
def cut : List (List Element) → Nat → List (List Element)
  | [], _ => []
  | segment :: rest, limit =>
      if limit = 0 then []
      else
        segment.take limit ::
          cut rest (limit - (segment.take limit).length)

/-- The element at a flat index among the first `remaining`. -/
def locate : List (List Element) → Nat → Nat → Option Element
  | [], _, _ => none
  | segment :: rest, remaining, index =>
      if remaining = 0 then none
      else if index < (segment.take remaining).length then
        (segment.take remaining)[index]?
      else
        locate rest (remaining - (segment.take remaining).length)
          (index - (segment.take remaining).length)

/-- What remains of a limit behind a segment. -/
theorem sub_length_take (segment : List Element) (limit : Nat) :
    limit - (segment.take limit).length = limit - segment.length := by
  rw [List.length_take]
  omega

/-- The cut segments are the first elements of the sequence. -/
theorem flatten_cut
    (segments : List (List Element)) (limit : Nat) :
    (cut segments limit).flatten = segments.flatten.take limit := by
  induction segments generalizing limit with
  | nil => rw [cut, List.flatten_nil, List.take_nil]
  | cons segment rest induction =>
      by_cases spent : limit = 0
      · rw [cut, if_pos spent, spent, List.take_zero, List.flatten_nil]
      · rw [cut, if_neg spent, List.flatten_cons, List.flatten_cons,
          induction, sub_length_take, List.take_append]

/-- No segment is added by a cut. -/
theorem length_cut_le
    (segments : List (List Element)) (limit : Nat) :
    (cut segments limit).length ≤ segments.length := by
  induction segments generalizing limit with
  | nil => exact Nat.le_refl 0
  | cons segment rest induction =>
      by_cases spent : limit = 0
      · rw [cut, if_pos spent]
        exact Nat.zero_le _
      · rw [cut, if_neg spent, List.length_cons, List.length_cons]
        exact Nat.succ_le_succ (induction _)

/-- The walk finds what lies at that index of the sequence. -/
theorem locate_eq
    (segments : List (List Element)) (remaining index : Nat) :
    locate segments remaining index =
      (segments.flatten.take remaining)[index]? := by
  induction segments generalizing remaining index with
  | nil => rw [locate, List.flatten_nil, List.take_nil, List.getElem?_nil]
  | cons segment rest induction =>
      by_cases spent : remaining = 0
      · rw [locate, if_pos spent, spent, List.take_zero, List.getElem?_nil]
      · rw [locate, if_neg spent, List.flatten_cons, List.take_append]
        by_cases here : index < (segment.take remaining).length
        · rw [if_pos here, List.getElem?_append_left here]
        · rw [if_neg here, induction, sub_length_take,
            List.getElem?_append_right (Nat.le_of_not_lt here)]

/-! ## Segments of one size -/

theorem length_flatMap_range
    (piece : Nat → List Element) (count : Nat) {size : Nat}
    (uniform : ∀ index, (piece index).length = size) :
    ((List.range count).flatMap piece).length = size * count := by
  induction count with
  | zero => rfl
  | succ count induction =>
      rw [List.range_succ, List.flatMap_append, List.length_append, induction,
        List.flatMap_singleton, uniform, Nat.mul_succ]

/-- The segment at a position of its own. -/
theorem take_drop_flatMap
    (piece : Nat → List Element) (rest : List Element) {count size : Nat}
    (uniform : ∀ index, (piece index).length = size)
    {index : Nat} (inside : index < count) :
    (((List.range count).flatMap piece ++ rest).drop (size * index)).take size =
      piece index := by
  induction count generalizing rest with
  | zero => cases inside
  | succ count induction =>
      rw [List.range_succ, List.flatMap_append, List.flatMap_singleton,
        List.append_assoc]
      rcases Nat.lt_or_eq_of_le (Nat.le_of_lt_succ inside) with earlier | last
      · exact induction _ earlier
      · subst last
        rw [← length_flatMap_range piece index uniform, List.drop_left,
          ← uniform index, List.take_left]

/-- The segments that a list is cut into. -/
theorem flatMap_take_drop (list : List Element) (size count : Nat) :
    ((List.range count).flatMap fun index =>
        (list.drop (size * index)).take size) =
      list.take (size * count) := by
  induction count with
  | zero => rfl
  | succ count induction =>
      rw [List.range_succ, List.flatMap_append, List.flatMap_singleton,
        induction, Nat.mul_succ, List.take_add]

end ChaosLibs.Machine.Segments
