import Mathlib.Data.List.Basic
import Mathlib.Data.List.TakeDrop

/-!
# Fields behind separators

A line of fields, each behind a separator that none of them contains.  A cut
leaves the first fields whole, and perhaps a part of one more.  A walk from
separator to separator visits the fields that are left, one after the other.
-/

namespace ChaosLibs.Machine.SeparatedFields

variable {Letter : Type*}

/-- The fields, each behind a separator. -/
def joined (sep : Letter) (fields : List (List Letter)) : List Letter :=
  fields.flatMap fun field => sep :: field

/-- What a cut behind so many letters leaves of each field. -/
def pieces : List (List Letter) → Nat → List (List Letter)
  | [], _ => []
  | _ :: _, 0 => []
  | field :: rest, length + 1 =>
      field.take length :: pieces rest (length - field.length)

variable {sep : Letter} {fields : List (List Letter)}

@[simp]
theorem joined_nil (sep : Letter) : joined sep [] = [] :=
  rfl

@[simp]
theorem joined_cons
    (sep : Letter) (field : List Letter) (rest : List (List Letter)) :
    joined sep (field :: rest) = sep :: (field ++ joined sep rest) :=
  rfl

@[simp]
theorem joined_append
    (sep : Letter) (fields others : List (List Letter)) :
    joined sep (fields ++ others) = joined sep fields ++ joined sep others :=
  List.flatMap_append

/-- Fields with a separator between them. -/
theorem intercalate_cons
    (sep : Letter) (field : List Letter) (rest : List (List Letter)) :
    [sep].intercalate (field :: rest) = field ++ joined sep rest := by
  induction rest generalizing field with
  | nil => simp
  | cons next rest induction =>
      rw [joined_cons, ← induction next]
      simp

/-- The pieces are all that a cut leaves. -/
theorem joined_pieces
    (sep : Letter) (fields : List (List Letter)) (length : Nat) :
    joined sep (pieces fields length) = (joined sep fields).take length := by
  induction fields generalizing length with
  | nil => exact List.take_nil.symm
  | cons field rest induction =>
      cases length with
      | zero => exact List.take_zero.symm
      | succ length =>
          rw [pieces, joined_cons, joined_cons, induction,
            List.take_succ_cons, List.take_append]

/-- A cut behind some of the fields leaves those whole. -/
theorem pieces_append
    {others : List (List Letter)} {length : Nat}
    (whole : (joined sep fields).length ≤ length) :
    pieces (fields ++ others) length =
      fields ++ pieces others (length - (joined sep fields).length) := by
  induction fields generalizing length with
  | nil => rfl
  | cons field rest induction =>
      rw [joined_cons, List.length_cons, List.length_append] at whole ⊢
      cases length with
      | zero => omega
      | succ length =>
          rw [List.cons_append, pieces, List.take_of_length_le (by omega),
            induction (by omega), List.cons_append]
          congr 3
          omega

/-- A piece is the start of a field. -/
theorem exists_of_mem_pieces
    {length : Nat} {piece : List Letter}
    (member : piece ∈ pieces fields length) :
    ∃ field ∈ fields, ∃ size, piece = field.take size := by
  induction fields generalizing length with
  | nil => cases member
  | cons field rest induction =>
      cases length with
      | zero => cases member
      | succ length =>
          rcases List.mem_cons.mp member with rfl | later
          · exact ⟨field, List.mem_cons_self, length, rfl⟩
          · rcases induction later with ⟨other, inside, size, same⟩
            exact ⟨other, List.mem_cons_of_mem _ inside, size, same⟩

/-- Only the last piece can be a part of its field. -/
def Sound (letters : List Letter → Prop) : List (List Letter) → Prop
  | [] => True
  | [_] => True
  | piece :: next :: rest => letters piece ∧ Sound letters (next :: rest)

/-- All pieces but the last have what the fields have. -/
theorem sound_pieces
    {letters : List Letter → Prop} {length : Nat}
    (each : ∀ field ∈ fields, letters field) :
    Sound letters (pieces fields length) := by
  induction fields generalizing length with
  | nil => trivial
  | cons field rest induction =>
      cases length with
      | zero => trivial
      | succ length =>
          have later := @induction (length - field.length)
            fun other member => each other (List.mem_cons_of_mem _ member)
          rw [pieces]
          cases following : pieces rest (length - field.length) with
          | nil => trivial
          | cons next more =>
              rw [following] at later
              have beyond : field.length < length := by
                by_contra short
                have none : length - field.length = 0 := by omega
                rw [none] at following
                cases rest <;> cases following
              rw [List.take_of_length_le (Nat.le_of_lt beyond)]
              exact ⟨each field List.mem_cons_self, later⟩

end ChaosLibs.Machine.SeparatedFields
