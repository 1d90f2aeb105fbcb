import Mathlib.Data.List.Basic
import Mathlib.Data.List.Induction
import Mathlib.Data.List.TakeWhile

/-!
# Lines and what is carried over

The complete lines of a text, and the start of a line behind the last of them.
A text that comes in pieces has the lines of each piece behind what the ones
before it carried over.
-/

namespace ChaosLibs.Machine.CompleteLines

variable {Letter : Type*} [DecidableEq Letter] (stop : Letter)

/-- One letter behind some lines and the start of another. -/
def step (state : List (List Letter) × List Letter) (letter : Letter) :
    List (List Letter) × List Letter :=
  if letter = stop then (state.1 ++ [state.2], [])
  else (state.1, state.2 ++ [letter])

/-- The lines of a text without their ends, and the rest of it. -/
def split (text : List Letter) : List (List Letter) × List Letter :=
  text.foldl (step stop) ([], [])

/-- The lines of a text, without their ends. -/
def lines (text : List Letter) : List (List Letter) :=
  (split stop text).1

/-- The start of a line behind the last end. -/
def carry (text : List Letter) : List Letter :=
  (split stop text).2

variable {stop}

@[simp]
theorem lines_nil : lines stop [] = [] :=
  rfl

@[simp]
theorem carry_nil : carry stop [] = [] :=
  rfl

theorem split_concat (text : List Letter) (letter : Letter) :
    split stop (text ++ [letter]) = step stop (split stop text) letter := by
  rw [split, List.foldl_append, List.foldl_cons, List.foldl_nil, ← split]

/-- The lines so far only stand in front. -/
theorem foldl_step
    (before : List (List Letter)) (started : List Letter)
    (text : List Letter) :
    text.foldl (step stop) (before, started) =
      (before ++ (text.foldl (step stop) ([], started)).1,
        (text.foldl (step stop) ([], started)).2) := by
  induction text using List.reverseRecOn with
  | nil => rw [List.foldl_nil, List.foldl_nil, List.append_nil]
  | append_singleton text letter induction =>
      rw [List.foldl_append, List.foldl_append, induction]
      simp only [List.foldl_cons, List.foldl_nil, step]
      split
      · rw [List.append_assoc]
      · rfl

/-- Without an end there is no line. -/
theorem split_of_not_mem {text : List Letter} (clean : stop ∉ text) :
    split stop text = ([], text) := by
  induction text using List.reverseRecOn with
  | nil => rfl
  | append_singleton text letter induction =>
      rw [List.mem_append, List.mem_singleton, not_or] at clean
      rw [split_concat, induction clean.1, step,
        if_neg fun same => clean.2 same.symm]

/-- No end is carried over. -/
theorem not_mem_carry (text : List Letter) : stop ∉ carry stop text := by
  induction text using List.reverseRecOn with
  | nil => exact List.not_mem_nil
  | append_singleton text letter induction =>
      rw [carry, split_concat, step]
      split
      · exact List.not_mem_nil
      · next other =>
        rw [List.mem_append, List.mem_singleton, not_or]
        exact ⟨induction, fun same => other same.symm⟩

/-- A piece goes on behind what was carried over. -/
theorem split_append (text piece : List Letter) :
    lines stop (text ++ piece) =
        lines stop text ++ lines stop (carry stop text ++ piece) ∧
      carry stop (text ++ piece) =
        carry stop (carry stop text ++ piece) := by
  have whole : split stop (text ++ piece) =
      piece.foldl (step stop) (lines stop text, carry stop text) := by
    rw [split, List.foldl_append]
    rfl
  have behind : split stop (carry stop text ++ piece) =
      piece.foldl (step stop) ([], carry stop text) := by
    rw [split, List.foldl_append, ← split,
      split_of_not_mem (not_mem_carry text)]
  rw [foldl_step, ← behind] at whole
  constructor
  · rw [lines, whole]
    rfl
  · rw [carry, whole]
    rfl

/-- The first end of a text ends its first line. -/
theorem lines_first
    {line : List Letter} (clean : stop ∉ line) (rest : List Letter) :
    lines stop (line ++ stop :: rest) = line :: lines stop rest ∧
      carry stop (line ++ stop :: rest) = carry stop rest := by
  have first : split stop (line ++ [stop]) = ([line], []) := by
    rw [split_concat, split_of_not_mem clean, step, if_pos rfl,
      List.nil_append]
  have parts := @split_append _ _ stop (line ++ [stop]) rest
  have one : lines stop (line ++ [stop]) = [line] := congrArg Prod.fst first
  have none : carry stop (line ++ [stop]) = [] := congrArg Prod.snd first
  rwa [List.append_assoc, List.singleton_append, one, none,
    List.nil_append] at parts

/-- A text without an end goes on with the line. -/
theorem split_append_of_not_mem
    {text piece : List Letter} (clean : stop ∉ carry stop text ++ piece) :
    lines stop (text ++ piece) = lines stop text ∧
      carry stop (text ++ piece) = carry stop text ++ piece := by
  have parts := @split_append _ _ stop text piece
  have none : lines stop (carry stop text ++ piece) = [] :=
    congrArg Prod.fst (split_of_not_mem clean)
  have all : carry stop (carry stop text ++ piece) =
      carry stop text ++ piece := congrArg Prod.snd (split_of_not_mem clean)
  rwa [none, all, List.append_nil] at parts

/-- The letters behind the last end. -/
theorem carry_eq (text : List Letter) :
    carry stop text =
      (text.reverse.takeWhile fun letter => letter ≠ stop).reverse := by
  induction text using List.reverseRecOn with
  | nil => rfl
  | append_singleton text letter induction =>
      rw [carry, split_concat, step, List.reverse_append,
        List.reverse_singleton, List.singleton_append]
      split
      · next same =>
        rw [List.takeWhile_cons_of_neg (by
          rw [decide_eq_true_iff]; exact not_not.mpr same)]
        rfl
      · next other =>
        have kept : (letter :: text.reverse).takeWhile
            (fun letter => decide (letter ≠ stop)) =
              letter :: text.reverse.takeWhile fun letter =>
                decide (letter ≠ stop) :=
          List.takeWhile_cons_of_pos (decide_eq_true other)
        rw [kept, List.reverse_cons, ← induction]
        rfl

/-- Lines, with their ends, and what is carried over are parts of the text. -/
theorem length_parts (text : List Letter) :
    (∀ line ∈ lines stop text, line.length < text.length) ∧
      (carry stop text).length ≤ text.length := by
  induction text using List.reverseRecOn with
  | nil => exact ⟨fun _ none => absurd none List.not_mem_nil, Nat.le_refl 0⟩
  | append_singleton text letter induction =>
      rw [lines, carry, split_concat, step, List.length_append,
        List.length_singleton]
      split
      · refine ⟨fun line member => ?_, Nat.zero_le _⟩
        rcases List.mem_append.mp member with earlier | last
        · exact Nat.lt_succ_of_lt (induction.1 line earlier)
        · rw [List.mem_singleton.mp last]
          exact Nat.lt_succ_of_le induction.2
      · refine ⟨fun line member =>
          Nat.lt_succ_of_lt (induction.1 line member), ?_⟩
        rw [List.length_append, List.length_singleton]
        exact Nat.succ_le_succ induction.2

end ChaosLibs.Machine.CompleteLines
