import Mathlib.Data.List.Basic
import Mathlib.Data.List.TakeDrop

/-!
# Reading an array in rounds

A loop that reads an array of another address space reads a bounded number of
entries a round.  A read may fail; the loop then gives up, or keeps what it has.
When the array lies in memory both loops end with all of its entries.
-/

namespace ChaosLibs.Machine

variable {Entry : Type*}

/-- The rounds of a loop over `count` entries: the first entry and how many. -/
def readRounds (chunk count : Nat) : List (Nat × Nat) :=
  (List.range ((count + chunk - 1) / chunk)).map fun round =>
    (chunk * round, min chunk (count - chunk * round))

/-- The entries of all rounds; `none` when one of them cannot be read. -/
def readAll (read : Nat → Nat → Option (List Entry)) (chunk count : Nat) :
    Option (List Entry) :=
  ((readRounds chunk count).mapM fun round => read round.1 round.2).map
    List.flatten

/-- The entries of a list of rounds, up to the first that cannot be read. -/
def readWhile (read : Nat → Nat → Option (List Entry)) :
    List (Nat × Nat) → List Entry
  | [] => []
  | round :: rest =>
      match read round.1 round.2 with
      | none => []
      | some entries => entries ++ readWhile read rest

/-- What is read of an array that lies in memory. -/
def Holds (read : Nat → Nat → Option (List Entry)) (entries : List Entry) :
    Prop :=
  ∀ start count, start + count ≤ entries.length →
    read start count = some ((entries.drop start).take count)

/-- The first rounds together read the first entries. -/
theorem flatten_rounds
    (entries : List Entry) (chunk rounds : Nat) :
    ((List.range rounds).map fun round =>
        (entries.drop (chunk * round)).take
          (min chunk (entries.length - chunk * round))).flatten =
      entries.take (chunk * rounds) := by
  induction rounds with
  | zero => simp
  | succ rounds induction =>
      have whole : (entries.drop (chunk * rounds)).take
            (min chunk (entries.length - chunk * rounds)) =
          (entries.drop (chunk * rounds)).take chunk := by
        rw [← List.length_drop, ← List.take_take, List.take_length]
      rw [List.range_succ, List.map_append, List.flatten_append, induction,
        List.map_singleton, List.flatten_singleton, whole, Nat.mul_succ,
        List.take_add]

/-- All rounds together read all entries. -/
theorem flatten_readRounds
    (entries : List Entry) {chunk : Nat} (positive : 0 < chunk) :
    ((readRounds chunk entries.length).map fun round =>
        (entries.drop round.1).take round.2).flatten = entries := by
  unfold readRounds
  rw [List.map_map]
  change ((List.range _).map fun round =>
    (entries.drop (chunk * round)).take
      (min chunk (entries.length - chunk * round))).flatten = _
  rw [flatten_rounds]
  apply List.take_of_length_le
  have enough :=
    @Nat.lt_div_mul_add (entries.length + chunk - 1) chunk positive
  rw [Nat.mul_comm] at enough
  omega

theorem read_of_holds
    {read : Nat → Nat → Option (List Entry)} {entries : List Entry}
    (holds : Holds read entries) {chunk : Nat} {round : Nat × Nat}
    (member : round ∈ readRounds chunk entries.length) :
    read round.1 round.2 =
      some ((entries.drop round.1).take round.2) := by
  rcases List.mem_map.mp member with ⟨index, within, rfl⟩
  apply holds
  have bound := List.mem_range.mp within
  by_cases inside : chunk * index ≤ entries.length
  · simp only
    omega
  · exfalso
    have product : chunk * index + chunk ≤
        chunk * ((entries.length + chunk - 1) / chunk) := by
      calc
        chunk * index + chunk = chunk * (index + 1) := (Nat.mul_succ _ _).symm
        _ ≤ chunk * ((entries.length + chunk - 1) / chunk) :=
          Nat.mul_le_mul_left _ bound
    have most := Nat.mul_div_le (entries.length + chunk - 1) chunk
    omega

theorem readAll_of_holds
    {read : Nat → Nat → Option (List Entry)} {entries : List Entry}
    (holds : Holds read entries) {chunk : Nat} (positive : 0 < chunk) :
    readAll read chunk entries.length = some entries := by
  have rounds : ∀ list ⊆ readRounds chunk entries.length,
      (list.mapM fun round => read round.1 round.2) =
        some (list.map fun round => (entries.drop round.1).take round.2) := by
    intro list within
    induction list with
    | nil => rfl
    | cons round rest induction =>
        rw [List.cons_subset] at within
        rw [List.mapM_cons, read_of_holds holds within.1,
          induction within.2]
        rfl
  rw [readAll, rounds _ (List.Subset.refl _)]
  exact congrArg some (flatten_readRounds entries positive)

theorem readWhile_of_holds
    {read : Nat → Nat → Option (List Entry)} {entries : List Entry}
    (holds : Holds read entries) {chunk : Nat} (positive : 0 < chunk) :
    readWhile read (readRounds chunk entries.length) = entries := by
  have rounds : ∀ list ⊆ readRounds chunk entries.length,
      readWhile read list =
        (list.map fun round => (entries.drop round.1).take round.2).flatten := by
    intro list within
    induction list with
    | nil => rfl
    | cons round rest induction =>
        rw [List.cons_subset] at within
        rw [readWhile, read_of_holds holds within.1, List.map_cons,
          List.flatten_cons, induction within.2]
  rw [rounds _ (List.Subset.refl _)]
  exact flatten_readRounds entries positive

/-- An array whose first entry cannot be read gives nothing. -/
theorem readAll_of_unreadable
    {read : Nat → Nat → Option (List Entry)} {chunk count : Nat}
    (unreadable : read 0 (min chunk count) = none) (positive : 0 < chunk)
    (some : 0 < count) : readAll read chunk count = none := by
  have rounds : 0 < (count + chunk - 1) / chunk :=
    Nat.div_pos (by omega) positive
  rcases Nat.exists_eq_succ_of_ne_zero (Nat.ne_of_gt rounds) with ⟨more, shape⟩
  unfold readAll readRounds
  rw [shape, List.range_succ_eq_map, List.map_cons, List.mapM_cons]
  simp [unreadable]

theorem readWhile_of_unreadable
    {read : Nat → Nat → Option (List Entry)} {chunk count : Nat}
    (unreadable : read 0 (min chunk count) = none) :
    readWhile read (readRounds chunk count) = [] := by
  unfold readRounds
  cases rounds : (count + chunk - 1) / chunk with
  | zero => rfl
  | succ more =>
      rw [List.range_succ_eq_map, List.map_cons, readWhile]
      simp [unreadable]

end ChaosLibs.Machine
