import Mathlib.Algebra.Order.Ring.Nat
import Mathlib.Data.List.Basic
import Mathlib.Data.List.Nodup

/-!
# Bits that differ

In how many bits two sequences of bytes differ, place by place.  The bits add up along
the sequence; a byte that is changed at one place of distinct cells counts alone.
-/

namespace ChaosLibs.Machine.BitErrors

/-- In how many bits two bytes differ. -/
def byteErrors (byte other : UInt8) : Nat :=
  (List.range 8).countP fun place =>
    byte.toNat.testBit place != other.toNat.testBit place

/-- In how many bits two sequences differ. -/
def bitErrors (bytes others : List UInt8) : Nat :=
  (List.zipWith byteErrors bytes others).sum

@[simp]
theorem byteErrors_self (byte : UInt8) : byteErrors byte byte = 0 := by
  rw [byteErrors, List.countP_eq_zero]
  intro place _
  rw [bne_self_eq_false]
  exact Bool.false_ne_true

/-- One bit of a byte is the other way round. -/
theorem byteErrors_eq_one {byte other : UInt8} {flipped : Nat} (within : flipped < 8)
    (bits : ∀ place, byte.toNat.testBit place =
      (other.toNat.testBit place ^^ decide (place = flipped))) :
    byteErrors byte other = 1 := by
  have same : (fun place => byte.toNat.testBit place != other.toNat.testBit place) =
      fun place => place == flipped := by
    funext place
    rw [bits]
    by_cases here : place = flipped <;> simp [here]
  rw [byteErrors, same]
  exact List.count_eq_one_of_mem List.nodup_range (List.mem_range.mpr within)

@[simp]
theorem bitErrors_nil (others : List UInt8) : bitErrors [] others = 0 :=
  rfl

theorem bitErrors_cons (byte other : UInt8) (bytes others : List UInt8) :
    bitErrors (byte :: bytes) (other :: others) =
      byteErrors byte other + bitErrors bytes others :=
  rfl

@[simp]
theorem bitErrors_self (bytes : List UInt8) : bitErrors bytes bytes = 0 := by
  induction bytes with
  | nil => rfl
  | cons byte rest induction => rw [bitErrors_cons, byteErrors_self, induction]

theorem bitErrors_append {bytes others : List UInt8} (even : bytes.length = others.length)
    (rest further : List UInt8) :
    bitErrors (bytes ++ rest) (others ++ further) =
      bitErrors bytes others + bitErrors rest further := by
  rw [bitErrors, List.zipWith_append even, List.sum_append]
  rfl

/-- Cells that differ at one of their places. -/
theorem bitErrors_map_eq_one {Cell : Type*} {cells : List Cell} (distinct : cells.Nodup)
    {place : Nat} {changed : Cell} (here : cells[place]? = some changed)
    {after before : Cell → UInt8}
    (elsewhere : ∀ cell, cell ≠ changed → after cell = before cell)
    (one : byteErrors (after changed) (before changed) = 1) :
    bitErrors (cells.map after) (cells.map before) = 1 := by
  rcases List.getElem?_eq_some_iff.mp here with ⟨inside, isChanged⟩
  have split : cells = cells.take place ++ changed :: cells.drop (place + 1) := by
    rw [← isChanged, List.getElem_cons_drop, List.take_append_drop]
  have apart := split ▸ distinct
  rw [List.nodup_middle, List.nodup_cons, List.mem_append, not_or] at apart
  have unchanged : ∀ part : List Cell, changed ∉ part → part.map after = part.map before := by
    intro part missing
    apply List.map_congr_left
    intro cell member
    exact elsewhere cell fun same => missing (same ▸ member)
  rw [split, List.map_append, List.map_append, List.map_cons, List.map_cons,
    unchanged _ apart.1.1, unchanged _ apart.1.2, bitErrors_append rfl, bitErrors_self,
    bitErrors_cons, bitErrors_self, one]

end ChaosLibs.Machine.BitErrors
