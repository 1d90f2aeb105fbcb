import Mathlib.Data.List.Basic
import Mathlib.Data.List.TakeDrop
import Mathlib.Data.Nat.Digits.Defs
import Mathlib.Logic.Function.Basic

/-!
# Byte-addressed memory

The contents of a range of addresses, a store of several bytes, and a store of
a 64-bit word.  A store is read back where it was made and leaves every other
address as it was.
-/

namespace ChaosLibs.Machine.ByteMemory

/-- The byte at each address. -/
abbrev Memory := Nat → UInt8

/-- The addresses of a range. -/
abbrev range (start length : Nat) : List Nat := List.range' start length

/-- The bytes of a range. -/
def contents (memory : Memory) (start length : Nat) : List UInt8 :=
  (range start length).map memory

/-- Bytes written from an address on. -/
def store (memory : Memory) (start : Nat) (bytes : List UInt8) : Memory :=
  fun address =>
    if address < start then memory address
    else (bytes[address - start]?).getD (memory address)

/-- The bytes of a 64-bit word, the lowest first. -/
def wordBytes (word : Nat) : List UInt8 :=
  (List.range 8).map fun place => UInt8.ofNat (word / 256 ^ place)

/-- The 64-bit word at an address. -/
def wordAt (memory : Memory) (start : Nat) : Nat :=
  Nat.ofDigits 256 ((contents memory start 8).map UInt8.toNat)

variable {memory : Memory} {start length : Nat} {bytes : List UInt8}

@[simp]
theorem length_contents (memory : Memory) (start length : Nat) :
    (contents memory start length).length = length := by
  rw [contents, List.length_map, List.length_range']

@[simp]
theorem length_wordBytes (word : Nat) : (wordBytes word).length = 8 := by
  rw [wordBytes, List.length_map, List.length_range]

theorem getElem?_contents {index : Nat} (inside : index < length) :
    (contents memory start length)[index]? = some (memory (start + index)) := by
  rw [contents, List.getElem?_map, List.getElem?_range' inside, Nat.one_mul]
  rfl

theorem drop_contents (memory : Memory) (start length count : Nat) :
    (contents memory start length).drop count =
      contents memory (start + count) (length - count) := by
  rw [contents, ← List.map_drop, range, List.drop_range', Nat.mul_one]
  rfl

theorem take_contents {count : Nat} (inside : count ≤ length) :
    (contents memory start length).take count = contents memory start count := by
  rw [contents, ← List.map_take, range, List.take_range'_of_length_ge inside]
  rfl

/-! ## What a store does -/

/-- A store leaves the addresses outside its range as they were. -/
theorem store_outside
    {address : Nat}
    (outside : address < start ∨ start + bytes.length ≤ address) :
    store memory start bytes address = memory address := by
  unfold store
  rcases outside with below | above
  · rw [if_pos below]
  · rw [if_neg (by omega), List.getElem?_eq_none (by omega)]
    rfl

theorem store_inside {index : Nat} (inside : index < bytes.length) :
    some (store memory start bytes (start + index)) = bytes[index]? := by
  rw [store, if_neg (by omega), Nat.add_sub_cancel_left,
    List.getElem?_eq_getElem inside]
  rfl

/-- What was stored is read back. -/
theorem contents_store (memory : Memory) (start : Nat) (bytes : List UInt8) :
    contents (store memory start bytes) start bytes.length = bytes := by
  apply List.ext_getElem?
  intro index
  by_cases inside : index < bytes.length
  · rw [getElem?_contents inside, store_inside inside]
  · rw [List.getElem?_eq_none (by rw [length_contents]; omega),
      List.getElem?_eq_none (by omega)]

/-- A store behind another one is one store. -/
theorem store_append (memory : Memory) (start : Nat) (first second : List UInt8) :
    store (store memory start first) (start + first.length) second =
      store memory start (first ++ second) := by
  funext address
  unfold store
  by_cases below : address < start
  · rw [if_pos below, if_pos (by omega), if_pos below]
  rw [if_neg below, if_neg below]
  by_cases inFirst : address - start < first.length
  · rw [if_pos (by omega), List.getElem?_append_left inFirst]
  · rw [if_neg (by omega), List.getElem?_append_right (by omega),
      List.getElem?_eq_none (by omega : first.length ≤ address - start),
      Nat.sub_add_eq address start first.length]
    rfl

/-- Bytes written to cells, one to each. -/
def storeCells (memory : Memory) : List Nat → List UInt8 → Memory
  | cell :: cells, byte :: bytes =>
      Function.update (storeCells memory cells bytes) cell byte
  | _, _ => memory

/-- What was stored is read back from distinct cells. -/
theorem map_storeCells (memory : Memory) {cells : List Nat} (distinct : cells.Nodup)
    (even : cells.length = bytes.length) :
    cells.map (storeCells memory cells bytes) = bytes := by
  induction cells generalizing bytes with
  | nil => rw [List.map_nil, List.length_eq_zero_iff.mp even.symm]
  | cons cell rest induction =>
      rcases bytes with _ | ⟨byte, bytes⟩
      · cases even
      rcases List.nodup_cons.mp distinct with ⟨apart, distinct⟩
      rw [storeCells, List.map_cons, Function.update_self]
      refine congrArg (byte :: ·) ((List.map_congr_left ?_).trans
        (induction distinct (Nat.succ.inj even)))
      intro other member
      refine Function.update_of_ne ?_ _ _
      rintro rfl
      exact apart member

/-- Equal memories over a range have equal contents there. -/
theorem contents_congr
    {other : Memory}
    (same : ∀ address, start ≤ address → address < start + length →
      memory address = other address) :
    contents memory start length = contents other start length := by
  apply List.map_congr_left
  intro address member
  rcases List.mem_range'_1.mp member with ⟨least, most⟩
  exact same address least most

/-! ## Words -/

/-- The low bytes of a number are its digits. -/
theorem ofDigits_bytes (word count : Nat) :
    Nat.ofDigits 256 (((List.range count).map fun place =>
      UInt8.ofNat (word / 256 ^ place)).map UInt8.toNat) =
      word % 256 ^ count := by
  induction count with
  | zero => rw [Nat.pow_zero, Nat.mod_one]; rfl
  | succ count induction =>
      rw [List.range_succ, List.map_append, List.map_append,
        Nat.ofDigits_append, induction, List.length_map, List.length_map,
        List.length_range, List.map_singleton, List.map_singleton,
        Nat.ofDigits_singleton, Nat.pow_succ, Nat.mod_mul]
      rfl

/-- The bytes of a word are read as the word. -/
theorem wordAt_of_contents {word : Nat}
    (stored : contents memory start 8 = wordBytes word) (fits : word < 2 ^ 64) :
    wordAt memory start = word := by
  rw [wordAt, stored, wordBytes, ofDigits_bytes]
  exact Nat.mod_eq_of_lt fits

end ChaosLibs.Machine.ByteMemory
