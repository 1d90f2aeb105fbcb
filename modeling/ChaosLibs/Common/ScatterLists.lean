import Mathlib.Data.List.Nodup
import ChaosLibs.Machine.ByteMemory
import ChaosLibs.Machine.Segments

/-!
# Scatter lists

A `struct iovec` array names buffers of the caller, zero-length ones included; together
they hold one sequence of bytes, whose addresses are the cells of the array.  libchaos-io
and libchaos-net cut such an array at a limit, and flip one bit of what a vectored receive
delivered, by the same walks; both are those of the sequence.
-/

namespace ChaosLibs.Common.ScatterLists

open ChaosLibs.Machine
open ChaosLibs.Machine.ByteMemory

/-- `struct iovec`; base 0 is `NULL`. -/
structure Iovec where
  iovBase : Nat
  iovLen : UInt64
deriving DecidableEq, Repr

/-- The addresses of a buffer. -/
def Iovec.cells (entry : Iovec) : List Nat :=
  range entry.iovBase entry.iovLen.toNat

/-- The addresses of all buffers, in their order. -/
def cells (entries : List Iovec) : List Nat :=
  (entries.map Iovec.cells).flatten

/-- The sum of the lengths. -/
def totalBytes (entries : List Iovec) : Nat :=
  (entries.map fun entry => entry.iovLen.toNat).sum

@[simp]
theorem length_cellsOf (entry : Iovec) :
    entry.cells.length = entry.iovLen.toNat :=
  List.length_range'

@[simp]
theorem cells_nil : cells [] = [] :=
  rfl

@[simp]
theorem cells_cons (entry : Iovec) (rest : List Iovec) :
    cells (entry :: rest) = entry.cells ++ cells rest :=
  rfl

@[simp]
theorem totalBytes_cons (entry : Iovec) (rest : List Iovec) :
    totalBytes (entry :: rest) = entry.iovLen.toNat + totalBytes rest :=
  rfl

theorem length_cells (entries : List Iovec) :
    (cells entries).length = totalBytes entries := by
  rw [cells, List.length_flatten, List.map_map]
  exact congrArg List.sum
    (List.map_congr_left fun entry _ => length_cellsOf entry)

/-! ## Cutting -/

/-- An entry cut to a number of bytes. -/
def Iovec.cutTo (entry : Iovec) (limit : Nat) : Iovec :=
  { entry with iovLen := UInt64.ofNat (min entry.iovLen.toNat limit) }

/-- The walk of both libraries that copies the entries up to a limit. -/
def limitIovecs : List Iovec → Nat → List Iovec
  | [], _ => []
  | entry :: rest, remaining =>
      if remaining = 0 then []
      else
        entry.cutTo remaining ::
          limitIovecs rest
            (remaining - (entry.cutTo remaining).iovLen.toNat)

theorem cutTo_length (entry : Iovec) (limit : Nat) :
    (entry.cutTo limit).iovLen.toNat = min entry.iovLen.toNat limit := by
  have fits := entry.iovLen.toNat_lt
  rw [Iovec.cutTo, UInt64.toNat_ofNat', Nat.mod_eq_of_lt (by omega)]

/-- A cut entry holds the first bytes of its buffer. -/
theorem cells_cutTo (entry : Iovec) (limit : Nat) :
    (entry.cutTo limit).cells = entry.cells.take limit := by
  rw [Iovec.cells, cutTo_length, Iovec.cells]
  rcases Nat.le_total entry.iovLen.toNat limit with whole | less
  · rw [Nat.min_eq_left whole, List.take_range'_of_length_le whole]
    rfl
  · rw [Nat.min_eq_right less, List.take_range'_of_length_ge less]
    rfl

/-- The walk is the cut of the sequence. -/
theorem map_cells_limitIovecs (entries : List Iovec) (limit : Nat) :
    (limitIovecs entries limit).map Iovec.cells =
      Segments.cut (entries.map Iovec.cells) limit := by
  induction entries generalizing limit with
  | nil => rfl
  | cons entry rest induction =>
      rw [limitIovecs, List.map_cons, Segments.cut]
      by_cases spent : limit = 0
      · rw [if_pos spent, if_pos spent, List.map_nil]
      · rw [if_neg spent, if_neg spent, List.map_cons, induction,
          cells_cutTo, ← length_cellsOf (entry.cutTo limit), cells_cutTo]

/-- What the cut entries hold. -/
theorem cells_limitIovecs (entries : List Iovec) (limit : Nat) :
    cells (limitIovecs entries limit) = (cells entries).take limit := by
  rw [cells, map_cells_limitIovecs, Segments.flatten_cut, cells]

/-- The cut entries fit where the entries fit. -/
theorem length_limitIovecs_le (entries : List Iovec) (limit : Nat) :
    (limitIovecs entries limit).length ≤ entries.length := by
  have most := Segments.length_cut_le (entries.map Iovec.cells) limit
  rwa [← map_cells_limitIovecs, List.length_map, List.length_map] at most

/-! ## Flipping a bit -/

/-- The byte with the sampled bit flipped. -/
def flipBit (byte : UInt8) (bitSample : UInt32) : UInt8 :=
  byte ^^^ ((1 : UInt32) <<< (bitSample &&& 7)).toUInt8

/-- Memory with a bit flipped at an address. -/
def flipAt (memory : Memory) (bitSample : UInt32) (address : Nat) : Memory :=
  Function.update memory address (flipBit (memory address) bitSample)

/-- `chaos_io_corrupt_buffer_sample` and `chaos_net_corrupt_buffer_sample`. -/
def corruptBufferSample
    (memory : Memory) (buffer size : Nat) (indexSample bitSample : UInt32) :
    Memory :=
  if buffer = 0 ∨ size = 0 then memory
  else flipAt memory bitSample (buffer + indexSample.toNat % size)

/-- The walk to the entry that holds the byte at an index. -/
def corruptWalk (memory : Memory) (bitSample : UInt32) :
    List Iovec → Nat → Nat → Memory
  | [], _, _ => memory
  | entry :: rest, remaining, index =>
      if remaining = 0 then memory
      else if index < min entry.iovLen.toNat remaining then
        corruptBufferSample memory entry.iovBase
          (min entry.iovLen.toNat remaining) (UInt32.ofNat index) bitSample
      else
        corruptWalk memory bitSample rest
          (remaining - min entry.iovLen.toNat remaining)
          (index - min entry.iovLen.toNat remaining)

/-- `chaos_io_corrupt_iovecs` and `chaos_net_corrupt_iovecs`. -/
def corruptIovecs
    (memory : Memory) (iov : Option (List Iovec)) (size : Nat)
    (indexSample bitSample : UInt32) : Memory :=
  match iov with
  | none => memory
  | some entries =>
      if entries = [] ∨ size = 0 then memory
      else
        corruptWalk memory bitSample entries size (indexSample.toNat % size)

/-- Flipping a bit changes that bit and no other. -/
theorem testBit_flipBit (byte : UInt8) (bitSample : UInt32) (place : Nat) :
    (flipBit byte bitSample).toNat.testBit place =
      (byte.toNat.testBit place ^^ decide (place = bitSample.toNat % 8)) := by
  have least : (bitSample &&& 7).toNat = bitSample.toNat % 8 := by
    rw [UInt32.toNat_and]
    exact Nat.and_two_pow_sub_one_eq_mod bitSample.toNat 3
  have below : bitSample.toNat % 8 < 8 := Nat.mod_lt _ (by decide)
  have bit : ((1 : UInt32) <<< (bitSample &&& 7)).toUInt8.toNat =
      2 ^ (bitSample.toNat % 8) := by
    have small : 2 ^ (bitSample.toNat % 8) < 2 ^ 8 :=
      Nat.pow_lt_pow_right (by decide) below
    rw [UInt32.toNat_toUInt8, UInt32.toNat_shiftLeft, least,
      Nat.mod_eq_of_lt (by omega : bitSample.toNat % 8 < 32), UInt32.toNat_one,
      Nat.one_shiftLeft, Nat.mod_eq_of_lt (by omega : _ < 2 ^ 32),
      Nat.mod_eq_of_lt small]
  rw [flipBit, UInt8.toNat_xor, Nat.testBit_xor, bit, Nat.testBit_two_pow]
  exact congrArg _ (decide_eq_decide.mpr eq_comm)

/-- The buffers of a receive of `size` bytes: the vector holds them, and none
of their bytes lies at `NULL`. -/
structure Filled (entries : List Iovec) (size : Nat) : Prop where
  held : size ≤ totalBytes entries
  mapped : 0 ∉ (cells entries).take size

/-- The walk flips a bit of the cell at the index. -/
theorem corruptWalk_eq
    (memory : Memory) (bitSample : UInt32)
    {entries : List Iovec} {remaining index : Nat}
    (mapped : 0 ∉ (cells entries).take remaining)
    (small : index < 2 ^ 32) :
    corruptWalk memory bitSample entries remaining index =
      (Segments.locate (entries.map Iovec.cells) remaining index).elim memory
        (flipAt memory bitSample) := by
  induction entries generalizing remaining index with
  | nil => rfl
  | cons entry rest induction =>
      rw [corruptWalk, List.map_cons, Segments.locate]
      by_cases spent : remaining = 0
      · rw [if_pos spent, if_pos spent]
        rfl
      have part : (entry.cells.take remaining).length =
          min entry.iovLen.toNat remaining := by
        rw [List.length_take, length_cellsOf, Nat.min_comm]
      rw [if_neg spent, if_neg spent, part]
      rw [cells_cons, List.take_append, List.mem_append, not_or] at mapped
      by_cases here : index < min entry.iovLen.toNat remaining
      · have cell : (entry.cells.take remaining)[index]? =
            some (entry.iovBase + index) := by
          rw [List.getElem?_take_of_lt (by omega), Iovec.cells,
            List.getElem?_range' (by omega), Nat.one_mul]
        have base : entry.iovBase ≠ 0 := by
          intro null
          apply mapped.1
          rw [List.mem_iff_getElem?]
          refine ⟨0, ?_⟩
          rw [List.getElem?_take_of_lt (by omega), Iovec.cells,
            List.getElem?_range' (by omega), null]
        rw [if_pos here, if_pos here, cell, Option.elim_some,
          corruptBufferSample, if_neg (by omega), UInt32.toNat_ofNat',
          Nat.mod_eq_of_lt small, Nat.mod_eq_of_lt here]
      · rw [if_neg here, if_neg here]
        apply induction
        · rw [length_cellsOf] at mapped
          rw [show remaining - min entry.iovLen.toNat remaining =
            remaining - entry.iovLen.toNat by omega]
          exact mapped.2
        · omega

/-- The vectored routine flips a bit of the cell at the flat index. -/
theorem corruptIovecs_eq
    (memory : Memory) (indexSample bitSample : UInt32)
    {entries : List Iovec} {size : Nat}
    (filled : Filled entries size) :
    corruptIovecs memory (some entries) size indexSample bitSample =
      (((cells entries).take size)[indexSample.toNat % size]?).elim memory
        (flipAt memory bitSample) := by
  have small : indexSample.toNat % size < 2 ^ 32 :=
    Nat.lt_of_le_of_lt (Nat.mod_le _ _) indexSample.toNat_lt
  show (if entries = [] ∨ size = 0 then memory else _) = _
  by_cases nothing : entries = [] ∨ size = 0
  · have empty : (cells entries).take size = [] := by
      rcases nothing with none | zero
      · rw [none, cells_nil, List.take_nil]
      · rw [zero, List.take_zero]
    rw [if_pos nothing, empty, List.getElem?_nil]
    rfl
  · rw [if_neg nothing, corruptWalk_eq memory bitSample filled.mapped small,
      Segments.locate_eq, cells]

/-- A flip at one place of a list of distinct addresses. -/
theorem map_flipAt
    (memory : Memory) (bitSample : UInt32)
    {addresses : List Nat} (distinct : addresses.Nodup)
    {index address : Nat} (here : addresses[index]? = some address) :
    addresses.map (flipAt memory bitSample address) =
      (addresses.map memory).modify index fun byte =>
        flipBit byte bitSample := by
  apply List.ext_getElem?
  intro place
  rw [List.getElem?_modify, List.getElem?_map, List.getElem?_map]
  by_cases same : index = place
  · subst same
    rw [here, Option.map_some, Option.map_some, flipAt, Function.update_self]
    simp only [if_true, Option.map_eq_map, Option.map_some]
  · simp only [if_neg same, Option.map_eq_map, Option.map_id']
    cases there : addresses[place]? with
    | none => rfl
    | some other =>
        have apart : other ≠ address := by
          rintro rfl
          apply same
          have inside := (List.getElem?_eq_some_iff.mp here).1
          exact (List.getElem?_inj inside distinct).mp (here.trans there.symm)
        exact congrArg some (Function.update_of_ne apart _ _)

/-- What a flat routine does to one buffer, done to the first `size` bytes of
a scatter list. -/
structure FlatlyCorrupted
    (flat : Memory → Nat → Nat → UInt32 → UInt32 → Memory)
    (entries : List Iovec) (size : Nat) (indexSample bitSample : UInt32)
    (memory after : Memory) : Prop where
  untouched : size = 0 → after = memory
  flipped : 0 < size → ∃ address,
    (cells entries)[indexSample.toNat % size]? = some address ∧
      (∀ place, (after address).toNat.testBit place =
        ((memory address).toNat.testBit place ^^
          decide (place = bitSample.toNat % 8))) ∧
      ∀ other, other ≠ address → after other = memory other
  agrees : ((cells entries).take size).Nodup →
    ∀ (elsewhere : Memory) (buffer : Nat), buffer ≠ 0 →
      contents elsewhere buffer size =
        ((cells entries).take size).map memory →
      contents (flat elsewhere buffer size indexSample bitSample) buffer size =
        ((cells entries).take size).map after

/-- The vectored routine does to the sequence what the flat one does to a
buffer. -/
theorem corruptIovecs_flat
    (memory : Memory) (indexSample bitSample : UInt32)
    {entries : List Iovec} {size : Nat}
    (filled : Filled entries size) :
    FlatlyCorrupted corruptBufferSample entries size indexSample bitSample
      memory
      (corruptIovecs memory (some entries) size indexSample bitSample) := by
  have result := corruptIovecs_eq memory indexSample bitSample filled
  have length : ((cells entries).take size).length = size := by
    rw [List.length_take, length_cells, Nat.min_eq_left filled.held]
  rcases Nat.eq_zero_or_pos size with zero | positive
  · subst zero
    rw [List.take_zero, List.getElem?_nil, Option.elim_none] at result
    exact
      { untouched := fun _ => result
        flipped := fun positive => absurd positive (Nat.lt_irrefl 0)
        agrees := fun _ _ _ _ _ => rfl }
  have within : indexSample.toNat % size < size := Nat.mod_lt _ positive
  have found : ∃ address,
      ((cells entries).take size)[indexSample.toNat % size]? = some address :=
    ⟨_, List.getElem?_eq_getElem (by rw [length]; exact within)⟩
  rcases found with ⟨address, here⟩
  rw [here, Option.elim_some] at result
  rw [result]
  exact
    { untouched := fun zero => absurd zero (Nat.ne_of_gt positive)
      flipped := fun _ => by
        refine ⟨address, ?_, ?_, ?_⟩
        · rw [← here, List.getElem?_take_of_lt within]
        · intro place
          rw [flipAt, Function.update_self, testBit_flipBit]
        · intro other apart
          exact Function.update_of_ne apart _ _
      agrees := fun distinct elsewhere buffer base same => by
        have cell : (range buffer size)[indexSample.toNat % size]? =
            some (buffer + indexSample.toNat % size) := by
          rw [List.getElem?_range' within, Nat.one_mul]
        rw [corruptBufferSample, if_neg (by omega), contents,
          map_flipAt elsewhere bitSample List.nodup_range' cell,
          map_flipAt memory bitSample distinct here]
        exact congrArg (fun bytes : List UInt8 =>
          bytes.modify _ fun byte => flipBit byte bitSample) same }

end ChaosLibs.Common.ScatterLists
