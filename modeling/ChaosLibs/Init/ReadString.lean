import ChaosLibs.Machine.PagedMemory
import Mathlib.Algebra.Order.Ring.Nat

/-!
# Strings of a tracee

The supervisor reads a path argument in chunks that end at a page boundary or at the end of
its buffer.  A chunk lies in one page, so it is read as a whole or the string cannot go on
into it; the string is found exactly when its NUL is mapped and lies within the buffer.
-/

namespace ChaosLibs.Init.ReadString

open ChaosLibs.Machine

/-- `CHAOS_INIT_PAGE`. -/
def chaosInitPage : Nat := 4096

/-- `chaos_init_read_memory`; `none` where it returns -1, as for a read that
comes short. -/
def chaosInitReadMemory
    (space : AddressSpace) (address size : Nat) : Option (List UInt8) :=
  if (space.copied address size).length ≠ size then none
  else some (space.copied address size)

/-- The size of the chunk that is read behind `length` bytes. -/
def chunkSize (address : UInt64) (size length : Nat) : Nat :=
  min (chaosInitPage - (address + UInt64.ofNat length).toNat % chaosInitPage)
    (size - length)

/-- A chunk is never empty, so the loop ends. -/
theorem chunkSize_pos {address : UInt64} {size length : Nat}
    (room : length < size) : 0 < chunkSize address size length := by
  have inPage := Nat.mod_lt (address + UInt64.ofNat length).toNat
    (by decide : 0 < chaosInitPage)
  unfold chunkSize
  omega

/-- A returned value, and what was written to the buffer. -/
structure StringRead where
  value : Int
  out : List UInt8

/-- The loop of `chaos_init_read_string`, behind the bytes in `out`.  The value
is a distance inside an object, so it fits a `long`. -/
def readStringFrom
    (space : AddressSpace) (address : UInt64) (size length : Nat)
    (out : List UInt8) : StringRead :=
  if room : length < size then
    match chaosInitReadMemory space (address + UInt64.ofNat length).toNat
        (chunkSize address size length) with
    | none => ⟨-1, out⟩
    | some bytes =>
        match bytes.findIdx? (fun byte => byte == 0) with
        | some index => ⟨length + index, out ++ bytes⟩
        | none =>
            readStringFrom space address size
              (length + chunkSize address size length) (out ++ bytes)
  else ⟨-1, out⟩
termination_by size - length
decreasing_by
  have positive : 0 < chunkSize address size length := chunkSize_pos room
  omega

/-- `chaos_init_read_string`. -/
def chaosInitReadString
    (space : AddressSpace) (address : UInt64) (size : Nat) : StringRead :=
  readStringFrom space address size 0 []

variable {space : AddressSpace} {address : UInt64} {size : Nat}

/-- The bytes read so far, none of them NUL. -/
structure Scanned (space : AddressSpace) (address : UInt64)
    (out : List UInt8) : Prop where
  bytes : ∀ index < out.length,
    space.byte (address.toNat + index) = out[index]?
  proper : 0 ∉ out

/-- What a read may come to: the string, or none that ends in the buffer. -/
def Outcome (space : AddressSpace) (address : UInt64) (size : Nat)
    (read : StringRead) : Prop :=
  (∃ text, space.StringAt address.toNat text ∧ text.length < size ∧
    read.value = text.length ∧
    read.out.take (text.length + 1) = text ++ [0]) ∨
  (read.value = -1 ∧
    ∀ text, space.StringAt address.toNat text → size ≤ text.length)

/-- The address of a chunk does not wrap. -/
theorem toNat_add_of_fits {length : Nat}
    (fits : address.toNat + size ≤ 2 ^ 64) (room : length < size) :
    (address + UInt64.ofNat length).toNat = address.toNat + length := by
  rw [UInt64.toNat_add, UInt64.toNat_ofNat',
    Nat.mod_eq_of_lt (by omega : length < 2 ^ 64)]
  exact Nat.mod_eq_of_lt (by omega)

/-- A chunk stays in the block of its first address. -/
theorem block_of_chunk {length index : Nat}
    (fits : address.toNat + size ≤ 2 ^ 64) (room : length < size)
    (within : index < chunkSize address size length) :
    (address.toNat + length + index) / chaosInitPage =
      (address.toNat + length) / chaosInitPage := by
  unfold chunkSize at within
  rw [toNat_add_of_fits fits room] at within
  unfold chaosInitPage at within ⊢
  omega

/-- A string that goes on behind the bytes read has its next chunk mapped. -/
theorem read_of_string
    (divides : chaosInitPage ∣ space.pageSize)
    (fits : address.toNat + size ≤ 2 ^ 64)
    {length : Nat} (room : length < size)
    {text : List UInt8} (string : space.StringAt address.toNat text)
    (behind : length ≤ text.length) :
    chaosInitReadMemory space (address + UInt64.ofNat length).toNat
        (chunkSize address size length) =
      some (space.copied (address.toNat + length)
        (chunkSize address size length)) := by
  have whole : (space.copied (address.toNat + length)
      (chunkSize address size length)).length =
        chunkSize address size length := by
    apply AddressSpace.length_copied_of_mapped
    intro index within
    rw [AddressSpace.mapped_of_same_block divides
      (block_of_chunk fits room within)]
    exact string.mapped behind
  rw [toNat_add_of_fits fits room, chaosInitReadMemory,
    if_neg (not_not.mpr whole)]

/-- What a read that succeeds delivers. -/
theorem bytes_of_read
    {length : Nat} (fits : address.toNat + size ≤ 2 ^ 64)
    (room : length < size) {bytes : List UInt8}
    (read : chaosInitReadMemory space (address + UInt64.ofNat length).toNat
      (chunkSize address size length) = some bytes) :
    bytes.length = chunkSize address size length ∧
      ∀ index < bytes.length,
        space.byte (address.toNat + length + index) = bytes[index]? := by
  rw [toNat_add_of_fits fits room, chaosInitReadMemory] at read
  split at read
  · cases read
  · next whole =>
      have same := Option.some.inj read
      subst same
      exact ⟨not_not.mp whole, fun index inside =>
        (AddressSpace.getElem?_copied inside).symm⟩

/-- The chunks read go on from each other. -/
theorem bytes_append
    {out bytes : List UInt8}
    (scanned : Scanned space address out)
    (read : ∀ index < bytes.length,
      space.byte (address.toNat + out.length + index) = bytes[index]?) :
    ∀ index < (out ++ bytes).length,
      space.byte (address.toNat + index) = (out ++ bytes)[index]? := by
  intro index inside
  rw [List.length_append] at inside
  by_cases before : index < out.length
  · rw [scanned.bytes index before, List.getElem?_append_left before]
  · have further := read (index - out.length) (by omega)
    rw [List.getElem?_append_right (Nat.le_of_not_lt before), ← further]
    congr 1
    omega

/-- The first NUL of a chunk ends the string. -/
theorem string_of_nul
    {out bytes : List UInt8} {index : Nat}
    (scanned : Scanned space address out)
    (read : ∀ index < bytes.length,
      space.byte (address.toNat + out.length + index) = bytes[index]?)
    (nul : bytes.findIdx? (fun byte => byte == 0) = some index) :
    space.StringAt address.toNat (out ++ bytes.take index) ∧
      (out ++ bytes.take index).length = out.length + index ∧
      (out ++ bytes).take (out.length + index + 1) =
        out ++ bytes.take index ++ [0] := by
  rcases List.findIdx?_eq_some_iff_getElem.mp nul with ⟨inside, zero, earlier⟩
  have ends : bytes[index] = 0 := beq_iff_eq.mp zero
  have length : (out ++ bytes.take index).length = out.length + index := by
    rw [List.length_append, List.length_take_of_le (Nat.le_of_lt inside)]
  have start : out ++ bytes.take index =
      (out ++ bytes).take (out.length + index) := by
    rw [List.take_append,
      List.take_of_length_le (Nat.le_add_right out.length index),
      Nat.add_sub_cancel_left]
  have whole := bytes_append scanned read
  refine ⟨⟨?_, ?_, ?_⟩, length, ?_⟩
  · intro place below
    rw [length] at below
    rw [start, List.getElem?_take_of_lt below]
    apply whole
    rw [List.length_append]
    omega
  · rw [List.mem_append, not_or]
    refine ⟨scanned.proper, fun member => ?_⟩
    rcases List.mem_take_iff_getElem.mp member with ⟨place, below, here⟩
    have proper := earlier place (by omega)
    rw [here] at proper
    exact absurd rfl proper
  · rw [length, ← Nat.add_assoc, read index inside,
      List.getElem?_eq_getElem inside, ends]
  · rw [start, List.take_add_one, List.getElem?_append_right (by omega),
      Nat.add_sub_cancel_left, List.getElem?_eq_getElem inside, ends]
    rfl

theorem scanned_append
    {out bytes : List UInt8}
    (scanned : Scanned space address out)
    (read : ∀ index < bytes.length,
      space.byte (address.toNat + out.length + index) = bytes[index]?)
    (proper : bytes.findIdx? (fun byte => byte == 0) = none) :
    Scanned space address (out ++ bytes) := by
  refine ⟨bytes_append scanned read, ?_⟩
  rw [List.mem_append, not_or]
  refine ⟨scanned.proper, fun member => ?_⟩
  have nonzero := List.findIdx?_eq_none_iff.mp proper 0 member
  exact absurd nonzero (by decide)

/-- The loop, from any bytes read so far. -/
theorem outcome_of_scanned
    (divides : chaosInitPage ∣ space.pageSize)
    (fits : address.toNat + size ≤ 2 ^ 64)
    {out : List UInt8} (scanned : Scanned space address out) :
    Outcome space address size
      (readStringFrom space address size out.length out) := by
  induction remaining : size - out.length using Nat.strong_induction_on
    generalizing out with
  | _ remaining induction =>
      unfold readStringFrom
      by_cases room : out.length < size
      · rw [dif_pos room]
        cases read : chaosInitReadMemory space
            (address + UInt64.ofNat out.length).toNat
            (chunkSize address size out.length) with
        | none =>
            refine Or.inr ⟨rfl, fun text string => ?_⟩
            have behind := string.le_length scanned.bytes scanned.proper
            have whole := read_of_string divides fits room string behind
            rw [read] at whole
            cases whole
        | some bytes =>
            rcases bytes_of_read fits room read with ⟨length, further⟩
            dsimp only
            cases nul : bytes.findIdx? (fun byte => byte == 0) with
            | some index =>
                rcases string_of_nul scanned further nul with
                  ⟨string, whole, taken⟩
                have inside :=
                  (List.findIdx?_eq_some_iff_getElem.mp nul).1
                have within : chunkSize address size out.length ≤
                    size - out.length := Nat.min_le_right _ _
                refine Or.inl ⟨_, string, by omega, ?_, ?_⟩
                · rw [whole]
                  exact (Int.natCast_add _ _).symm
                · rw [whole]
                  exact taken
            | none =>
                have positive : 0 < chunkSize address size out.length :=
                  chunkSize_pos room
                have more := scanned_append scanned further nul
                have total : (out ++ bytes).length =
                    out.length + chunkSize address size out.length := by
                  rw [List.length_append, length]
                dsimp only
                rw [← total]
                exact induction (size - (out ++ bytes).length)
                  (by omega) more rfl
      · rw [dif_neg room]
        refine Or.inr ⟨rfl, fun text string => ?_⟩
        have behind := string.le_length scanned.bytes scanned.proper
        omega

/-- The read returns `length` exactly when the string there has that length and
lies in the buffer with its NUL; it is then copied with the NUL, and any other
read returns -1. -/
theorem readString_exact
    (space : AddressSpace) (address : UInt64) (size : Nat)
    (divides : chaosInitPage ∣ space.pageSize)
    (fits : address.toNat + size ≤ 2 ^ 64) :
    (∀ length : Nat,
      (chaosInitReadString space address size).value = length ↔
        ∃ text, space.StringAt address.toNat text ∧ text.length = length ∧
          length < size) ∧
      (∀ text, space.StringAt address.toNat text → text.length < size →
        (chaosInitReadString space address size).out.take (text.length + 1) =
          text ++ [0]) ∧
      ((chaosInitReadString space address size).value = -1 ∨
        ∃ length : Nat,
          (chaosInitReadString space address size).value = length) := by
  have scanned : Scanned space address [] :=
    ⟨fun _ none => absurd none (Nat.not_lt_zero _), List.not_mem_nil⟩
  have outcome : Outcome space address size
      (chaosInitReadString space address size) :=
    outcome_of_scanned divides fits scanned
  rcases outcome with ⟨text, string, room, value, out⟩ | ⟨value, none⟩
  · refine ⟨fun length => ⟨fun same => ?_, ?_⟩, ?_, Or.inr ⟨_, value⟩⟩
    · rw [value] at same
      exact ⟨text, string, Int.ofNat_inj.mp same, Int.ofNat_inj.mp same ▸ room⟩
    · rintro ⟨other, another, rfl, _⟩
      rw [value, string.unique another]
    · intro other another _
      rw [← string.unique another, out]
  · refine ⟨fun length => ⟨fun same => ?_, ?_⟩, ?_, Or.inl value⟩
    · rw [value] at same
      omega
    · rintro ⟨text, string, rfl, room⟩
      exact absurd (none text string) (Nat.not_le_of_lt room)
    · intro text string room
      exact absurd (none text string) (Nat.not_le_of_lt room)

/-- One mapped page, with a string in its last two bytes. -/
def lastPage : AddressSpace where
  pageSize := 4096
  byte address :=
    if address / 4096 = 1 then some (if address = 8190 then 97 else 0)
    else none
  whole := by
    intro address other same
    rw [same]
    split <;> rfl

/-- The string before an unmapped page is found in a buffer that is longer. -/
theorem readString_exact_lastPage :
    (chaosInitReadString lastPage 8190 256).value = (1 : Nat) := by
  refine ((readString_exact lastPage 8190 256 (Nat.dvd_refl 4096)
    (by decide)).1 1).mpr ⟨[97], ⟨?_, by decide, rfl⟩, rfl, by decide⟩
  intro index inside
  rw [Nat.lt_one_iff.mp inside]
  rfl

end ChaosLibs.Init.ReadString
