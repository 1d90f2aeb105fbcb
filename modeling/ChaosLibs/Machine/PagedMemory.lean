import Mathlib.Data.List.Basic
import Mathlib.Data.Nat.Init
import Mathlib.Order.Basic

/-!
# Address spaces of mapped and unmapped pages

A page is mapped as a whole.  A read copies bytes up to the first unmapped
address, so a read inside a block that divides the pages copies all of it or
nothing; a string is the bytes before the first NUL, all of them mapped.
-/

namespace ChaosLibs.Machine

/-- The bytes of a process, `none` at an unmapped address. -/
structure AddressSpace where
  pageSize : Nat
  byte : Nat → Option UInt8
  whole : ∀ address other, address / pageSize = other / pageSize →
    (byte address).isSome = (byte other).isSome

namespace AddressSpace

variable (space : AddressSpace) {address size : Nat}

/-- What a read of a range copies. -/
def copied : Nat → Nat → List UInt8
  | _, 0 => []
  | address, size + 1 =>
      match space.byte address with
      | none => []
      | some value => value :: copied (address + 1) size

/-- The string at an address: its bytes, none of them NUL, and the NUL. -/
structure StringAt (address : Nat) (text : List UInt8) : Prop where
  bytes : ∀ index < text.length, space.byte (address + index) = text[index]?
  proper : 0 ∉ text
  ended : space.byte (address + text.length) = some 0

variable {space}

/-- The copied bytes are those of the address space. -/
theorem getElem?_copied {index : Nat}
    (inside : index < (space.copied address size).length) :
    (space.copied address size)[index]? = space.byte (address + index) := by
  induction size generalizing address index with
  | zero => cases inside
  | succ size induction =>
      rw [copied] at inside ⊢
      cases here : space.byte address with
      | none =>
          rw [here] at inside
          cases inside
      | some value =>
          rw [here] at inside
          cases index with
          | zero => exact here.symm
          | succ index =>
              rw [List.getElem?_cons_succ,
                induction (Nat.lt_of_succ_lt_succ inside), Nat.add_right_comm]
              rfl

/-- All of a mapped range is copied. -/
theorem length_copied_of_mapped
    (mapped : ∀ index < size, (space.byte (address + index)).isSome) :
    (space.copied address size).length = size := by
  induction size generalizing address with
  | zero => rfl
  | succ size induction =>
      have first := mapped 0 (Nat.zero_lt_succ size)
      rw [Nat.add_zero] at first
      rcases Option.isSome_iff_exists.mp first with ⟨value, here⟩
      rw [copied, here, List.length_cons]
      refine congrArg Nat.succ (induction fun index below => ?_)
      have later := mapped (index + 1) (Nat.succ_lt_succ below)
      rwa [Nat.add_right_comm]

/-- One mapped address of a block maps all of it. -/
theorem mapped_of_same_block
    {block : Nat} (divides : block ∣ space.pageSize) {other : Nat}
    (same : address / block = other / block) :
    (space.byte address).isSome = (space.byte other).isSome := by
  rcases divides with ⟨blocks, size⟩
  apply space.whole
  rw [size, ← Nat.div_div_eq_div_mul, ← Nat.div_div_eq_div_mul, same]

/-! ## Strings -/

theorem StringAt.mapped
    {text : List UInt8} (string : space.StringAt address text)
    {index : Nat} (within : index ≤ text.length) :
    (space.byte (address + index)).isSome := by
  rcases Nat.lt_or_eq_of_le within with inside | last
  · rw [string.bytes index inside, List.getElem?_eq_getElem inside]
    rfl
  · rw [last, string.ended]
    rfl

/-- A NUL among the bytes of a range ends the string at its start. -/
theorem StringAt.length_le
    {text : List UInt8} (string : space.StringAt address text)
    {index : Nat} (nul : space.byte (address + index) = some 0) :
    text.length ≤ index := by
  by_contra short
  have here := string.bytes index (Nat.lt_of_not_le short)
  rw [nul] at here
  exact string.proper (List.mem_of_getElem? here.symm)

/-- No string ends before bytes that are not NUL. -/
theorem StringAt.le_length
    {text : List UInt8} (string : space.StringAt address text)
    {seen : List UInt8}
    (bytes : ∀ index < seen.length,
      space.byte (address + index) = seen[index]?)
    (proper : 0 ∉ seen) :
    seen.length ≤ text.length := by
  by_contra long
  have here := bytes text.length (Nat.lt_of_not_le long)
  rw [string.ended] at here
  exact proper (List.mem_of_getElem? here.symm)

/-- There is one string at an address. -/
theorem StringAt.unique
    {text other : List UInt8} (string : space.StringAt address text)
    (another : space.StringAt address other) : text = other := by
  have length : text.length = other.length :=
    Nat.le_antisymm (string.length_le another.ended)
      (another.length_le string.ended)
  apply List.ext_getElem? fun index => ?_
  by_cases inside : index < text.length
  · rw [← string.bytes index inside, another.bytes index (length ▸ inside)]
  · rw [List.getElem?_eq_none (Nat.le_of_not_lt inside),
      List.getElem?_eq_none (length ▸ Nat.le_of_not_lt inside)]

end AddressSpace

end ChaosLibs.Machine
