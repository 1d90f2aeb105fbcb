import ChaosLibs.Common.CString
import ChaosLibs.Machine.Indices

/-!
# The slots of a process

What `chaos_init_tracee.c` keeps for one process and one library: the rule load
its slots belong to, and for each rule the hash of its text and its slot.  A
synchronisation takes over the slots of the texts that stay.  What a slot holds
is a parameter, with the slot of a new text.
-/

namespace ChaosLibs.Init.TraceeSlots

open ChaosLibs.Common.CString

/-- `CHAOS_INIT_MAX_TRACEES`. -/
abbrev chaosInitMaxTracees : Nat := 128

/-- `chaos_init_hash`: FNV-1a. -/
def chaosInitHash (text : Bytes) : UInt64 :=
  text.foldl (fun hash byte => (hash ^^^ byte.toUInt64) * 0x100000001b3)
    0xcbf29ce484222325

/-- `hashes[i]` and `slots[i]`. -/
structure Row (Slot : Type*) where
  hash : UInt64
  slot : Slot
deriving DecidableEq

/-- `generation`, and the first `count` rows. -/
structure ProcessSlots (Slot : Type*) where
  generation : Nat
  rows : List (Row Slot)

variable {Slot : Type*}

/-- A free entry. -/
def ProcessSlots.empty : ProcessSlots Slot :=
  ⟨0, []⟩

/-- The row of a rule text: the first old slot with its hash, or a new one. -/
def rowOf (fresh : Bytes → Slot) (old : List (Row Slot)) (text : Bytes) :
    Row Slot :=
  { hash := chaosInitHash text
    slot := ((old.find? fun row => row.hash == chaosInitHash text).map
      Row.slot).getD (fresh text) }

/-- `chaos_init_tracee_sync`, the snapshot being `texts` under `generation`. -/
def chaosInitTraceeSync (maxRules : Nat) (fresh : Bytes → Slot)
    (texts : List Bytes) (generation : Nat) (slots : ProcessSlots Slot) :
    ProcessSlots Slot :=
  if slots.generation = generation then slots
  else ⟨generation, (texts.take maxRules).map (rowOf fresh slots.rows)⟩

variable {maxRules generation : Nat} {fresh : Bytes → Slot}
variable {texts : List Bytes} {slots : ProcessSlots Slot}

@[simp]
theorem hash_rowOf (old : List (Row Slot)) (text : Bytes) :
    (rowOf fresh old text).hash = chaosInitHash text :=
  rfl

/-- A row is new, or takes over the first old slot of its hash. -/
theorem slot_rowOf (old : List (Row Slot)) (text : Bytes) :
    (rowOf fresh old text).slot = fresh text ∧
        (∀ row ∈ old, row.hash ≠ chaosInitHash text) ∨
      ∃ row ∈ old, row.hash = chaosInitHash text ∧
        (rowOf fresh old text).slot = row.slot := by
  unfold rowOf
  cases found : old.find? fun row => row.hash == chaosInitHash text with
  | none =>
      refine Or.inl ⟨rfl, fun row member same => ?_⟩
      have different := List.find?_eq_none.mp found row member
      exact different (beq_iff_eq.mpr same)
  | some row =>
      have same := List.find?_some found
      exact Or.inr ⟨row, List.mem_of_find?_eq_some found, beq_iff_eq.mp same, rfl⟩

theorem generation_chaosInitTraceeSync :
    (chaosInitTraceeSync maxRules fresh texts generation slots).generation =
      generation := by
  unfold chaosInitTraceeSync
  split
  · assumption
  · rfl

theorem rows_chaosInitTraceeSync_of_ne (stale : slots.generation ≠ generation) :
    (chaosInitTraceeSync maxRules fresh texts generation slots).rows =
      (texts.take maxRules).map (rowOf fresh slots.rows) := by
  unfold chaosInitTraceeSync
  rw [if_neg stale]

end ChaosLibs.Init.TraceeSlots
