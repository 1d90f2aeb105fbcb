import ChaosLibs.Machine.ByteMemory

/-!
# Logs of writes

Several writes to a byte-addressed memory, one after the other.  What a write put down is
read back when no later write overlaps it, and an address that no write covers is as it
was.  An array of pointers that ends in 0 is read from such a memory as its words.
-/

namespace ChaosLibs.Machine.WriteLog

open ChaosLibs.Machine.ByteMemory

/-- Bytes written from an address on. -/
structure Write where
  start : Nat
  bytes : List UInt8
deriving DecidableEq, Repr

/-- The address behind a write. -/
def Write.stop (write : Write) : Nat :=
  write.start + write.bytes.length

/-- Two writes do not overlap. -/
def Apart (first second : Write) : Prop :=
  first.stop ≤ second.start ∨ second.stop ≤ first.start

/-- The memory after some writes. -/
def run (memory : Memory) (log : List Write) : Memory :=
  log.foldl (fun memory write => store memory write.start write.bytes) memory

variable {memory : Memory} {log : List Write}

@[simp]
theorem run_nil (memory : Memory) : run memory [] = memory :=
  rfl

@[simp]
theorem run_cons (memory : Memory) (write : Write) (log : List Write) :
    run memory (write :: log) = run (store memory write.start write.bytes) log :=
  rfl

theorem run_append (memory : Memory) (log later : List Write) :
    run memory (log ++ later) = run (run memory log) later :=
  List.foldl_append

/-- An address that no write covers is as it was. -/
theorem run_outside {address : Nat}
    (outside : ∀ write ∈ log, address < write.start ∨ write.stop ≤ address) :
    run memory log address = memory address := by
  induction log generalizing memory with
  | nil => rfl
  | cons write log induction =>
      rw [run_cons, induction fun later member => outside later (List.mem_cons_of_mem _ member)]
      exact store_outside (outside write List.mem_cons_self)

/-- Bytes that no later write overlaps are as they were. -/
theorem contents_run_apart {write : Write}
    (apart : ∀ later ∈ log, Apart write later) :
    contents (run memory log) write.start write.bytes.length =
      contents memory write.start write.bytes.length := by
  apply contents_congr
  intro address least most
  apply run_outside
  intro later member
  have sides := apart later member
  unfold Apart Write.stop at sides
  unfold Write.stop
  omega

/-- Every write is read back when no two of them overlap. -/
theorem contents_run (apart : log.Pairwise Apart) {write : Write} (member : write ∈ log) :
    contents (run memory log) write.start write.bytes.length = write.bytes := by
  induction log generalizing memory with
  | nil => cases member
  | cons first log induction =>
      rcases List.pairwise_cons.mp apart with ⟨fromFirst, later⟩
      rw [run_cons]
      rcases List.mem_cons.mp member with rfl | inLog
      · rw [contents_run_apart fromFirst, contents_store]
      · exact induction later inLog

/-- A word that was written is read back. -/
theorem wordAt_run (apart : log.Pairwise Apart) {start word : Nat}
    (member : ⟨start, wordBytes word⟩ ∈ log) (fits : word < 2 ^ 64) :
    wordAt (run memory log) start = word := by
  have stored := @contents_run memory _ apart _ member
  rw [length_wordBytes] at stored
  exact wordAt_of_contents stored fits

/-! ## Arrays of pointers -/

/-- The pointers of an array up to the 0 that ends it. -/
inductive PointersAt (memory : Memory) : Nat → List Nat → Prop where
  | last {start : Nat} (null : wordAt memory start = 0) : PointersAt memory start []
  | next {start pointer : Nat} {rest : List Nat} (word : wordAt memory start = pointer)
      (some : pointer ≠ 0) (later : PointersAt memory (start + 8) rest) :
      PointersAt memory start (pointer :: rest)

/-- An array has one reading. -/
theorem PointersAt.unique {start : Nat} {pointers others : List Nat}
    (first : PointersAt memory start pointers) (second : PointersAt memory start others) :
    pointers = others := by
  induction first generalizing others with
  | last null =>
      cases second with
      | last _ => rfl
      | next word some _ => exact absurd (word.symm.trans null) some
  | next word some _ induction =>
      cases second with
      | last null => exact absurd (word.symm.trans null) some
      | next again _ later => rw [induction later, ← word, ← again]

/-- An array whose words are known one by one. -/
theorem pointersAt_of_words {start : Nat} (pointers : List Nat)
    (some : ∀ pointer ∈ pointers, pointer ≠ 0)
    (words : ∀ index pointer, pointers[index]? = Option.some pointer →
      wordAt memory (start + 8 * index) = pointer)
    (null : wordAt memory (start + 8 * pointers.length) = 0) :
    PointersAt memory start pointers := by
  induction pointers generalizing start with
  | nil => exact .last null
  | cons pointer rest induction =>
      refine .next (words 0 pointer rfl) (some pointer List.mem_cons_self) ?_
      apply induction fun pointer member => some pointer (List.mem_cons_of_mem _ member)
      · intro index pointer found
        have word := words (index + 1) pointer found
        rwa [Nat.mul_add, Nat.mul_one, Nat.add_comm (8 * index), ← Nat.add_assoc] at word
      · rwa [List.length_cons, Nat.mul_add, Nat.mul_one, Nat.add_comm (8 * rest.length),
          ← Nat.add_assoc] at null

end ChaosLibs.Machine.WriteLog
