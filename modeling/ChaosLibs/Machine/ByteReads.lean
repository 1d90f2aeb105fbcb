import ChaosLibs.Machine.ByteMemory
import ChaosLibs.Machine.ReadProgram

/-!
# Programs that read bytes

A program over a byte memory, and the range of addresses that it stays in.  Parts of a
program that stay in a range make a program that does.
-/

namespace ChaosLibs.Machine.ByteReads

open ChaosLibs.Machine
open ChaosLibs.Machine.ByteMemory

/-- A program that reads the bytes of a memory. -/
abbrev ByteProgram (Result : Type) := ReadProgram Nat (fun _ => UInt8) Result

/-- Some bytes, one after the other. -/
def loadBytes : (start count : Nat) → ByteProgram (List UInt8)
  | _, 0 => pure []
  | start, count + 1 => do
      let first ← ReadProgram.load start
      let rest ← loadBytes (start + 1) count
      pure (first :: rest)

variable {memory : Memory} {start size : Nat} {Result Next : Type}

@[simp]
theorem eval_loadBytes (memory : Memory) (start count : Nat) :
    (loadBytes start count).eval memory = contents memory start count := by
  induction count generalizing start with
  | zero => rfl
  | succ count induction =>
      rw [loadBytes, ReadProgram.eval_bind, ReadProgram.eval_load,
        ReadProgram.eval_bind, induction]
      rfl

theorem reads_loadBytes (memory : Memory) (start count : Nat) :
    (loadBytes start count).reads memory = List.range' start count := by
  induction count generalizing start with
  | zero => rfl
  | succ count induction =>
      rw [loadBytes, ReadProgram.reads_bind, ReadProgram.reads_bind, induction,
        ReadProgram.reads_pure, List.append_nil]
      rfl

/-! ## Ranges -/

/-- Every byte that the program reads lies in a range. -/
def Within (memory : Memory) (start size : Nat) (program : ByteProgram Result) : Prop :=
  ∀ address ∈ program.reads memory, start ≤ address ∧ address < start + size

theorem within_pure (result : Result) :
    Within memory start size (pure result : ByteProgram Result) :=
  fun _ member => absurd member List.not_mem_nil

theorem Within.bind
    {program : ByteProgram Result} {continuation : Result → ByteProgram Next}
    (first : Within memory start size program)
    (next : Within memory start size (continuation (program.eval memory))) :
    Within memory start size (program >>= continuation) := by
  intro address member
  rw [ReadProgram.reads_bind] at member
  rcases List.mem_append.mp member with here | later
  · exact first address here
  · exact next address later

theorem within_loadBytes {address count : Nat} (above : start ≤ address)
    (below : address + count ≤ start + size) :
    Within memory start size (loadBytes address count) := by
  intro other member
  rw [reads_loadBytes] at member
  rcases List.mem_range'_1.mp member with ⟨least, most⟩
  exact ⟨above.trans least, most.trans_le below⟩

/-- A range that lies in another one; it may be empty, wherever it starts. -/
theorem Within.mono {program : ByteProgram Result} {outer whole : Nat}
    (within : Within memory start size program)
    (inside : ∀ address, start ≤ address → address < start + size →
      outer ≤ address ∧ address < outer + whole) :
    Within memory outer whole program :=
  fun address member =>
    inside address (within address member).1 (within address member).2

/-! ## Results -/

/-- The program comes to a result, and what it reads for that lies in a range. -/
structure Yields (memory : Memory) (start size : Nat) (program : ByteProgram Result)
    (result : Result) : Prop where
  eval : program.eval memory = result
  within : Within memory start size program

theorem yields_pure (result : Result) :
    Yields memory start size (pure result : ByteProgram Result) result :=
  ⟨rfl, within_pure result⟩

theorem yields_loadBytes {address count : Nat} (above : start ≤ address)
    (below : address + count ≤ start + size) :
    Yields memory start size (loadBytes address count) (contents memory address count) :=
  ⟨eval_loadBytes memory address count, within_loadBytes above below⟩

theorem Yields.bind {program : ByteProgram Result} {continuation : Result → ByteProgram Next}
    {result : Result} {outcome : Next}
    (first : Yields memory start size program result)
    (next : Yields memory start size (continuation result) outcome) :
    Yields memory start size (program >>= continuation) outcome := by
  have result_eq := first.eval
  subst result_eq
  exact ⟨(ReadProgram.eval_bind memory program continuation).trans next.eval,
    first.within.bind next.within⟩

theorem Yields.mono {program : ByteProgram Result} {result : Result} {outer whole : Nat}
    (yields : Yields memory start size program result)
    (inside : ∀ address, start ≤ address → address < start + size →
      outer ≤ address ∧ address < outer + whole) :
    Yields memory outer whole program result :=
  ⟨yields.eval, yields.within.mono inside⟩

end ChaosLibs.Machine.ByteReads
