import Mathlib.Data.List.Basic

/-!
# Classic BPF

The instructions of classic BPF that a system call filter is made of, and what a
program of them returns.  Every jump goes forward, by a number of instructions
that is counted from the next one, so a program is run along its list: `skip`
instructions are still to be jumped over.  A program that runs off its end, or
that loads a word there is none of, returns nothing.
-/

namespace ChaosLibs.Machine.ClassicBpf

/-- The codes: `BPF_LD | BPF_W | BPF_ABS` and the others. -/
inductive Code where
  | ldWAbs
  | jmpJeqK
  | jmpJgeK
  | retK
deriving DecidableEq, Repr

/-- `struct sock_filter`. -/
structure SockFilter where
  code : Code
  jt : UInt8
  jf : UInt8
  k : UInt32
deriving DecidableEq, Repr

/-- `BPF_STMT`. -/
def bpfStmt (code : Code) (k : UInt32) : SockFilter :=
  ⟨code, 0, 0, k⟩

/-- `BPF_JUMP`. -/
def bpfJump (code : Code) (k : UInt32) (jt jf : UInt8) : SockFilter :=
  ⟨code, jt, jf, k⟩

variable (load : UInt32 → Option UInt32)

/-- What a program returns; `load` is the word at an offset. -/
def interpret : List SockFilter → Nat → UInt32 → Option UInt32
  | [], _, _ => none
  | _ :: rest, skip + 1, accumulator => interpret rest skip accumulator
  | op :: rest, 0, accumulator =>
      match op.code with
      | .ldWAbs => (load op.k).bind fun word => interpret rest 0 word
      | .jmpJeqK =>
          interpret rest (if accumulator = op.k then op.jt else op.jf).toNat
            accumulator
      | .jmpJgeK =>
          interpret rest (if op.k ≤ accumulator then op.jt else op.jf).toNat
            accumulator
      | .retK => some op.k

variable {load}

/-! ## One instruction -/

section Instructions

variable (rest : List SockFilter) (accumulator k : UInt32) (jt jf : UInt8)

theorem interpret_ld :
    interpret load (bpfStmt .ldWAbs k :: rest) 0 accumulator =
      (load k).bind fun word => interpret load rest 0 word :=
  rfl

theorem interpret_jeq :
    interpret load (bpfJump .jmpJeqK k jt jf :: rest) 0 accumulator =
      interpret load rest (if accumulator = k then jt else jf).toNat
        accumulator :=
  rfl

theorem interpret_jge :
    interpret load (bpfJump .jmpJgeK k jt jf :: rest) 0 accumulator =
      interpret load rest (if k ≤ accumulator then jt else jf).toNat
        accumulator :=
  rfl

theorem interpret_skip (op : SockFilter) (skip : Nat) :
    interpret load (op :: rest) (skip + 1) accumulator =
      interpret load rest skip accumulator :=
  rfl

end Instructions

/-- A jump over a whole block. -/
theorem interpret_skip_append
    (front back : List SockFilter) (skip : Nat) (accumulator : UInt32) :
    interpret load (front ++ back) (front.length + skip) accumulator =
      interpret load back skip accumulator := by
  induction front with
  | nil => rw [List.nil_append, List.length_nil, Nat.zero_add]
  | cons op rest induction =>
      rw [List.cons_append, List.length_cons, Nat.add_right_comm,
        interpret_skip]
      exact induction

/-! ## Programs that no jump leaves -/

/-- What an instruction may jump to, or go on with, is in the program. -/
def SockFilter.Within (op : SockFilter) (rest : List SockFilter) : Prop :=
  match op.code with
  | .ldWAbs => 0 < rest.length
  | .jmpJeqK | .jmpJgeK =>
      op.jt.toNat < rest.length ∧ op.jf.toNat < rest.length
  | .retK => True

/-- No jump leaves the program, and it does not run off its end. -/
def Contained : List SockFilter → Prop
  | [] => True
  | op :: rest => op.Within rest ∧ Contained rest

/-! ## A chain of tests -/

/-- A test of the accumulator for one of `keys`, which jumps behind `tail` of them. -/
def chain (keys : List UInt32) (tail : Nat) : List SockFilter :=
  match keys with
  | [] => []
  | key :: rest =>
      bpfJump .jmpJeqK key (.ofNat (rest.length + tail)) 0 :: chain rest tail

@[simp]
theorem length_chain (keys : List UInt32) (tail : Nat) :
    (chain keys tail).length = keys.length := by
  induction keys with
  | nil => rfl
  | cons key rest induction =>
      unfold chain
      rw [List.length_cons, List.length_cons, induction]

variable {keys : List UInt32} {tail : Nat}

theorem toNat_ofNat_of_lt {number : Nat} (small : number < 256) :
    (UInt8.ofNat number).toNat = number := by
  rw [UInt8.toNat_ofNat']
  exact Nat.mod_eq_of_lt small

/-- A chain of keys goes on at `tail` if the accumulator is one of them. -/
theorem interpret_chain
    (short : keys.length + tail ≤ 256) (back : List SockFilter)
    (accumulator : UInt32) :
    interpret load (chain keys tail ++ back) 0 accumulator =
      interpret load back (if accumulator ∈ keys then tail else 0)
        accumulator := by
  induction keys with
  | nil => rw [if_neg List.not_mem_nil]; rfl
  | cons key rest induction =>
      rw [List.length_cons] at short
      unfold chain
      rw [List.cons_append, interpret_jeq]
      by_cases found : accumulator = key
      · have jump : (UInt8.ofNat (rest.length + tail)).toNat =
            (chain rest tail).length + tail := by
          rw [length_chain]
          apply toNat_ofNat_of_lt
          omega
        have member : accumulator ∈ key :: rest := by
          rw [found]
          exact List.mem_cons_self
        rw [if_pos found, jump, interpret_skip_append, if_pos member]
      · have same : accumulator ∈ key :: rest ↔ accumulator ∈ rest := by
          rw [List.mem_cons, or_iff_right found]
        rw [if_neg found]
        simp only [same]
        apply induction
        omega

/-- No test of a chain leaves the program it is in. -/
theorem contained_chain
    (short : keys.length + tail ≤ 256) {back : List SockFilter}
    (contained : Contained back) (inside : tail < back.length) :
    Contained (chain keys tail ++ back) := by
  induction keys with
  | nil => exact contained
  | cons key rest induction =>
      rw [List.length_cons] at short
      refine ⟨⟨?_, ?_⟩, induction (by omega)⟩
      · show (UInt8.ofNat (rest.length + tail)).toNat <
          (chain rest tail ++ back).length
        rw [toNat_ofNat_of_lt (by omega), List.length_append, length_chain]
        omega
      · show 0 < (chain rest tail ++ back).length
        rw [List.length_append]
        omega

end ChaosLibs.Machine.ClassicBpf
