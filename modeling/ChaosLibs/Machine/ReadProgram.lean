import Mathlib.Algebra.Order.Ring.Nat
import Mathlib.Algebra.Ring.Int.Defs
import Mathlib.Data.List.Basic

/-!
# Programs that read shared cells

A computation over a memory that others may change between any two of its
reads.  Each cell has a type of its own.  Run by itself on a memory, a program
is the function `eval`; run step by step, each `advance` may meet another
memory.  The two agree as long as the memory stays the same.
-/

namespace ChaosLibs.Machine

/-- A program that reads cells one at a time and ends with a result. -/
inductive ReadProgram
    (Cell : Type) (Value : Cell → Type) (Result : Type) where
  | done (result : Result)
  | read (cell : Cell) (next : Value cell → ReadProgram Cell Value Result)

namespace ReadProgram

variable {Cell : Type} {Value : Cell → Type} {Result Next : Type}

/-- Go on with the result of a program. -/
def bind : ReadProgram Cell Value Result →
    (Result → ReadProgram Cell Value Next) → ReadProgram Cell Value Next
  | .done result, continuation => continuation result
  | .read cell next, continuation =>
      .read cell fun value => (next value).bind continuation

instance : Monad (ReadProgram Cell Value) where
  pure := .done
  bind := bind

/-- Read one cell. -/
def load (cell : Cell) : ReadProgram Cell Value (Value cell) :=
  .read cell .done

/-- The result on a memory that stays the same. -/
def eval (memory : ∀ cell, Value cell) :
    ReadProgram Cell Value Result → Result
  | .done result => result
  | .read cell next => (next (memory cell)).eval memory

/-- The cells that it reads on a memory that stays the same, in their order. -/
def reads (memory : ∀ cell, Value cell) :
    ReadProgram Cell Value Result → List Cell
  | .done _ => []
  | .read cell next => cell :: (next (memory cell)).reads memory

/-- The next read; nothing once the program is done. -/
def advance (memory : ∀ cell, Value cell) :
    ReadProgram Cell Value Result → ReadProgram Cell Value Result
  | .done result => .done result
  | .read cell next => next (memory cell)

variable (memory : ∀ cell, Value cell)

@[simp]
theorem eval_pure (result : Result) :
    (pure result : ReadProgram Cell Value Result).eval memory = result :=
  rfl

@[simp]
theorem eval_load (cell : Cell) :
    (load cell : ReadProgram Cell Value (Value cell)).eval memory =
      memory cell :=
  rfl

@[simp]
theorem eval_bind
    (program : ReadProgram Cell Value Result)
    (continuation : Result → ReadProgram Cell Value Next) :
    (program >>= continuation).eval memory =
      (continuation (program.eval memory)).eval memory := by
  change (program.bind continuation).eval memory = _
  induction program with
  | done result => rfl
  | read cell next induction => exact induction (memory cell)

@[simp]
theorem eval_ite
    {condition : Prop} [Decidable condition]
    (left right : ReadProgram Cell Value Result) :
    (if condition then left else right).eval memory =
      if condition then left.eval memory else right.eval memory := by
  split <;> rfl

@[simp]
theorem reads_pure (result : Result) :
    (pure result : ReadProgram Cell Value Result).reads memory = [] :=
  rfl

@[simp]
theorem reads_load (cell : Cell) :
    (load cell : ReadProgram Cell Value (Value cell)).reads memory = [cell] :=
  rfl

@[simp]
theorem reads_bind
    (program : ReadProgram Cell Value Result)
    (continuation : Result → ReadProgram Cell Value Next) :
    (program >>= continuation).reads memory =
      program.reads memory ++
        (continuation (program.eval memory)).reads memory := by
  change (program.bind continuation).reads memory = _
  induction program with
  | done result => rfl
  | read cell next induction => exact congrArg (cell :: ·) (induction (memory cell))

/-- A read does not change what the program comes to on this memory. -/
@[simp]
theorem eval_advance (program : ReadProgram Cell Value Result) :
    (program.advance memory).eval memory = program.eval memory := by
  cases program with
  | done result => rfl
  | read cell next => rfl

end ReadProgram

end ChaosLibs.Machine
