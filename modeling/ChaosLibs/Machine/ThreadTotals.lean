import Mathlib.Algebra.BigOperators.Fin
import Mathlib.Algebra.Order.BigOperators.Group.Finset

/-!
# Totals over threads

A weight summed over the stages that any number of threads are in, and what it
becomes when one thread moves on.
-/

namespace ChaosLibs.Machine

open Finset

variable {count : Nat} {Stage : Type*}

/-- The weights of the stages of all threads. -/
def total (weight : Stage → Nat) (threads : Fin count → Stage) : Nat :=
  ∑ thread, weight (threads thread)

/-- One thread moves: its old weight goes, its new one comes. -/
theorem total_update
    (weight : Stage → Nat) (threads : Fin count → Stage) (thread : Fin count)
    (stage : Stage) :
    total weight (Function.update threads thread stage) +
        weight (threads thread) =
      total weight threads + weight stage := by
  have others : ∑ other ∈ univ.erase thread,
        weight (Function.update threads thread stage other) =
      ∑ other ∈ univ.erase thread, weight (threads other) := by
    apply sum_congr rfl
    intro other member
    rw [Function.update_of_ne (ne_of_mem_erase member)]
  unfold total
  rw [← add_sum_erase univ _ (mem_univ thread), others,
    ← add_sum_erase univ (fun other => weight (threads other))
      (mem_univ thread),
    Function.update_self, Nat.add_right_comm, Nat.add_comm (weight stage),
    Nat.add_right_comm]

theorem total_update_of_eq
    {weight : Stage → Nat} {threads : Fin count → Stage} {thread : Fin count}
    {stage : Stage} (same : weight stage = weight (threads thread)) :
    total weight (Function.update threads thread stage) =
      total weight threads := by
  have moved := total_update weight threads thread stage
  rw [same] at moved
  exact Nat.add_right_cancel moved

theorem total_add
    (first second : Stage → Nat) (threads : Fin count → Stage) :
    total (fun stage => first stage + second stage) threads =
      total first threads + total second threads :=
  sum_add_distrib

theorem total_le_total
    {small large : Stage → Nat} (threads : Fin count → Stage)
    (below : ∀ thread, small (threads thread) ≤ large (threads thread)) :
    total small threads ≤ total large threads :=
  sum_le_sum fun thread _ => below thread

end ChaosLibs.Machine
