import ChaosLibs.Init.Verdict
import ChaosLibs.Search.SwapRemove

/-!
# The delay queue

The queue of `chaos_init_delay.c`: notifications that are answered when they
are due.  It is an unordered array, searched from its start.
-/

namespace ChaosLibs.Init.DelayQueue

open ChaosLibs.Init.Verdict
open ChaosLibs.Search

/-- A notified call, system calls named by their number. -/
abbrev Call := ChaosInitCall Int

/-- `chaos_init_delayed_t`. -/
structure ChaosInitDelayed where
  id : Nat
  call : Call
  dueMs : Nat
  answer : ChaosInitVerdict
deriving DecidableEq

/-- `CHAOS_INIT_MAX_DELAYED`. -/
def chaosInitMaxDelayed : Nat := 1024

/-- `g_chaos_init_delayed`. -/
abbrev Queue := List ChaosInitDelayed

/-- `chaos_init_delay_add`; `none` when the queue is full. -/
def chaosInitDelayAdd (queue : Queue) (entry : ChaosInitDelayed) : Option Queue :=
  if queue.length = chaosInitMaxDelayed then none else some (queue ++ [entry])

/--
`chaos_init_delay_resume`: the first entry of the same thread, number and arguments
takes the new id; the id it had comes along.
-/
def chaosInitDelayResume (call : Call) (id : Nat) :
    Queue → Option (Nat × Queue)
  | [] => none
  | parked :: rest =>
      if parked.call = call then
        some (parked.id, { parked with id := id } :: rest)
      else
        (chaosInitDelayResume call id rest).map fun (old, left) =>
          (old, parked :: left)

/-- `chaos_init_delay_next`: the earliest due time. -/
def chaosInitDelayNext : Queue → Option Nat
  | [] => none
  | first :: rest =>
      some (rest.foldl
        (fun due entry => if entry.dueMs < due then entry.dueMs else due)
        first.dueMs)

/-- `chaos_init_delay_pop`: the first entry that is due, and the others. -/
def chaosInitDelayPop (queue : Queue) (nowMs : Nat) :
    Option (ChaosInitDelayed × Queue) :=
  match queue.findIdx? fun entry => entry.dueMs ≤ nowMs with
  | none => none
  | some index =>
      queue[index]?.map fun entry => (entry, swapRemove queue index)

variable {queue left : Queue} {call : Call} {id old nowMs : Nat}
variable {entry : ChaosInitDelayed}

/-! ## Resumption -/

theorem chaosInitDelayResume_eq_none :
    chaosInitDelayResume call id queue = none ↔
      ∀ entry ∈ queue, entry.call ≠ call := by
  induction queue with
  | nil => exact iff_of_true rfl nofun
  | cons parked rest induction =>
      unfold chaosInitDelayResume
      split
      · rename_i same
        exact iff_of_false nofun fun others =>
          others parked List.mem_cons_self same
      · rename_i other
        rw [Option.map_eq_none_iff, induction, List.forall_mem_cons,
          and_iff_right other]

/-- One entry takes the new id. -/
theorem split_of_chaosInitDelayResume
    (resumed : chaosInitDelayResume call id queue = some (old, left)) :
    ∃ before parked after, queue = before ++ parked :: after ∧
      left = before ++ { parked with id := id } :: after ∧
        parked.call = call ∧ parked.id = old := by
  induction queue generalizing left with
  | nil => cases resumed
  | cons parked rest induction =>
      unfold chaosInitDelayResume at resumed
      split at resumed
      · rename_i same
        cases resumed
        exact ⟨[], parked, rest, rfl, rfl, same, rfl⟩
      · rcases Option.map_eq_some_iff.mp resumed with
          ⟨⟨before, others⟩, found, same⟩
        cases same
        rcases induction found with ⟨front, taken, back, rfl, rfl, of, is⟩
        exact ⟨parked :: front, taken, back, rfl, rfl, of, is⟩

/-! ## Due entries -/

theorem foldl_due_le (queue : Queue) (due : Nat) :
    (queue.foldl
        (fun due entry => if entry.dueMs < due then entry.dueMs else due)
        due) ≤ due ∧
      ∀ entry ∈ queue, (queue.foldl
        (fun due entry => if entry.dueMs < due then entry.dueMs else due)
        due) ≤ entry.dueMs := by
  induction queue generalizing due with
  | nil => exact ⟨Nat.le_refl _, nofun⟩
  | cons head rest induction =>
      rw [List.foldl_cons]
      rcases induction (if head.dueMs < due then head.dueMs else due) with
        ⟨below, others⟩
      rw [List.forall_mem_cons]
      split at below
      · rename_i earlier
        rw [if_pos earlier] at others ⊢
        exact ⟨Nat.le_trans below (Nat.le_of_lt earlier), below, others⟩
      · rename_i later
        rw [if_neg later] at others ⊢
        exact ⟨below, Nat.le_trans below (Nat.le_of_not_lt later), others⟩

theorem foldl_due_mem (queue : Queue) (due : Nat) :
    (queue.foldl
        (fun due entry => if entry.dueMs < due then entry.dueMs else due)
        due) = due ∨
      ∃ entry ∈ queue, (queue.foldl
        (fun due entry => if entry.dueMs < due then entry.dueMs else due)
        due) = entry.dueMs := by
  induction queue generalizing due with
  | nil => exact Or.inl rfl
  | cons head rest induction =>
      rw [List.foldl_cons]
      rcases induction (if head.dueMs < due then head.dueMs else due) with
        same | ⟨entry, member, same⟩
      · rw [same]
        split
        · exact Or.inr ⟨head, List.mem_cons_self, rfl⟩
        · exact Or.inl rfl
      · exact Or.inr ⟨entry, List.mem_cons_of_mem _ member, same⟩

theorem chaosInitDelayNext_eq_none :
    chaosInitDelayNext queue = none ↔ queue = [] := by
  cases queue with
  | nil => exact iff_of_true rfl rfl
  | cons first rest => exact iff_of_false nofun nofun

/-- The earliest due time is one, and none is earlier. -/
theorem chaosInitDelayNext_spec
    {due : Nat} (next : chaosInitDelayNext queue = some due) :
    (∃ entry ∈ queue, entry.dueMs = due) ∧
      ∀ entry ∈ queue, due ≤ entry.dueMs := by
  cases queue with
  | nil => cases next
  | cons first rest =>
      cases next
      rcases foldl_due_le rest first.dueMs with ⟨below, others⟩
      refine ⟨?_, List.forall_mem_cons.mpr ⟨below, others⟩⟩
      rcases foldl_due_mem rest first.dueMs with same | ⟨entry, member, same⟩
      · exact ⟨first, List.mem_cons_self, same.symm⟩
      · exact ⟨entry, List.mem_cons_of_mem _ member, same.symm⟩

theorem chaosInitDelayPop_eq_none :
    chaosInitDelayPop queue nowMs = none ↔
      ∀ entry ∈ queue, nowMs < entry.dueMs := by
  have due : ∀ entry : ChaosInitDelayed,
      decide (entry.dueMs ≤ nowMs) = false ↔ nowMs < entry.dueMs := by
    intro entry
    rw [decide_eq_false_iff_not, Nat.not_le]
  unfold chaosInitDelayPop
  cases found : queue.findIdx? fun entry => entry.dueMs ≤ nowMs with
  | none =>
      refine iff_of_true rfl fun entry member => ?_
      exact (due entry).mp (List.findIdx?_eq_none_iff.mp found entry member)
  | some index =>
      rcases List.findIdx?_eq_some_iff_getElem.mp found with ⟨inside, passed, -⟩
      refine iff_of_false ?_ fun later => ?_
      · simp only [List.getElem?_eq_getElem inside, Option.map_some]
        nofun
      · have after := later _ (List.getElem_mem inside)
        exact absurd (decide_eq_true_iff.mp passed) (Nat.not_le.mpr after)

/-- What is popped is due, and what is left are the other entries. -/
theorem chaosInitDelayPop_spec
    (popped : chaosInitDelayPop queue nowMs = some (entry, left)) :
    entry.dueMs ≤ nowMs ∧ queue.Perm (entry :: left) := by
  unfold chaosInitDelayPop at popped
  split at popped
  · cases popped
  · rename_i index found
    rcases List.findIdx?_eq_some_iff_getElem.mp found with ⟨inside, passed, -⟩
    rw [List.getElem?_eq_getElem inside] at popped
    cases popped
    exact ⟨decide_eq_true_iff.mp passed, perm_swapRemove inside⟩

end ChaosLibs.Init.DelayQueue
