import ChaosLibs.Memory.ModesInTime
import ChaosLibs.Process.ModesInTime

/-!
# The two modes in time

A wrapper sleeps a LATENCY rule's delay and then decides the rule that fails
the call; the supervisor decides both when the call arrives.  The outcomes
agree exactly when the delay carries no rule over an edge of its window.
-/

namespace ChaosLibs.Init.ModesInTime

open ChaosLibs.Common.HitSlots
open ChaosLibs.Init.FaultTiming
open ChaosLibs.Init.Verdict

/--
For every memory call and every process call: the supervisor's verdict, carried
out, comes to what the wrapper does if and only if no rule that is ready to fail
the call has its window opened or closed by the delay, unless an earlier one fails
it at both clock readings.
-/
theorem modesAgree_iff_undisturbed
    (now : Int)
    (memory : Memory.Rule.MemoryProcess) (draws : Memory.Faults.Samples)
    (libcCall : Memory.Faults.LibcCall)
    (systemCall : ChaosInitCall Memory.Faults.SystemCall)
    (issues : Memory.Faults.Issues libcCall systemCall)
    (process : Process.Rule.ProcessRules) (counted : Process.Rule.Counted)
    (slots : process.SlotsHeld counted.pool) (samples : Process.Faults.Samples)
    (operation : Process.Rule.ChaosProcessOperation)
    (words : UInt64 → Option UInt64)
    (notified : ChaosInitCall Process.Faults.SystemCall)
    (notifies : Process.Faults.chaosInitProcessOperation words notified =
      some operation) :
    (Memory.Faults.supervisorOutcome memory now draws systemCall =
        some (Memory.Faults.preloadOutcome memory now draws libcCall) ↔
      Undisturbed Memory.ModesInTime.policyOf
        (Memory.ModesInTime.faultReady memory now draws libcCall) now
        (now + Memory.Faults.sleptMs
          (Memory.ModesInTime.delaying memory now draws libcCall))
        (Memory.ModesInTime.faults memory libcCall)) ∧
    (Process.Faults.supervisorCall process.state now samples words notified
          counted =
        some (Process.Faults.chaosProcessOperationFault process.state now
          samples operation counted).1 ↔
      Undisturbed Process.ModesInTime.policyOf
        (Process.ModesInTime.faultReady samples operation
          (Process.Faults.countedAfter counted
            (Process.Faults.latencyFault process.state now samples operation
              counted)))
        now
        (now + Process.Faults.sleptMs
          (Process.Faults.latencyFault process.state now samples operation
            counted))
        (Process.ModesInTime.faults process.state operation)) := by
  constructor
  · exact Memory.ModesInTime.outcomes_eq_iff issues
  · unfold Process.Faults.supervisorCall
    rw [notifies, Option.map_some, Option.some_inj]
    exact Process.ModesInTime.outcomes_eq_iff slots

/-! ## A window that opens during the delay -/

/-- `munmap:LATENCY:100`. -/
def munmapLatency : Memory.Rule.ChaosMemoryRule where
  probability := ⟨1, 1⟩
  policy := {}
  callSize := 2 ^ 64 - 1
  hit := some 0
  hitGeneration := 1
  selector := ⟨.operation .munmap, 6⟩
  effect := .latency
  errnum := 0
  latencyMs := 100

/-- `munmap:ERRNO:EINVAL @from=1050`. -/
def munmapErrno : Memory.Rule.ChaosMemoryRule where
  probability := ⟨1, 1⟩
  policy := { fromMs := 1050 }
  callSize := 2 ^ 64 - 1
  hit := some 1
  hitGeneration := 1
  selector := ⟨.operation .munmap, 6⟩
  effect := .errno
  errnum := 22
  latencyMs := 0

/-- A process with both rules. -/
def munmapProcess : Memory.Rule.MemoryProcess where
  state := ⟨true, [munmapLatency, munmapErrno]⟩
  pool := fun _ => { HitSlot.zero with generation := 1 }
  loaded := by
    intro rule member
    simp only [List.mem_cons, List.not_mem_nil, or_false] at member
    rcases member with rfl | rfl
    · exact ⟨nofun⟩
    · exact ⟨fun _ => by decide⟩
  slots := by
    intro rule member
    simp only [List.mem_cons, List.not_mem_nil, or_false] at member
    rcases member with rfl | rfl
    · exact ⟨0, rfl, rfl⟩
    · exact ⟨1, rfl, rfl⟩

/-- `munmap` of one page, notified. -/
def munmapNotified : ChaosInitCall Memory.Faults.SystemCall where
  tid := 42
  nr := .munmap
  args := fun index => if index = 1 then 4096 else 0

/-- `execve`, notified. -/
def execveNotified : ChaosInitCall Process.Faults.SystemCall where
  tid := 42
  nr := .execve
  args := fun _ => 0

/-- A process with no process rules. -/
def noProcessRules : Process.Rule.ProcessRules where
  state := ⟨true, []⟩
  loaded := nofun

/-- The slots and counters of a fresh process. -/
def freshCounted : Process.Rule.Counted where
  pool := fun _ => HitSlot.zero
  counters := fun _ => 0

/--
A `munmap` at 1000 is held for 100 ms: the wrapper, which decides the ERRNO rule at
1100, fails it, the supervisor, which decided at 1000, lets it run.
-/
theorem munmap_fails_preloaded_runs_supervised :
    Memory.Faults.Issues (.munmap 4096) munmapNotified ∧
      Memory.Faults.preloadOutcome munmapProcess 1000 (fun _ => 0)
          (.munmap 4096) =
        ⟨100, .fails 22,
          [{ munmapLatency with callSize := 4096 },
            { munmapErrno with callSize := 4096 }]⟩ ∧
      Memory.Faults.supervisorOutcome munmapProcess 1000 (fun _ => 0)
          munmapNotified =
        some ⟨100, .runs, [{ munmapLatency with callSize := 4096 }]⟩ := by
  refine ⟨⟨rfl, rfl⟩, ?_, ?_⟩
  · decide +kernel
  · decide +kernel

theorem modesAgree_iff_undisturbed_munmap :
    ¬ Undisturbed Memory.ModesInTime.policyOf
      (Memory.ModesInTime.faultReady munmapProcess 1000 (fun _ => 0)
        (.munmap 4096)) 1000
      (1000 + Memory.Faults.sleptMs
        (Memory.ModesInTime.delaying munmapProcess 1000 (fun _ => 0)
          (.munmap 4096)))
      (Memory.ModesInTime.faults munmapProcess (.munmap 4096)) := by
  have agree :=
    modesAgree_iff_undisturbed 1000 munmapProcess (fun _ => 0) (.munmap 4096)
      munmapNotified ⟨rfl, rfl⟩ noProcessRules freshCounted nofun (fun _ => 0)
      .execve (fun _ => none) execveNotified rfl
  intro undisturbed
  have same := agree.1.mpr undisturbed
  revert same
  decide +kernel

end ChaosLibs.Init.ModesInTime
