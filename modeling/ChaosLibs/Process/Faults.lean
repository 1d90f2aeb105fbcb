import ChaosLibs.Init.Verdict
import ChaosLibs.Process.Rule

/-!
# The faults of a process call

What the wrappers of `chaos_process_hooks.c` do before the real call, and what
`chaos_init_process.c` decides for the system call, both for a process with its
hit slots and FAIL_AFTER counters.  The wrapper sleeps a LATENCY rule's delay
before it looks for the rule that fails the call; the supervisor decides both
and then holds the call.
-/

namespace ChaosLibs.Process.Faults

open ChaosLibs.Common.HitSlots
open ChaosLibs.Init.Verdict
open ChaosLibs.Process.Rule

/-- What the draws for the rules of a call return. -/
abbrev Samples := ChaosProcessEffect → UInt32

/-! ## The wrappers -/

section Wrappers

variable (state : ChaosProcessConfigState) (now : Int) (samples : Samples)
variable (operation : ChaosProcessOperation) (counted : Counted)

/-- The LATENCY rule that fires, and the pool after its hit. -/
def latencyFault : Option (ChaosProcessRule × Pool chaosProcessMaxRules) :=
  (chaosProcessConfigMatch state .latency operation).bind fun rule =>
    (chaosProcessRuleApplyLatency rule now (samples .latency)
      counted.pool).map fun pool => (rule, pool)

/-- The ERRNO rule that fires, and the pool after its hit. -/
def errnoFault : Option (ChaosProcessRule × Pool chaosProcessMaxRules) :=
  (chaosProcessConfigMatch state .errno operation).bind fun rule =>
    (chaosProcessRuleErrorNumber rule now (samples .errno)
      counted.pool).map fun pool => (rule, pool)

/-- The FAIL_AFTER rule that fails the call; the call is counted either way. -/
def failAfterFault : Option ChaosProcessRule × Counted :=
  match chaosProcessConfigMatch state .failAfter operation with
  | none => (none, counted)
  | some rule =>
      let decided := chaosProcessRuleFailAfterError rule operation now
        (samples .failAfter) counted
      (if decided.1 then some rule else none, decided.2)

/-- The rule that fails the call: FAIL_AFTER is consulted when no ERRNO rule fires. -/
def failingFault : Option ChaosProcessRule × Counted :=
  match errnoFault state now samples operation counted with
  | some (rule, pool) => (some rule, { counted with pool := pool })
  | none => failAfterFault state now samples operation counted

/-- How long the call is delayed. -/
def sleptMs
    (latency : Option (ChaosProcessRule × Pool chaosProcessMaxRules)) : Nat :=
  latency.elim 0 fun fired => fired.1.latencyMs

/-- What the second decision finds. -/
def countedAfter
    (latency : Option (ChaosProcessRule × Pool chaosProcessMaxRules)) : Counted :=
  { counted with pool := latency.elim counted.pool Prod.snd }

/--
`chaos_process_operation_fault`, and with it each wrapper up to the real call: the
rule that fails it is decided at the clock reading after the sleep.
-/
def chaosProcessOperationFault : Outcome ChaosProcessRule × Counted :=
  let latency := latencyFault state now samples operation counted
  let failing := failingFault state (now + sleptMs latency) samples operation
    (countedAfter counted latency)
  ({ delayMs := sleptMs latency
     result := failing.1.elim .runs fun rule => .fails rule.errnum
     hits := (latency.map Prod.fst).toList ++ failing.1.toList },
   failing.2)

end Wrappers

/-! ## The supervisor -/

/-- The system calls of `chaos_init_process_operation`. -/
inductive SystemCall where
  | clone
  | clone3
  | fork
  | vfork
  | execve
  | execveat
  | wait4
  | waitid
  /-- Any other call. -/
  | other
deriving DecidableEq, Repr

/-- `chaos_init_process_clone`: `CLONE_THREAD`, then `CLONE_VFORK`. -/
def chaosInitProcessClone (flags : UInt64) : ChaosProcessOperation :=
  if flags &&& 0x10000 ≠ 0 then .pthreadCreate
  else if flags &&& 0x4000 ≠ 0 then .posixSpawn
  else .fork

/--
`chaos_init_process_operation`; `memory` is the flags word at an address of the
process, `none` where it cannot be read.
-/
def chaosInitProcessOperation (memory : UInt64 → Option UInt64)
    (call : ChaosInitCall SystemCall) : Option ChaosProcessOperation :=
  match call.nr with
  | .clone => some (chaosInitProcessClone (call.args 0))
  | .clone3 => some (chaosInitProcessClone ((memory (call.args 0)).getD 0))
  | .fork => some .fork
  | .vfork => some .posixSpawn
  | .execve => some .execve
  | .execveat => some .execveat
  | .wait4 | .waitid => some .waitpid
  | .other => none

/--
`chaos_init_process_slot`: the matched copy with the process's own slot for it,
`none` when there is none.
-/
def chaosInitProcessSlot (rule : ChaosProcessRule)
    (pool : Pool chaosProcessMaxRules) : Option ChaosProcessRule :=
  rule.hit.map fun slot =>
    { rule with hitGeneration := (pool slot).generation }

section Supervisor

variable (state : ChaosProcessConfigState) (now : Int) (samples : Samples)
variable (operation : ChaosProcessOperation) (counted : Counted)

/-- The LATENCY rule that fires, and the pool after its hit. -/
def chaosInitProcessLatency :
    Option (ChaosProcessRule × Pool chaosProcessMaxRules) :=
  ((chaosProcessConfigMatch state .latency operation).bind fun rule =>
    chaosInitProcessSlot rule counted.pool).bind fun rule =>
      (chaosProcessRuleShouldTrigger rule now (samples .latency)
        counted.pool).map fun pool => (rule, pool)

/-- The ERRNO rule that fires, and the pool after its hit. -/
def chaosInitProcessErrno :
    Option (ChaosProcessRule × Pool chaosProcessMaxRules) :=
  ((chaosProcessConfigMatch state .errno operation).bind fun rule =>
    chaosInitProcessSlot rule counted.pool).bind fun rule =>
      (chaosProcessRuleErrorNumber rule now (samples .errno)
        counted.pool).map fun pool => (rule, pool)

/-- `chaos_init_process_fail_after`. -/
def chaosInitProcessFailAfter : Option ChaosProcessRule × Counted :=
  match (chaosProcessConfigMatch state .failAfter operation).bind fun rule =>
      chaosInitProcessSlot rule counted.pool with
  | none => (none, counted)
  | some rule =>
      let decided := chaosProcessRuleFailAfterError rule operation now
        (samples .failAfter) counted
      (if decided.1 then some rule else none, decided.2)

/-- The rule that fails the call. -/
def chaosInitProcessFailing : Option ChaosProcessRule × Counted :=
  match chaosInitProcessErrno state now samples operation counted with
  | some (rule, pool) => (some rule, { counted with pool := pool })
  | none => chaosInitProcessFailAfter state now samples operation counted

/-- The verdict by the rule that delays a call and the one that fails it. -/
def chaosInitProcessVerdict (latency failing : Option ChaosProcessRule) :
    ChaosInitVerdict :=
  let delayed : ChaosInitVerdict :=
    match latency with
    | none => .pass
    | some rule =>
        { ChaosInitVerdict.pass with
          action := .delay
          delayMs := rule.latencyMs }
  match failing with
  | none => delayed
  | some rule =>
      { delayed with
        action := if delayed.action = .delay then .delay else .fail
        error := rule.errnum }

/--
`chaos_init_process_decide` for an operation: the verdict, the rules that count a
hit, and what is left.
-/
def chaosInitProcessDecide :
    ChaosInitVerdict × List ChaosProcessRule × Counted :=
  let latency := chaosInitProcessLatency state now samples operation counted
  let failing := chaosInitProcessFailing state now samples operation
    (countedAfter counted latency)
  (chaosInitProcessVerdict (latency.map Prod.fst) failing.1,
   (latency.map Prod.fst).toList ++ failing.1.toList,
   failing.2)

/-- The verdict on an operation, carried out. -/
def supervisorOutcome : Outcome ChaosProcessRule × Counted :=
  let decided := chaosInitProcessDecide state now samples operation counted
  ({ delayMs := decided.1.carriedOut.1
     result := decided.1.carriedOut.2
     hits := decided.2.1 },
   decided.2.2)

end Supervisor

/-- What becomes of a system call; `none` for one that is not the process rules'. -/
def supervisorCall (state : ChaosProcessConfigState) (now : Int)
    (samples : Samples) (memory : UInt64 → Option UInt64)
    (call : ChaosInitCall SystemCall) (counted : Counted) :
    Option (Outcome ChaosProcessRule) :=
  (chaosInitProcessOperation memory call).map fun operation =>
    (supervisorOutcome state now samples operation counted).1

end ChaosLibs.Process.Faults
