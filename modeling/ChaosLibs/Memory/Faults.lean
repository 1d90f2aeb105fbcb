import ChaosLibs.Init.Verdict
import ChaosLibs.Memory.Rule
import ChaosLibs.Search.FirstAccepted

/-!
# The faults of a memory call

What the wrappers of `chaos_memory_hooks.c` do before the real call, and what
`chaos_init_memory.c` decides for the system call.  The wrapper sleeps a LATENCY
rule's delay before it looks for an ERRNO rule; the supervisor decides both and
then holds the call.
-/

namespace ChaosLibs.Memory.Faults

open ChaosLibs.Common.HitSlots
open ChaosLibs.Common.PolicyGates
open ChaosLibs.Common.RuleFiring
open ChaosLibs.Init.Verdict
open ChaosLibs.Memory.Rule
open ChaosLibs.Search

/-- What the draws for the rules of a call return. -/
abbrev Samples := ChaosMemoryEffect → UInt32

/-! ## The wrappers -/

section Wrappers

variable (process : MemoryProcess) (now : Int) (samples : Samples)

/-- `chaos_memory_match_sized`. -/
def chaosMemoryMatchSized (effect : ChaosMemoryEffect)
    (operation : ChaosMemoryOperation) (mmapFlags : UInt32) (length : UInt64) :
    Option ChaosMemoryRule :=
  (chaosMemoryConfigMatch process.state effect operation mmapFlags).map
    fun rule => { rule with callSize := length.toNat }

/-- The LATENCY rule that fires, and the pool after its hit. -/
def latencyFault (operation : ChaosMemoryOperation) (mmapFlags : UInt32)
    (length : UInt64) :
    Option (ChaosMemoryRule × Pool chaosMemoryMaxRules) :=
  (chaosMemoryMatchSized process .latency operation mmapFlags length).bind
    fun rule =>
      (chaosMemoryRuleApplyLatency rule now (samples .latency)
        process.pool).map fun pool => (rule, pool)

/-- How long the wrapper sleeps. -/
def sleptMs (latency : Option (ChaosMemoryRule × Pool chaosMemoryMaxRules)) :
    Nat :=
  latency.elim 0 fun fired => fired.1.latencyMs

/-- The pool that the second decision finds. -/
def poolAfter (latency : Option (ChaosMemoryRule × Pool chaosMemoryMaxRules)) :
    Pool chaosMemoryMaxRules :=
  latency.elim process.pool Prod.snd

/--
The body of a wrapper up to the real call: the ERRNO rule is decided at the
clock reading after the sleep.
-/
def wrapperFault (operation : ChaosMemoryOperation) (mmapFlags : UInt32)
    (length : UInt64) : Outcome ChaosMemoryRule :=
  let latency := latencyFault process now samples operation mmapFlags length
  let failing :=
    (chaosMemoryMatchSized process .errno operation mmapFlags length).filter
      fun rule =>
        (chaosMemoryRuleApplyErrno rule (now + sleptMs latency)
          (samples .errno) (poolAfter process latency)).isSome
  { delayMs := sleptMs latency
    result := failing.elim .runs fun rule => .fails rule.errnum
    hits := (latency.map Prod.fst).toList ++ failing.toList }

/-- `mmap` and `mmap64`. -/
def mmap (length : UInt64) (flags : UInt32) : Outcome ChaosMemoryRule :=
  wrapperFault process now samples .mmap flags length

def munmap (length : UInt64) : Outcome ChaosMemoryRule :=
  wrapperFault process now samples .munmap 0 length

def mprotect (length : UInt64) : Outcome ChaosMemoryRule :=
  wrapperFault process now samples .mprotect 0 length

def madvise (length : UInt64) : Outcome ChaosMemoryRule :=
  wrapperFault process now samples .madvise 0 length

/-- `posix_madvise`, whose error is its result. -/
def posixMadvise (length : UInt64) : Outcome ChaosMemoryRule :=
  wrapperFault process now samples .madvise 0 length

end Wrappers

/-- A call of a wrapper, the arguments it passes on unread left out. -/
inductive LibcCall where
  | mmap (length : UInt64) (flags : UInt32)
  | munmap (length : UInt64)
  | mprotect (length : UInt64)
  | madvise (length : UInt64)
  | posixMadvise (length : UInt64)

/-- What a wrapper does to its call. -/
def preloadOutcome (process : MemoryProcess) (now : Int) (samples : Samples) :
    LibcCall → Outcome ChaosMemoryRule
  | .mmap length flags => mmap process now samples length flags
  | .munmap length => munmap process now samples length
  | .mprotect length => mprotect process now samples length
  | .madvise length => madvise process now samples length
  | .posixMadvise length => posixMadvise process now samples length

/-! ## The supervisor -/

/-- The system calls of `chaos_init_memory_decide`. -/
inductive SystemCall where
  | mmap
  | munmap
  | mprotect
  | madvise
  /-- Any other call. -/
  | other
deriving DecidableEq, Repr

section Supervisor

variable (process : MemoryProcess) (now : Int) (samples : Samples)

/--
`chaos_init_memory_fires`: the matched copy and the pool after its hit.  The
copy gets the size, and the generation of the process's own slot.
-/
def chaosInitMemoryFires (call : ChaosInitCall SystemCall)
    (effect : ChaosMemoryEffect) (operation : ChaosMemoryOperation)
    (flags : UInt32) (pool : Pool chaosMemoryMaxRules) :
    Option (ChaosMemoryRule × Pool chaosMemoryMaxRules) :=
  (chaosMemoryConfigMatch process.state effect operation flags).bind
    fun matched =>
      match matched.hit with
      | none => none
      | some slot =>
          let rule : ChaosMemoryRule :=
            { matched with
              callSize := (call.args 1).toNat
              hitGeneration := (pool slot).generation }
          (chaosMemoryRuleShouldTrigger rule now (samples effect) pool).map
            fun after => (rule, after)

/-- The operation and the `mmap` flags of a system call. -/
def chaosInitMemoryOperation (call : ChaosInitCall SystemCall) :
    Option (ChaosMemoryOperation × UInt32) :=
  match call.nr with
  | .mmap => some (.mmap, (call.args 3).toUInt32)
  | .munmap => some (.munmap, 0)
  | .mprotect => some (.mprotect, 0)
  | .madvise => some (.madvise, 0)
  | .other => none

/--
`chaos_init_memory_decide`: the verdict and the rules that count a hit; `none`
for a call that is not the memory rules'.
-/
def chaosInitMemoryDecide (call : ChaosInitCall SystemCall) :
    Option (ChaosInitVerdict × List ChaosMemoryRule) :=
  (chaosInitMemoryOperation call).map fun (operation, flags) =>
    let latency := chaosInitMemoryFires process now samples call .latency
      operation flags process.pool
    let delayed : ChaosInitVerdict :=
      match latency with
      | none => .pass
      | some (rule, _) =>
          { ChaosInitVerdict.pass with
            action := .delay
            delayMs := rule.latencyMs }
    let failing := chaosInitMemoryFires process now samples call .errno
      operation flags (poolAfter process latency)
    let verdict : ChaosInitVerdict :=
      match failing with
      | none => delayed
      | some (rule, _) =>
          { delayed with
            action := if delayed.action = .delay then .delay else .fail
            error := rule.errnum }
    (verdict, (latency.map Prod.fst).toList ++ (failing.map Prod.fst).toList)

/-- The verdict on a call, carried out. -/
def supervisorOutcome (call : ChaosInitCall SystemCall) :
    Option (Outcome ChaosMemoryRule) :=
  (chaosInitMemoryDecide process now samples call).map fun (verdict, hits) =>
    { delayMs := verdict.carriedOut.1
      result := verdict.carriedOut.2
      hits := hits }

end Supervisor

/-- The system calls by which the C libraries make a call. -/
def Issues : LibcCall → ChaosInitCall SystemCall → Prop
  | .mmap length flags, call =>
      call.nr = .mmap ∧ call.args 1 = length ∧ (call.args 3).toUInt32 = flags
  | .munmap length, call => call.nr = .munmap ∧ call.args 1 = length
  | .mprotect length, call => call.nr = .mprotect ∧ call.args 1 = length
  | .madvise length, call => call.nr = .madvise ∧ call.args 1 = length
  | .posixMadvise length, call => call.nr = .madvise ∧ call.args 1 = length

end ChaosLibs.Memory.Faults
