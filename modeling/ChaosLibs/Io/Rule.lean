import ChaosLibs.Common.HitSlots
import ChaosLibs.Common.RulePolicy

/-!
# Rules of libchaos-io

Operations, effects and the rule record of `chaos_io_config.h`, with the
capacity limits of `chaos_io_internal.h`.  A pointer into the hit-slot pool is
a slot index; the pointer to a rule's resolved prefix is the resolved text
itself, or `none` for `NULL`.
-/

namespace ChaosLibs.Io.Rule

open ChaosLibs.Common.CString
open ChaosLibs.Common.HitSlots
open ChaosLibs.Common.RulePolicy

/-- `CHAOS_IO_MAX_RULES`. -/
abbrev chaosIoMaxRules : Nat := 256

/-- `CHAOS_IO_MAX_RULE_PATH`. -/
def chaosIoMaxRulePath : Nat := 1024

/-- `CHAOS_IO_MAX_CONFIG_BYTES`. -/
def chaosIoMaxConfigBytes : Nat := chaosIoMaxRules * 1024

/-- `CHAOS_POLICY_NO_SIZE`. -/
def chaosPolicyNoSize : Nat := 2 ^ 64 - 1

/-- `chaos_io_operation_t`, the parse failure left out. -/
inductive ChaosIoOperation where
  | read
  | write
  | open
  | close
  | fsync
  | fdatasync
  | pread
  | pwrite
  | truncate
  | allocate
  | unlink
  | renameFrom
  | renameTo
deriving DecidableEq, Repr

/-- `chaos_io_effect_t`, the parse failure left out. -/
inductive ChaosIoEffect where
  | errno
  | latency
  | torn
  | corrupt
deriving DecidableEq, Repr

/-- `chaos_io_rule_t`. -/
structure ChaosIoRule where
  pathPrefix : Bytes
  pathLen : Nat
  resolvedPrefix : Option Bytes
  resolvedLen : Nat
  operation : ChaosIoOperation
  effect : ChaosIoEffect
  errnum : Nat
  probability : Probability
  latencyMs : Nat
  policy : ChaosRulePolicy
  callSize : Nat
  hit : Option (SlotId chaosIoMaxRules)
  hitGeneration : Nat
deriving DecidableEq, Repr

/-- `chaos_io_effect_allowed`. -/
def chaosIoEffectAllowed
    (operation : ChaosIoOperation) : ChaosIoEffect → Bool
  | .errno | .latency => true
  | .torn => operation == .write || operation == .pwrite
  | .corrupt => operation == .read || operation == .pread

end ChaosLibs.Io.Rule
