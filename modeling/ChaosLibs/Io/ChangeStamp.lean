import ChaosLibs.Common.CString
import Mathlib.Data.Int.Basic

/-!
# Change stamps of the rule file

The 64-bit words by which libchaos-io tells rule files apart: the stamp of a
`stat` result with its three sentinels, and the hash of the loaded bytes.
-/

namespace ChaosLibs.Io.ChangeStamp

open ChaosLibs.Common.CString

/-- `CHAOS_IO_MTIME_MISSING`. -/
def chaosIoMtimeMissing : UInt64 := 0

/-- `CHAOS_IO_MTIME_RELOADING`. -/
def chaosIoMtimeReloading : UInt64 := 0xfffffffffffffffe

/-- `CHAOS_IO_MTIME_UNKNOWN`. -/
def chaosIoMtimeUnknown : UInt64 := 0xffffffffffffffff

/-- The members of `struct stat` the stamp is made of. -/
structure FileStat where
  sec : Int
  nsec : Nat
  size : Nat
  ino : Nat
  dev : Nat
deriving DecidableEq, Repr

/-- The cast of a signed 64-bit number to `uint64_t`. -/
def wordOfInt (value : Int) : UInt64 :=
  UInt64.ofNat (value % 2 ^ 64).toNat

/-- `chaos_io_config_normalize_mtime_hash`. -/
def chaosIoConfigNormalizeMtimeHash (value : UInt64) : UInt64 :=
  if value = chaosIoMtimeMissing ∨ value = chaosIoMtimeReloading ∨
      value = chaosIoMtimeUnknown then
    value ^^^ 0x9e3779b97f4a7c15
  else
    value

/-- One round of the stamp and content hashes. -/
def hashWord (hash word : UInt64) : UInt64 :=
  (hash ^^^ word) * 1099511628211

/-- `chaos_io_config_hash_mtime` of a `stat` result that is not `NULL`. -/
def chaosIoConfigHashMtime (stat : FileStat) : UInt64 :=
  chaosIoConfigNormalizeMtimeHash
    ([wordOfInt stat.sec, UInt64.ofNat stat.nsec, UInt64.ofNat stat.size,
      UInt64.ofNat stat.ino, UInt64.ofNat stat.dev].foldl hashWord
      1469598103934665603)

/-- `chaos_io_config_observed_mtime`, `none` standing for a failed `stat`. -/
def chaosIoConfigObservedMtime : Option FileStat → UInt64
  | none => chaosIoMtimeMissing
  | some stat => chaosIoConfigHashMtime stat

/-- `chaos_config_content_hash`. -/
def chaosConfigContentHash (data : Bytes) : UInt64 :=
  data.foldl (fun hash byte => hashWord hash byte.toUInt64) 1469598103934665603

/-- A normalised stamp is none of the sentinels. -/
theorem chaosIoConfigNormalizeMtimeHash_ne_sentinel (value : UInt64) :
    chaosIoConfigNormalizeMtimeHash value ≠ chaosIoMtimeMissing ∧
      chaosIoConfigNormalizeMtimeHash value ≠ chaosIoMtimeReloading ∧
      chaosIoConfigNormalizeMtimeHash value ≠ chaosIoMtimeUnknown := by
  unfold chaosIoConfigNormalizeMtimeHash
  split
  · rename_i sentinel
    rcases sentinel with rfl | rfl | rfl <;> decide
  · rename_i regular
    simpa only [not_or] using regular

theorem chaosIoConfigHashMtime_ne_missing (stat : FileStat) :
    chaosIoConfigHashMtime stat ≠ chaosIoMtimeMissing :=
  (chaosIoConfigNormalizeMtimeHash_ne_sentinel _).1

theorem chaosIoConfigHashMtime_ne_reloading (stat : FileStat) :
    chaosIoConfigHashMtime stat ≠ chaosIoMtimeReloading :=
  (chaosIoConfigNormalizeMtimeHash_ne_sentinel _).2.1

theorem chaosIoConfigHashMtime_ne_unknown (stat : FileStat) :
    chaosIoConfigHashMtime stat ≠ chaosIoMtimeUnknown :=
  (chaosIoConfigNormalizeMtimeHash_ne_sentinel _).2.2

end ChaosLibs.Io.ChangeStamp
