import ChaosLibs.Io.FdCacheCoherence
import ChaosLibs.Io.LoadedRules

/-!
# The process that makes a call

What both modes of the io rules read of a calling process: its working
directory, the names of its descriptors, its memory, and, in the preload
library only, its descriptor cache.  Library and supervisor see the same root
directory and the same `/proc`.

The kernel names a file by its absolute path, with ` (deleted)` after the name
of a removed one, and anything else by a name with a `:`.  `getcwd` fails in a
removed directory; the `cwd` link does not.
-/

namespace ChaosLibs.Io.CallingProcess

open ChaosLibs.Common.CString
open ChaosLibs.Io.PathText
open ChaosLibs.Io.FdCache
open ChaosLibs.Io.FdCacheCoherence
open ChaosLibs.Io.LoadedRules

/-! ## Names -/

/-- The kernel names files by absolute paths and everything else by pseudo names. -/
def IsKernelName (text : Bytes) : Prop :=
  IsAbsolute text ∨ IsPseudoName text

/-- The target of a link under `/proc/<pid>/fd`. -/
structure DescriptorName extends KernelName where
  kind : IsKernelName text

/-- A working directory. -/
structure WorkingDirectory where
  name : KernelName
  absolute : IsAbsolute name.text
  removed : Bool

/-- `getcwd` into a buffer of `CHAOS_IO_MAX_PATH` bytes. -/
def WorkingDirectory.getcwd (cwd : WorkingDirectory) : Option Bytes :=
  if cwd.removed then none else some cwd.name.text

/-- The target of `/proc/<pid>/cwd`. -/
def WorkingDirectory.link (cwd : WorkingDirectory) : Option Bytes :=
  if cwd.removed then
    let text := cwd.name.text ++ bytes " (deleted)"
    if text.length < chaosIoMaxPath then some text else none
  else
    some cwd.name.text

/-- What the cache serves are names that `chaos_io_fdcache_resolve` has stored. -/
def CachesNames (cache : Cache) : Prop :=
  ∀ fd path, Served cache fd path →
    IsKernelName path ∧ chaosIoIsExcludedPath path = false

theorem cachesNames_fresh : CachesNames Cache.fresh := by
  intro fd path served
  have held : (0 : Int) = fd + 1 := served.held
  have nonneg := served.nonneg
  omega

/-- A calling process; an address is a 64-bit word. -/
structure Caller where
  cwd : WorkingDirectory
  names : Int → Option DescriptorName
  /-- The string at an address; `none` when it cannot be read. -/
  strings : UInt64 → Option Bytes
  /-- The lengths of `count` `struct iovec` at an address. -/
  vectors : UInt64 → Nat → Option (List UInt64)
  cache : Cache
  /-- Whether the cache's table can be mapped. -/
  mapping : Bool
  nullString : strings 0 = none
  nullVector : ∀ count, 0 < count → vectors 0 count = none
  cached : CachesNames cache

/-- The name of a descriptor as text. -/
def Caller.nameOf (caller : Caller) (fd : Int) : Option Bytes :=
  (caller.names fd).map fun name => name.text

theorem Caller.nameOf_eq_some
    {caller : Caller} {fd : Int} {text : Bytes}
    (named : caller.nameOf fd = some text) :
    IsKernelName text ∧ text.take (chaosIoMaxPath - 1) = text ∧ 0 ∉ text := by
  rcases Option.map_eq_some_iff.mp named with ⟨name, -, rfl⟩
  exact ⟨name.kind,
    List.take_of_length_le (Nat.le_sub_one_of_lt name.short), name.noNul⟩

/-! ## The name the library finds for a descriptor -/

/-- `chaos_io_fdcache_resolve` of the calling process. -/
def Caller.fdcacheResolve (caller : Caller) (fd : Int) : Cache × Option Bytes :=
  chaosIoFdcacheResolve caller.cache fd chaosIoMaxPath (caller.nameOf fd)
    caller.mapping

/-- The name in the cache. -/
def Caller.cachedName (caller : Caller) (fd : Int) : Option Bytes :=
  chaosIoFdcacheLookup caller.cache fd chaosIoMaxPath

/-- The cached name, else the descriptor's name unless it is excluded. -/
theorem Caller.fdcacheResolve_snd
    (caller : Caller) {fd : Int} (file : 2 < fd) :
    (caller.fdcacheResolve fd).2 =
      match caller.cachedName fd with
      | some path => some path
      | none => (caller.nameOf fd).filter fun text =>
          !chaosIoIsExcludedPath text := by
  have guarded : ¬ (decide (fd ≤ 2) || decide (chaosIoMaxPath < 2)) = true := by
    rw [Bool.or_eq_true, decide_eq_true_eq, decide_eq_true_eq, not_or]
    exact ⟨not_le.mpr file, by decide⟩
  unfold Caller.fdcacheResolve Caller.cachedName chaosIoFdcacheResolve
  rw [if_neg guarded]
  cases chaosIoFdcacheLookup caller.cache fd chaosIoMaxPath with
  | some path => rfl
  | none =>
      cases named : caller.nameOf fd with
      | none => rfl
      | some text =>
          rcases Caller.nameOf_eq_some named with ⟨-, whole, -⟩
          simp only [whole]
          by_cases excluded : chaosIoIsExcludedPath text = true
          · rw [if_pos (by rw [excluded, Bool.or_true]), Option.filter_some,
              if_neg (by rw [excluded]; decide)]
          · have kept : chaosIoIsExcludedPath text = false :=
              Bool.eq_false_iff.mpr excluded
            have nonempty : text.isEmpty = false := by
              cases text with
              | nil => cases kept
              | cons ch rest => rfl
            rw [if_neg (by rw [kept, nonempty]; decide), Option.filter_some,
              if_pos (by rw [kept]; rfl)]

theorem Caller.fdcacheResolve_of_standard
    (caller : Caller) {fd : Int} (standard : fd ≤ 2) :
    caller.fdcacheResolve fd = (caller.cache, none) := by
  unfold Caller.fdcacheResolve chaosIoFdcacheResolve
  rw [if_pos]
  exact Bool.or_eq_true_iff.mpr (Or.inl (decide_eq_true standard))

theorem Caller.cachesNames_fdcacheResolve (caller : Caller) (fd : Int) :
    CachesNames (caller.fdcacheResolve fd).1 := by
  unfold Caller.fdcacheResolve chaosIoFdcacheResolve
  split
  · exact caller.cached
  · split
    · exact caller.cached
    · simp only
      split
      · exact caller.cached
      · rename_i text named
        rcases Caller.nameOf_eq_some named with ⟨kind, whole, noNul⟩
        rw [whole]
        split
        · exact caller.cached
        · rename_i kept
          rw [Bool.or_eq_true, not_or, Bool.not_eq_true, Bool.not_eq_true] at kept
          intro other path served
          rcases served_storeAt noNul served with earlier | ⟨-, same⟩
          · exact caller.cached other path earlier
          · exact same ▸ ⟨kind, kept.2⟩

/-- The process after the library has resolved a descriptor. -/
def Caller.afterResolve (caller : Caller) (fd : Int) : Caller :=
  { caller with
    cache := (caller.fdcacheResolve fd).1
    cached := caller.cachesNames_fdcacheResolve fd }

/-- A name the library finds is a kernel name that is not excluded. -/
theorem Caller.isKernelName_of_resolve
    {caller : Caller} {fd : Int} {path : Bytes}
    (resolved : (caller.fdcacheResolve fd).2 = some path) :
    IsKernelName path ∧ chaosIoIsExcludedPath path = false := by
  by_cases standard : fd ≤ 2
  · rw [caller.fdcacheResolve_of_standard standard] at resolved
    cases resolved
  · rw [caller.fdcacheResolve_snd (not_le.mp standard)] at resolved
    split at resolved
    · rename_i served lookup
      cases resolved
      exact caller.cached fd path (served_of_lookup lookup)
    · rcases Option.filter_eq_some_iff.mp resolved with ⟨named, kept⟩
      refine ⟨(Caller.nameOf_eq_some named).1, ?_⟩
      exact (Bool.not_eq_true' _).mp kept

end ChaosLibs.Io.CallingProcess
