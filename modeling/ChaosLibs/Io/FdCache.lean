import ChaosLibs.Io.PathText
import ChaosLibs.Machine.ReadProgram
import Mathlib.Logic.Function.Basic

/-!
# The descriptor-to-path cache

The table of `chaos_io_fdcache.c`: 32 entries indexed by `fd % 32`, each with
a sequence word that is odd while a writer fills it, the generation the entry
was resolved under, the descriptor and a path array; and the generations of
the slots, which lie outside the table.

What a lookup reads between its two looks at the sequence word is a program
over the cells of the entry, one cell for each byte of the path, so that the
same lookup runs at once here and cell by cell when threads interleave.  The
words are the 32-bit words of the source.
-/

namespace ChaosLibs.Io.FdCache

open ChaosLibs.Common.CString
open ChaosLibs.Io.PathText
open ChaosLibs.Machine

/-- `CHAOS_IO_FD_CACHE_SLOTS`. -/
abbrev chaosIoFdCacheSlots : Nat := 32

/-- An index into the table. -/
abbrev Slot := Fin chaosIoFdCacheSlots

/-- `chaos_io_fdcache_slot` of a descriptor that is not negative. -/
def chaosIoFdcacheSlot (fd : Int) : Slot :=
  Fin.ofNat chaosIoFdCacheSlots fd.toNat

/-- The target of `/proc/self/fd/<fd>`; the kernel reports at most `PATH_MAX` bytes. -/
structure KernelName where
  text : Bytes
  short : text.length < chaosIoMaxPath
  noNul : 0 ∉ text
deriving DecidableEq

/-! ## Entries -/

/-- `chaos_io_fd_cache_entry_t`. -/
structure FdCacheEntry where
  sequence : UInt32
  generation : UInt32
  fdPlusOne : Int
  path : Nat → UInt8

/-- A zero-filled entry of a fresh mapping. -/
def FdCacheEntry.zero : FdCacheEntry :=
  ⟨0, 0, 0, fun _ => 0⟩

/-- The cells of an entry that a lookup copies. -/
inductive EntryCell where
  | fdPlusOne
  | generation
  | path (index : Nat)
deriving DecidableEq, Repr

/-- What a cell holds. -/
abbrev EntryValue : EntryCell → Type
  | .fdPlusOne => Int
  | .generation => UInt32
  | .path _ => UInt8

/-- An entry as a memory of cells. -/
def FdCacheEntry.cells (entry : FdCacheEntry) : ∀ cell, EntryValue cell
  | .fdPlusOne => entry.fdPlusOne
  | .generation => entry.generation
  | .path index => entry.path index

/-- A program over the cells of one entry. -/
abbrev EntryProgram (Result : Type) := ReadProgram EntryCell EntryValue Result

/-- Load `fd_plus_one`. -/
def loadFdPlusOne : EntryProgram Int :=
  ReadProgram.load EntryCell.fdPlusOne

/-- Load `generation`. -/
def loadGeneration : EntryProgram UInt32 :=
  ReadProgram.load EntryCell.generation

/-- Load a byte of `path`. -/
def loadPath (index : Nat) : EntryProgram UInt8 :=
  ReadProgram.load (EntryCell.path index)

@[simp]
theorem eval_loadFdPlusOne (entry : FdCacheEntry) :
    loadFdPlusOne.eval entry.cells = entry.fdPlusOne :=
  rfl

@[simp]
theorem eval_loadGeneration (entry : FdCacheEntry) :
    loadGeneration.eval entry.cells = entry.generation :=
  rfl

@[simp]
theorem eval_loadPath (entry : FdCacheEntry) (index : Nat) :
    (loadPath index).eval entry.cells = entry.path index :=
  rfl

/-! ## The copy a lookup makes -/

/-- `strnlen(path + index, most)`, as the index of the byte it stops at. -/
def readEnd : (most index : Nat) → EntryProgram Nat
  | 0, index => pure index
  | most + 1, index => do
      let ch ← loadPath index
      if ch = 0 then pure index else readEnd most (index + 1)

/-- `memcpy` of `count` bytes from `path + index`. -/
def readBytes : (count index : Nat) → EntryProgram Bytes
  | 0, _ => pure []
  | count + 1, index => do
      let ch ← loadPath index
      let rest ← readBytes count (index + 1)
      pure (ch :: rest)

/--
The copy of `chaos_io_fdcache_lookup` after its first look at the sequence
word: the entry's generation and path; `none` for a miss.
-/
def copyEntry (fd : Int) (pathSize : Nat) :
    EntryProgram (Option (UInt32 × Bytes)) := do
  let held ← loadFdPlusOne
  if held ≠ fd + 1 then
    pure none
  else do
    let generation ← loadGeneration
    let length ← readEnd chaosIoMaxPath 0
    if pathSize < length + 1 then
      pure none
    else do
      let path ← readBytes length 0
      pure (some (generation, path))

/-- The path in an entry's array. -/
def FdCacheEntry.text (entry : FdCacheEntry) : Bytes :=
  (readBytes ((readEnd chaosIoMaxPath 0).eval entry.cells) 0).eval entry.cells

/-- A copy that is not a miss is the generation and the path of the entry. -/
theorem eval_copyEntry_eq_some
    {entry : FdCacheEntry} {fd : Int} {pathSize : Nat}
    {generation : UInt32} {path : Bytes}
    (copied :
      (copyEntry fd pathSize).eval entry.cells = some (generation, path)) :
    entry.fdPlusOne = fd + 1 ∧ entry.generation = generation ∧
      entry.text = path := by
  rw [copyEntry, ReadProgram.eval_bind, ReadProgram.eval_ite] at copied
  split at copied
  · cases copied
  · rename_i held
    rw [ReadProgram.eval_bind, ReadProgram.eval_bind,
      ReadProgram.eval_ite] at copied
    split at copied
    · cases copied
    · rw [ReadProgram.eval_bind, ReadProgram.eval_pure, Option.some.injEq,
        Prod.mk.injEq] at copied
      exact ⟨not_not.mp held, copied.1, copied.2⟩

/-! ## Texts in a path array -/

/-- The array holds the text and a NUL after it. -/
structure HoldsText (path : Nat → UInt8) (text : Bytes) : Prop where
  bytes : ∀ index (inside : index < text.length), path index = text[index]
  ended : path text.length = 0

/-- `memcpy(path, text, strlen(text) + 1)`. -/
def writeText (path : Nat → UInt8) (text : Bytes) : Nat → UInt8 :=
  fun index =>
    if inside : index < text.length then text[index]
    else if index = text.length then 0
    else path index

theorem holdsText_writeText (path : Nat → UInt8) (text : Bytes) :
    HoldsText (writeText path text) text where
  bytes := by
    intro index inside
    simp [writeText, inside]
  ended := by
    simp [writeText]

/-- `strnlen` finds the end of a text without a NUL that is shorter than its bound. -/
theorem eval_readEnd
    {entry : FdCacheEntry} {text : Bytes} (holds : HoldsText entry.path text)
    (noNul : 0 ∉ text) (most index : Nat)
    (before : index ≤ text.length) (within : text.length ≤ index + most) :
    (readEnd most index).eval entry.cells = text.length := by
  induction most generalizing index with
  | zero =>
      rw [readEnd, ReadProgram.eval_pure]
      omega
  | succ most induction =>
      rw [readEnd, ReadProgram.eval_bind, ReadProgram.eval_ite, eval_loadPath]
      rcases Nat.lt_or_eq_of_le before with inside | atEnd
      · have same : entry.path index = text[index] :=
          holds.bytes index inside
        have notNul : entry.path index ≠ 0 := by
          rw [same]
          intro nul
          exact noNul (nul ▸ List.getElem_mem inside)
        rw [if_neg notNul]
        exact induction (index + 1) inside (by omega)
      · have nul : entry.path index = 0 := by
          rw [atEnd]
          exact holds.ended
        rw [if_pos nul, ReadProgram.eval_pure]
        exact atEnd

theorem eval_readBytes
    {entry : FdCacheEntry} {text : Bytes} (holds : HoldsText entry.path text)
    (count index : Nat) (whole : index + count = text.length) :
    (readBytes count index).eval entry.cells = text.drop index := by
  induction count generalizing index with
  | zero =>
      rw [readBytes, ReadProgram.eval_pure, List.drop_of_length_le (by omega)]
  | succ count induction =>
      have inside : index < text.length := by omega
      have same : entry.path index = text[index] :=
        holds.bytes index inside
      rw [readBytes, ReadProgram.eval_bind, ReadProgram.eval_bind,
        ReadProgram.eval_pure, eval_loadPath,
        induction (index + 1) (by omega), same]
      exact (List.drop_eq_getElem_cons inside).symm

/-- The path of an entry that holds a text is the text. -/
theorem FdCacheEntry.text_of_holds
    {entry : FdCacheEntry} {text : Bytes} (holds : HoldsText entry.path text)
    (noNul : 0 ∉ text) (short : text.length < chaosIoMaxPath) :
    entry.text = text := by
  have ended :=
    eval_readEnd holds noNul chaosIoMaxPath 0 (Nat.zero_le _) (by omega)
  rw [FdCacheEntry.text, ended,
    eval_readBytes holds text.length 0 (Nat.zero_add _), List.drop_zero]

/-- So a path array that was just written gives the text back. -/
theorem FdCacheEntry.text_of_path
    {entry : FdCacheEntry} {path : Nat → UInt8} {text : Bytes}
    (written : entry.path = writeText path text)
    (noNul : 0 ∉ text) (short : text.length < chaosIoMaxPath) :
    entry.text = text :=
  FdCacheEntry.text_of_holds (written ▸ holdsText_writeText path text) noNul
    short

/-! ## The cache -/

/-- The table, with whether it is mapped, and the generations of its slots. -/
structure Cache where
  mapped : Bool
  entries : Slot → FdCacheEntry
  generations : Slot → UInt32

/-- Before the first store. -/
def Cache.fresh : Cache :=
  ⟨false, fun _ => FdCacheEntry.zero, fun _ => 0⟩

/-- `chaos_io_fdcache_lookup` into a buffer of `pathSize` bytes. -/
def chaosIoFdcacheLookup (cache : Cache) (fd : Int) (pathSize : Nat) :
    Option Bytes :=
  if fd < 0 || pathSize = 0 || !cache.mapped then
    none
  else
    let slot := chaosIoFdcacheSlot fd
    let entry := cache.entries slot
    if entry.sequence &&& 1 ≠ 0 then
      none
    else
      match (copyEntry fd pathSize).eval entry.cells with
      | none => none
      | some (generation, path) =>
          if generation = cache.generations slot then some path else none

/--
`chaos_io_fdcache_store_at` with nobody else at the slot; `mapping` says
whether a table that is not mapped yet can be.
-/
def chaosIoFdcacheStoreAt
    (cache : Cache) (fd : Int) (path : Bytes) (generation : UInt32)
    (mapping : Bool) : Cache :=
  if fd < 0 || chaosIoIsExcludedPath path then
    cache
  else if chaosIoMaxPath ≤ path.length then
    cache
  else if !cache.mapped && !mapping then
    cache
  else
    let slot := chaosIoFdcacheSlot fd
    let entry := cache.entries slot
    if entry.sequence &&& 1 ≠ 0 then
      { cache with mapped := true }
    else
      { cache with
        mapped := true
        entries :=
          Function.update cache.entries slot
            { sequence := entry.sequence + 2
              generation := generation
              fdPlusOne := fd + 1
              path := writeText entry.path path } }

/-- `chaos_io_fdcache_reset`. -/
def chaosIoFdcacheReset (cache : Cache) : Cache :=
  { cache with generations := fun slot => cache.generations slot + 1 }

/-- `chaos_io_fdcache_invalidate`. -/
def chaosIoFdcacheInvalidate (cache : Cache) (fd : Int) : Cache :=
  if fd < 0 then
    cache
  else
    let slot := chaosIoFdcacheSlot fd
    { cache with
      generations :=
        Function.update cache.generations slot (cache.generations slot + 1) }

/--
`chaos_io_fdcache_resolve` into a buffer of `pathSize` bytes; `link` is the
target of `/proc/self/fd/<fd>`, `none` when the descriptor is not open.
-/
def chaosIoFdcacheResolve
    (cache : Cache) (fd : Int) (pathSize : Nat) (link : Option Bytes)
    (mapping : Bool) : Cache × Option Bytes :=
  if fd ≤ 2 || pathSize < 2 then
    (cache, none)
  else
    match chaosIoFdcacheLookup cache fd pathSize with
    | some path => (cache, some path)
    | none =>
        let generation := cache.generations (chaosIoFdcacheSlot fd)
        match link with
        | none => (cache, none)
        | some target =>
            let path := target.take (pathSize - 1)
            if path.isEmpty || chaosIoIsExcludedPath path then
              (cache, none)
            else
              (chaosIoFdcacheStoreAt cache fd path generation mapping,
                some path)

/-- What a lookup that serves a path has found. -/
structure Served (cache : Cache) (fd : Int) (path : Bytes) : Prop where
  nonneg : 0 ≤ fd
  held : (cache.entries (chaosIoFdcacheSlot fd)).fdPlusOne = fd + 1
  current : (cache.entries (chaosIoFdcacheSlot fd)).generation =
    cache.generations (chaosIoFdcacheSlot fd)
  text : (cache.entries (chaosIoFdcacheSlot fd)).text = path

theorem served_of_lookup
    {cache : Cache} {fd : Int} {pathSize : Nat} {path : Bytes}
    (served : chaosIoFdcacheLookup cache fd pathSize = some path) :
    Served cache fd path := by
  unfold chaosIoFdcacheLookup at served
  split at served
  · cases served
  · rename_i guarded
    simp only [Bool.or_eq_true, decide_eq_true_eq, not_or] at guarded
    simp only at served
    split at served
    · cases served
    · cases copied : (copyEntry fd pathSize).eval
          (cache.entries (chaosIoFdcacheSlot fd)).cells with
      | none =>
          rw [copied] at served
          cases served
      | some copy =>
          rcases copy with ⟨generation, text⟩
          rw [copied] at served
          simp only at served
          split at served
          · rename_i current
            rcases eval_copyEntry_eq_some copied with ⟨held, tagged, read⟩
            exact ⟨not_lt.mp guarded.1.1, held, tagged.trans current,
              read.trans (Option.some.inj served)⟩
          · cases served

end ChaosLibs.Io.FdCache
