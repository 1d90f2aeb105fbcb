import ChaosLibs.Io.FdCache
import ChaosLibs.Machine.LabelledRun

/-!
# Coherence of the descriptor cache

One process as its descriptor cache sees it: the names the kernel reports for
its descriptors, and the cache.  A label is an interposed call with what the
kernel made of it, a rule check that resolves a descriptor, or the creation of
a descriptor that libchaos-io does not interpose.  `internal` says that a call
runs inside a library section.

The names are the kernel's: an unlink or a rename that succeeds may change the
name of any open descriptor, nothing else changes the name of one that stays
open.
-/

namespace ChaosLibs.Io.FdCacheCoherence

open ChaosLibs.Common.CString
open ChaosLibs.Io.FdCache
open ChaosLibs.Io.PathText
open ChaosLibs.Machine

/-! ## The kernel's side -/

/-- A descriptor number. -/
abbrev Descriptor := Fin 2147483648

/-- The descriptor table, each open descriptor with its name, and the cache. -/
structure Process where
  names : Descriptor → Option KernelName
  cache : Cache

/-- The name of the descriptor an `int` argument names, if it names one. -/
def Process.nameOf (process : Process) (fd : Int) : Option KernelName :=
  if inside : 0 ≤ fd ∧ fd < 2147483648 then
    process.names ⟨fd.toNat, by omega⟩
  else
    none

/-- The kernel closes a descriptor; nothing happens to one that is not open. -/
def Process.release (process : Process) (fd : Int) : Process :=
  { process with
    names := fun other => if (other.val : Int) = fd then none else process.names other }

/-- The kernel makes a descriptor name a file. -/
def Process.bind
    (process : Process) (fd : Descriptor) (name : Option KernelName) : Process :=
  { process with names := Function.update process.names fd name }

/-- The kernel closes the descriptors a test selects. -/
def Process.releaseAll (process : Process) (closes : Int → Bool) : Process :=
  { process with
    names := fun other => if closes other.val then none else process.names other }

/-- The kernel gives open descriptors other names. -/
def Process.relabel
    (process : Process) (names : Descriptor → KernelName → KernelName) :
    Process :=
  { process with names := fun fd => (process.names fd).map (names fd) }

/-! ## The wrappers -/

/-- `chaos_io_fdcache_invalidate` on the process's cache. -/
def Process.invalidate (process : Process) (fd : Int) : Process :=
  { process with cache := chaosIoFdcacheInvalidate process.cache fd }

/-- `chaos_io_fdcache_reset` on the process's cache. -/
def Process.reset (process : Process) : Process :=
  { process with cache := chaosIoFdcacheReset process.cache }

/-- `chaos_io_cache_open_result`. -/
def chaosIoCacheOpenResult (process : Process) (fd : Int) : Process :=
  if fd < 0 then process else process.invalidate fd

/--
`open`, `openat` and `creat`; `result` is the new descriptor with its name,
`none` for a failure of the kernel or of a rule.
-/
def openCall
    (process : Process) (internal : Bool)
    (result : Option (Descriptor × KernelName)) : Process :=
  match result with
  | none => process
  | some (fd, name) =>
      let opened := process.bind fd (some name)
      if internal then opened else chaosIoCacheOpenResult opened fd.val

/-- `fopen`; the stream's descriptor is cached after the real call. -/
def fopen
    (process : Process) (internal : Bool)
    (result : Option (Descriptor × KernelName)) : Process :=
  match result with
  | none => process
  | some (fd, name) =>
      let opened := process.bind fd (some name)
      if !internal then chaosIoCacheOpenResult opened fd.val else opened

/--
What the real `freopen` came to.  It closes the stream's descriptor before it
opens the path, so a failure leaves the descriptor closed; with a `NULL` path
a success keeps the file.
-/
inductive ReopenResult where
  | failed
  | kept
  | opened (fd : Descriptor) (name : KernelName)

/--
`freopen` of a stream on descriptor `stream`; `named` says that the path is
not `NULL` and `fault` that an `open` rule would fail the call.
-/
def freopen
    (process : Process) (internal named fault : Bool) (stream : Int)
    (result : ReopenResult) : Process :=
  if named && !internal && fault then
    -- The real freopen of an empty path always fails.
    (process.release stream).invalidate stream
  else
    match result with
    | .failed => process.release stream
    | .kept => process
    | .opened fd name =>
        let reopened := process.bind fd (some name)
        if named && !internal then chaosIoCacheOpenResult reopened fd.val
        else reopened

/-- `close`; the descriptor is gone whatever the real call returned. -/
def close (process : Process) (fd : Int) : Process :=
  (process.release fd).invalidate fd

/-- `fclose` of a stream on descriptor `fd`. -/
def fclose (process : Process) (internal : Bool) (fd : Int) : Process :=
  let closed := process.release fd
  if !internal then closed.invalidate fd else closed

/--
`closedir` and `pclose` of a stream on descriptor `fd`; `closed` says whether
the real call closed it.
-/
def closeStream (process : Process) (fd : Int) (closed : Bool) : Process :=
  (if closed then process.release fd else process).invalidate fd

/-- `dup2`. -/
def dup2 (process : Process) (old new : Descriptor) (granted : Bool) : Process :=
  if granted then
    let replaced := process.bind new (process.names old)
    if old ≠ new then replaced.invalidate new.val else replaced
  else
    process

/-- `dup3`. -/
def dup3 (process : Process) (old new : Descriptor) (granted : Bool) : Process :=
  if granted then
    (process.bind new (process.names old)).invalidate new.val
  else
    process

/-- The descriptors the invalidation loop of `close_range` visits. -/
def closeRangeFds (first last : Nat) : List Nat :=
  (List.range' first (last + 1 - first)).filter fun fd => fd < 2147483648

/--
`close_range`; `granted` is false when the real call fails or libc has none,
and `cloexec` says that the flags hold `CLOSE_RANGE_CLOEXEC`.
-/
def closeRange
    (process : Process) (first last : UInt32) (cloexec granted : Bool) : Process :=
  if !granted || cloexec then
    process
  else
    let closed := process.releaseAll fun fd =>
      (first.toNat : Int) ≤ fd && fd ≤ last.toNat
    if last < first then
      closed
    else if chaosIoFdCacheSlots - 1 ≤ last.toNat - first.toNat then
      closed.reset
    else
      (closeRangeFds first.toNat last.toNat).foldl
        (fun process fd => process.invalidate fd) closed

/--
`closefrom`; `limit` is the bound of the fallback without the `close_range`
system call.
-/
def closefrom (process : Process) (lowfd : Int) (limit : Option Int) : Process :=
  (process.releaseAll fun fd =>
    lowfd ≤ fd &&
      match limit with
      | none => true
      | some bound => fd < bound).reset

/--
`unlinkat`, `renameat`, `renameat2` and their path forms; `granted` is false
for a failure of the kernel or of a rule.
-/
def renameCall
    (process : Process) (granted : Bool)
    (names : Descriptor → KernelName → KernelName) : Process :=
  if granted then (process.relabel names).reset else process

/-- A rule check on a descriptor: `chaos_io_fdcache_resolve`. -/
def resolve (process : Process) (fd : Int) (mapping : Bool) : Process :=
  { process with
    cache :=
      (chaosIoFdcacheResolve process.cache fd chaosIoMaxPath
        ((process.nameOf fd).map KernelName.text) mapping).1 }

/-! ## The machine -/

/-- A call of the process, with what the kernel made of it. -/
inductive Call where
  | open (internal : Bool) (result : Option (Descriptor × KernelName))
  | fopen (internal : Bool) (result : Option (Descriptor × KernelName))
  | freopen (internal named fault : Bool) (stream : Int) (result : ReopenResult)
  | close (fd : Int)
  | fclose (internal : Bool) (fd : Int)
  | closedir (fd : Int) (closed : Bool)
  | pclose (fd : Int) (closed : Bool)
  | dup2 (old new : Descriptor) (granted : Bool)
  | dup3 (old new : Descriptor) (granted : Bool)
  | closeRange (first last : UInt32) (cloexec granted : Bool)
  | closefrom (lowfd : Int) (limit : Option Int)
  | unlink (granted : Bool) (names : Descriptor → KernelName → KernelName)
  | rename (granted : Bool) (names : Descriptor → KernelName → KernelName)
  | resolve (fd : Int) (mapping : Bool)
  /-- `socket`, `pipe`, `dup`, `accept`: not interposed by libchaos-io. -/
  | create (fd : Descriptor) (name : KernelName)

/-- A descriptor the kernel hands out is not open. -/
def Free (process : Process) : Option (Descriptor × KernelName) → Bool
  | none => true
  | some (fd, _) => (process.names fd).isNone

/-- What the real `freopen` may come to. -/
def Reopens (process : Process) (named : Bool) (stream : Int) :
    ReopenResult → Bool
  | .failed => true
  | .kept => !named
  | .opened fd _ =>
      named && ((fd.val : Int) = stream ||
        stream < 0 && (process.names fd).isNone)

/-- One call; `none` for a result the kernel cannot give. -/
def step (process : Process) : Call → Option Process
  | .open internal result =>
      if Free process result then some (openCall process internal result)
      else none
  | .fopen internal result =>
      if Free process result then some (fopen process internal result)
      else none
  | .freopen internal named fault stream result =>
      if Reopens process named stream result then
        some (freopen process internal named fault stream result)
      else
        none
  | .close fd => some (close process fd)
  | .fclose internal fd => some (fclose process internal fd)
  | .closedir fd closed | .pclose fd closed =>
      some (closeStream process fd closed)
  | .dup2 old new granted => some (dup2 process old new granted)
  | .dup3 old new granted => some (dup3 process old new granted)
  | .closeRange first last cloexec granted =>
      some (closeRange process first last cloexec granted)
  | .closefrom lowfd limit => some (closefrom process lowfd limit)
  | .unlink granted names | .rename granted names =>
      some (renameCall process granted names)
  | .resolve fd mapping => some (resolve process fd mapping)
  | .create fd name =>
      if Free process (some (fd, name)) then some (process.bind fd (some name))
      else none

/-- At start-up nothing is cached. -/
def initial (names : Descriptor → Option KernelName) : Process :=
  ⟨names, Cache.fresh⟩

/-! ## The property and the condition -/

/-- Every path a lookup serves is the name the kernel reports for the descriptor. -/
def Coherent (process : Process) : Prop :=
  ∀ (fd : Descriptor) (pathSize : Nat) (path : Bytes),
    chaosIoFdcacheLookup process.cache fd.val pathSize = some path →
      (process.names fd).map KernelName.text = some path

/-- The cache holds an entry of the descriptor that is still current. -/
def ValidEntry (cache : Cache) (fd : Int) : Prop :=
  (cache.entries (chaosIoFdcacheSlot fd)).fdPlusOne = fd + 1 ∧
    (cache.entries (chaosIoFdcacheSlot fd)).generation =
      cache.generations (chaosIoFdcacheSlot fd)

instance decidableValidEntry (cache : Cache) (fd : Int) :
    Decidable (ValidEntry cache fd) :=
  inferInstanceAs (Decidable (_ ∧ _))

/--
The descriptor whose file a call takes away without an invalidation: that of a
`freopen` that fails in the kernel, and, inside a library section, that of a
`freopen` that succeeds and of an `fclose`.
-/
def Call.uninvalidated : Call → Option Int
  | .freopen internal named fault stream result =>
      if named && !internal && fault then
        none
      else
        match result with
        | .failed => some stream
        | .kept => none
        | .opened fd _ => if named && !internal then none else some fd.val
  | .fclose internal fd => if internal then some fd else none
  | _ => none

/--
The call takes no descriptor away that has a current entry, but with an
invalidation, and no invalidation it makes brings the generation of a slot
back to the generation of the slot's entry.
-/
structure Invalidates (process : Process) (call : Call) : Prop where
  covered : ∀ fd, call.uninvalidated = some fd → ¬ ValidEntry process.cache fd
  outdated : ∀ next, step process call = some next → ∀ slot,
    next.cache.generations slot ≠ process.cache.generations slot →
      next.cache.generations slot ≠ (process.cache.entries slot).generation

theorem invalidates_iff {process : Process} {call : Call} :
    Invalidates process call ↔
      (match call.uninvalidated with
        | none => True
        | some fd => ¬ ValidEntry process.cache fd) ∧
      (match step process call with
        | none => True
        | some next => ∀ slot,
            next.cache.generations slot ≠ process.cache.generations slot →
              next.cache.generations slot ≠
                (process.cache.entries slot).generation) := by
  constructor
  · rintro ⟨covered, outdated⟩
    refine ⟨?_, ?_⟩
    · cases taken : call.uninvalidated with
      | none => trivial
      | some fd => exact covered fd taken
    · cases stepped : step process call with
      | none => trivial
      | some next => exact outdated next stepped
  · rintro ⟨covered, outdated⟩
    constructor
    · intro fd taken
      rw [taken] at covered
      exact covered
    · intro next stepped
      rw [stepped] at outdated
      exact outdated

instance decidableInvalidates (process : Process) (call : Call) :
    Decidable (Invalidates process call) :=
  have : Decidable
      (match call.uninvalidated with
        | none => True
        | some fd => ¬ ValidEntry process.cache fd) :=
    match call.uninvalidated with
    | none => isTrue trivial
    | some _ => inferInstanceAs (Decidable (¬ _))
  have : Decidable
      (match step process call with
        | none => True
        | some next => ∀ slot,
            next.cache.generations slot ≠ process.cache.generations slot →
              next.cache.generations slot ≠
                (process.cache.entries slot).generation) :=
    match step process call with
    | none => isTrue trivial
    | some _ => inferInstanceAs (Decidable (∀ _slot : Slot, _))
  decidable_of_iff _ invalidates_iff.symm

/-! ## The invariant -/

/-- Every current entry holds the name of its descriptor. -/
def Truthful (process : Process) : Prop :=
  ∀ (fd : Descriptor) (path : Bytes), Served process.cache fd.val path →
    (process.names fd).map KernelName.text = some path

theorem coherent_of_truthful {process : Process} (truthful : Truthful process) :
    Coherent process := by
  intro fd pathSize path served
  exact truthful fd path (served_of_lookup served)

theorem truthful_initial (names : Descriptor → Option KernelName) :
    Truthful (initial names) := by
  intro fd path served
  have held : (0 : Int) = (fd.val : Int) + 1 := served.held
  have nonneg : (0 : Int) ≤ (fd.val : Int) := served.nonneg
  omega

theorem validEntry_of_served {cache : Cache} {fd : Int} {path : Bytes}
    (served : Served cache fd path) : ValidEntry cache fd :=
  ⟨served.held, served.current⟩

/-- A descriptor that is not open has no current entry. -/
theorem Truthful.not_validEntry
    {process : Process} (truthful : Truthful process) {fd : Descriptor}
    (free : process.names fd = none) : ¬ ValidEntry process.cache fd.val := by
  rintro ⟨held, current⟩
  have named := truthful fd _ ⟨Int.natCast_nonneg _, held, current, rfl⟩
  rw [free] at named
  cases named

/--
What a call that stores nothing does: the entries stay, and a descriptor with a
current entry keeps its name unless its slot is invalidated.
-/
structure NamesKept (before after : Process) : Prop where
  entries : after.cache.entries = before.cache.entries
  names : ∀ fd : Descriptor, ValidEntry before.cache fd.val →
    after.cache.generations (chaosIoFdcacheSlot fd.val) =
        before.cache.generations (chaosIoFdcacheSlot fd.val) →
      after.names fd = before.names fd

theorem NamesKept.refl (process : Process) : NamesKept process process where
  entries := rfl
  names := fun _ _ _ => rfl

/-- A call that stores nothing keeps the entries true. -/
theorem Truthful.of_namesKept
    {before after : Process} (truthful : Truthful before)
    (kept : NamesKept before after)
    (outdated : ∀ slot,
      after.cache.generations slot ≠ before.cache.generations slot →
        after.cache.generations slot ≠ (before.cache.entries slot).generation) :
    Truthful after := by
  intro fd path served
  have held := served.held
  have current := served.current
  have text := served.text
  rw [kept.entries] at held current text
  have same : after.cache.generations (chaosIoFdcacheSlot fd.val) =
      before.cache.generations (chaosIoFdcacheSlot fd.val) := by
    by_contra different
    exact outdated _ different current.symm
  have earlier : Served before.cache fd.val path :=
    ⟨served.nonneg, held, current.trans same, text⟩
  rw [kept.names fd (validEntry_of_served earlier) same]
  exact truthful fd path earlier

/-! ## Generations -/

theorem word_add_one_ne (word : UInt32) : word + 1 ≠ word := by
  intro same
  have values := congrArg UInt32.toNat same
  rw [UInt32.toNat_add] at values
  have bound := word.toNat_lt
  simp only [UInt32.reduceToNat] at values
  omega

theorem generations_invalidate (process : Process) (fd : Int) (slot : Slot) :
    (process.invalidate fd).cache.generations slot =
      if 0 ≤ fd ∧ slot = chaosIoFdcacheSlot fd then
        process.cache.generations slot + 1
      else
        process.cache.generations slot := by
  unfold Process.invalidate chaosIoFdcacheInvalidate
  by_cases negative : fd < 0
  · simp [negative]
  · by_cases same : slot = chaosIoFdcacheSlot fd
    · subst same
      simp [negative, not_lt.mp negative]
    · simp [negative, same]

theorem entries_invalidate (process : Process) (fd : Int) :
    (process.invalidate fd).cache.entries = process.cache.entries := by
  unfold Process.invalidate chaosIoFdcacheInvalidate
  split <;> rfl

theorem names_invalidate (process : Process) (fd : Int) :
    (process.invalidate fd).names = process.names :=
  rfl

/-- The generation of an invalidated slot moves. -/
theorem generations_invalidate_ne (process : Process) (fd : Descriptor) :
    (process.invalidate fd.val).cache.generations (chaosIoFdcacheSlot fd.val) ≠
      process.cache.generations (chaosIoFdcacheSlot fd.val) := by
  rw [generations_invalidate, if_pos ⟨Int.natCast_nonneg _, rfl⟩]
  exact word_add_one_ne _

/-! ## Calls that store nothing -/

section Names

variable {before middle : Process}

/-- A change of names that spares the descriptors with a current entry. -/
theorem namesKept_of_names
    (cache : middle.cache = before.cache)
    (spared : ∀ fd : Descriptor, ValidEntry before.cache fd.val →
      middle.names fd = before.names fd) :
    NamesKept before middle where
  entries := by
    rw [cache]
  names := fun fd valid _ => spared fd valid

/-- A change of the name of one descriptor, which is then invalidated. -/
theorem namesKept_invalidate
    (cache : middle.cache = before.cache) (fd : Int)
    (spared : ∀ other : Descriptor, ValidEntry before.cache other.val →
      (other.val : Int) ≠ fd → middle.names other = before.names other) :
    NamesKept before (middle.invalidate fd) where
  entries := by
    rw [entries_invalidate, cache]
  names := by
    intro other valid same
    rw [names_invalidate]
    apply spared other valid
    intro equal
    subst equal
    rw [← cache] at same
    exact generations_invalidate_ne middle other same

/-- Any change of names, followed by a reset. -/
theorem namesKept_reset (cache : middle.cache = before.cache) :
    NamesKept before middle.reset where
  entries := by
    rw [← cache]
    rfl
  names := by
    intro fd _ same
    have moved : before.cache.generations (chaosIoFdcacheSlot fd.val) + 1 =
        before.cache.generations (chaosIoFdcacheSlot fd.val) := by
      rw [← cache] at same ⊢
      exact same
    exact absurd moved (word_add_one_ne _)

end Names

theorem names_release_of_ne
    (process : Process) {fd : Int} {other : Descriptor}
    (different : (other.val : Int) ≠ fd) :
    (process.release fd).names other = process.names other :=
  if_neg different

theorem names_bind_of_ne
    (process : Process) {fd other : Descriptor} (name : Option KernelName)
    (different : other ≠ fd) :
    (process.bind fd name).names other = process.names other :=
  Function.update_of_ne different _ _

/-- A descriptor that was free takes no current entry with it. -/
theorem Truthful.spared_bind
    {process : Process} (truthful : Truthful process) {fd : Descriptor}
    (free : process.names fd = none) (name : Option KernelName)
    (other : Descriptor) (valid : ValidEntry process.cache other.val) :
    (process.bind fd name).names other = process.names other := by
  apply names_bind_of_ne
  intro same
  subst same
  exact truthful.not_validEntry free valid

theorem Truthful.namesKept_bind
    {process : Process} (truthful : Truthful process) {fd : Descriptor}
    (free : process.names fd = none) (name : Option KernelName) :
    NamesKept process (process.bind fd name) :=
  namesKept_of_names rfl (truthful.spared_bind free name)

theorem chaosIoCacheOpenResult_descriptor
    (process : Process) (fd : Descriptor) :
    chaosIoCacheOpenResult process fd.val = process.invalidate fd.val :=
  if_neg (not_lt.mpr (Int.natCast_nonneg _))

theorem Truthful.namesKept_openCall
    {process : Process} (truthful : Truthful process) (internal : Bool)
    {result : Option (Descriptor × KernelName)} (free : Free process result) :
    NamesKept process (openCall process internal result) := by
  cases result with
  | none => exact NamesKept.refl process
  | some opened =>
      rcases opened with ⟨fd, name⟩
      have unnamed : process.names fd = none := Option.isNone_iff_eq_none.mp free
      cases internal with
      | true => exact truthful.namesKept_bind unnamed (some name)
      | false =>
          show NamesKept process
            (chaosIoCacheOpenResult (process.bind fd (some name)) fd.val)
          rw [chaosIoCacheOpenResult_descriptor]
          refine namesKept_invalidate (by rfl) _ ?_
          intro other valid _
          exact truthful.spared_bind unnamed (some name) other valid

theorem fopen_eq_openCall
    (process : Process) (internal : Bool)
    (result : Option (Descriptor × KernelName)) :
    fopen process internal result = openCall process internal result := by
  cases result with
  | none => rfl
  | some opened => cases internal <;> rfl

theorem namesKept_freopen
    {process : Process} {internal named fault : Bool} {stream : Int}
    {result : ReopenResult}
    (covered : ∀ fd,
      (Call.freopen internal named fault stream result).uninvalidated = some fd →
        ¬ ValidEntry process.cache fd) :
    NamesKept process (freopen process internal named fault stream result) := by
  unfold freopen
  split
  · refine namesKept_invalidate (by rfl) _ ?_
    intro other _ different
    exact names_release_of_ne process different
  · rename_i notFaulted
    cases result with
    | failed =>
        have gone := covered stream (if_neg notFaulted)
        show NamesKept process (process.release stream)
        refine namesKept_of_names (by rfl) ?_
        intro other valid
        apply names_release_of_ne
        intro same
        exact gone (same ▸ valid)
    | kept => exact NamesKept.refl process
    | opened fd name =>
        show NamesKept process
          (if named && !internal then
            chaosIoCacheOpenResult (process.bind fd (some name)) fd.val
          else process.bind fd (some name))
        split
        · rw [chaosIoCacheOpenResult_descriptor]
          refine namesKept_invalidate (by rfl) _ ?_
          intro other _ different
          apply names_bind_of_ne
          intro same
          exact different (same ▸ rfl)
        · rename_i notInvalidated
          have gone : ¬ ValidEntry process.cache fd.val := by
            apply covered
            rw [Call.uninvalidated, if_neg notFaulted]
            exact if_neg notInvalidated
          refine namesKept_of_names (by rfl) ?_
          intro other valid
          apply names_bind_of_ne
          intro same
          exact gone (same ▸ valid)

theorem namesKept_close (process : Process) (fd : Int) :
    NamesKept process (close process fd) := by
  refine namesKept_invalidate (by rfl) _ ?_
  intro other _ different
  exact names_release_of_ne process different

theorem namesKept_fclose
    {process : Process} {internal : Bool} {fd : Int}
    (covered : ∀ other, (Call.fclose internal fd).uninvalidated = some other →
      ¬ ValidEntry process.cache other) :
    NamesKept process (fclose process internal fd) := by
  cases internal with
  | false => exact namesKept_close process fd
  | true =>
      have gone := covered fd rfl
      refine namesKept_of_names (by rfl) ?_
      intro other valid
      apply names_release_of_ne
      intro same
      exact gone (same ▸ valid)

theorem namesKept_closeStream (process : Process) (fd : Int) (closed : Bool) :
    NamesKept process (closeStream process fd closed) := by
  cases closed with
  | true => exact namesKept_close process fd
  | false =>
      refine namesKept_invalidate (by rfl) _ ?_
      intro other _ _
      rfl

theorem namesKept_dup3
    (process : Process) (old new : Descriptor) (granted : Bool) :
    NamesKept process (dup3 process old new granted) := by
  cases granted with
  | false => exact NamesKept.refl process
  | true =>
      refine namesKept_invalidate (by rfl) _ ?_
      intro other _ different
      apply names_bind_of_ne
      intro same
      exact different (same ▸ rfl)

/-- A `dup2` onto the same descriptor changes nothing; any other is a `dup3`. -/
theorem namesKept_dup2
    (process : Process) (old new : Descriptor) (granted : Bool) :
    NamesKept process (dup2 process old new granted) := by
  cases granted with
  | false => exact NamesKept.refl process
  | true =>
      by_cases same : old = new
      · subst same
        have unchanged : dup2 process old old true = process := by
          simp [dup2, Process.bind]
        rw [unchanged]
        exact NamesKept.refl process
      · have replaced : dup2 process old new true =
            dup3 process old new true := by
          simp [dup2, dup3, same]
        rw [replaced]
        exact namesKept_dup3 process old new true

/-! ## The loop of `close_range` -/

/-- Invalidate a list of descriptors. -/
def Process.invalidateAll (process : Process) (fds : List Nat) : Process :=
  fds.foldl (fun process fd => process.invalidate fd) process

theorem names_invalidateAll (process : Process) (fds : List Nat) :
    (process.invalidateAll fds).names = process.names := by
  induction fds generalizing process with
  | nil => rfl
  | cons fd rest induction => exact induction (process.invalidate fd)

theorem entries_invalidateAll (process : Process) (fds : List Nat) :
    (process.invalidateAll fds).cache.entries = process.cache.entries := by
  induction fds generalizing process with
  | nil => rfl
  | cons fd rest induction =>
      exact (induction (process.invalidate fd)).trans
        (entries_invalidate process fd)

/-- Each descriptor of the list moves the generation of its slot by one. -/
theorem generations_invalidateAll
    (process : Process) (fds : List Nat) (slot : Slot) :
    (process.invalidateAll fds).cache.generations slot =
      process.cache.generations slot +
        UInt32.ofNat
          (fds.countP fun fd : Nat => slot = chaosIoFdcacheSlot (fd : Int)) := by
  induction fds generalizing process with
  | nil => simp [Process.invalidateAll]
  | cons fd rest induction =>
      have tail := induction (process.invalidate fd)
      have split : process.invalidateAll (fd :: rest) =
          (process.invalidate fd).invalidateAll rest := rfl
      rw [split, tail, generations_invalidate]
      by_cases same : slot = chaosIoFdcacheSlot (fd : Int)
      · rw [if_pos ⟨Int.natCast_nonneg _, same⟩,
          List.countP_cons_of_pos (by simpa using same), UInt32.ofNat_add,
          UInt32.add_assoc, UInt32.add_comm 1]
        rfl
      · rw [if_neg (fun both => same both.2),
          List.countP_cons_of_neg (by simpa using same)]

theorem word_add_ofNat_ne (word : UInt32) {count : Nat}
    (positive : 0 < count) (small : count < 2 ^ 32) :
    word + UInt32.ofNat count ≠ word := by
  intro same
  have values := congrArg UInt32.toNat same
  rw [UInt32.toNat_add, UInt32.toNat_ofNat'] at values
  have bound := word.toNat_lt
  omega

/-- A short list of descriptors: each of them is invalidated. -/
theorem generations_invalidateAll_ne
    (process : Process) {fds : List Nat} (short : fds.length < 2 ^ 32)
    {fd : Nat} (member : fd ∈ fds) :
    (process.invalidateAll fds).cache.generations
        (chaosIoFdcacheSlot (fd : Int)) ≠
      process.cache.generations (chaosIoFdcacheSlot (fd : Int)) := by
  rw [generations_invalidateAll]
  apply word_add_ofNat_ne
  · rw [List.countP_pos_iff]
    exact ⟨fd, member, by simp⟩
  · exact lt_of_le_of_lt List.countP_le_length short

theorem mem_closeRangeFds {first last : Nat} (fd : Descriptor) :
    fd.val ∈ closeRangeFds first last ↔ first ≤ fd.val ∧ fd.val ≤ last := by
  unfold closeRangeFds
  have bound := fd.isLt
  simp only [List.mem_filter, List.mem_range'_1, decide_eq_true_eq]
  omega

theorem length_closeRangeFds_le (first last : Nat) :
    (closeRangeFds first last).length ≤ last + 1 - first := by
  have filtered := List.length_filter_le
    (fun fd => decide (fd < 2147483648)) (List.range' first (last + 1 - first))
  rwa [List.length_range'] at filtered

theorem names_releaseAll_of_not
    (process : Process) {closes : Int → Bool} {fd : Descriptor}
    (stays : closes fd.val = false) :
    (process.releaseAll closes).names fd = process.names fd := by
  simp [Process.releaseAll, stays]

theorem namesKept_closeRange
    (process : Process) (first last : UInt32) (cloexec granted : Bool) :
    NamesKept process (closeRange process first last cloexec granted) := by
  unfold closeRange
  split
  · exact NamesKept.refl process
  · simp only
    split
    · -- An empty range: the kernel has closed nothing.
      rename_i empty
      refine namesKept_of_names (by rfl) ?_
      intro fd _
      apply names_releaseAll_of_not
      have order : last.toNat < first.toNat := UInt32.lt_iff_toNat_lt.mp empty
      rw [Bool.and_eq_false_iff]
      by_cases above : (first.toNat : Int) ≤ fd.val
      · exact Or.inr (decide_eq_false (by omega))
      · exact Or.inl (decide_eq_false above)
    · split
      · exact namesKept_reset rfl
      · rename_i narrow
        change NamesKept process
          ((process.releaseAll _).invalidateAll
            (closeRangeFds first.toNat last.toNat))
        have length := length_closeRangeFds_le first.toNat last.toNat
        have short :
            (closeRangeFds first.toNat last.toNat).length < 2 ^ 32 := by
          have slots : chaosIoFdCacheSlots = 32 := rfl
          omega
        constructor
        · rw [entries_invalidateAll]
          rfl
        · intro fd _ same
          rw [names_invalidateAll]
          apply names_releaseAll_of_not
          by_contra inside
          simp only [Bool.not_eq_false, Bool.and_eq_true,
            decide_eq_true_eq, Int.ofNat_le] at inside
          have member : fd.val ∈ closeRangeFds first.toNat last.toNat :=
            (mem_closeRangeFds fd).mpr inside
          exact generations_invalidateAll_ne _ short member same

/-! ## Rule checks -/

/-- The one store of the cache: the path just read, under the current generation. -/
theorem served_storeAt
    {cache : Cache} {fd : Int} {path : Bytes} {mapping : Bool}
    (noNul : 0 ∉ path) {other : Int} {served : Bytes}
    (after : Served
      (chaosIoFdcacheStoreAt cache fd path
        (cache.generations (chaosIoFdcacheSlot fd)) mapping) other served) :
    Served cache other served ∨ other = fd ∧ served = path := by
  unfold chaosIoFdcacheStoreAt at after
  split at after
  · exact Or.inl after
  · split at after
    · exact Or.inl after
    · rename_i short
      split at after
      · exact Or.inl after
      · simp only at after
        split at after
        · exact Or.inl ⟨after.nonneg, after.held, after.current, after.text⟩
        · by_cases same : chaosIoFdcacheSlot other = chaosIoFdcacheSlot fd
          · have held := after.held
            have text := after.text
            simp only [same, Function.update_self] at held text
            exact Or.inr ⟨by omega,
              text.symm.trans
                (FdCacheEntry.text_of_path rfl noNul (not_le.mp short))⟩
          · have held := after.held
            have current := after.current
            have text := after.text
            simp only [Function.update_of_ne same] at held current text
            exact Or.inl ⟨after.nonneg, held, current, text⟩

theorem nameOf_descriptor (process : Process) (fd : Descriptor) :
    process.nameOf fd.val = process.names fd := by
  have inside : 0 ≤ (fd.val : Int) ∧ (fd.val : Int) < 2147483648 := by
    have bound := fd.isLt
    omega
  rw [Process.nameOf, dif_pos inside]
  rfl

theorem truthful_resolve
    {process : Process} (truthful : Truthful process) (fd : Int)
    (mapping : Bool) : Truthful (resolve process fd mapping) := by
  intro other path served
  change (process.names other).map KernelName.text = some path
  have stored : Served
      (chaosIoFdcacheResolve process.cache fd chaosIoMaxPath
        ((process.nameOf fd).map KernelName.text) mapping).1 other.val path :=
    served
  unfold chaosIoFdcacheResolve at stored
  split at stored
  · exact truthful other path stored
  · split at stored
    · exact truthful other path stored
    · simp only at stored
      split at stored
      · exact truthful other path stored
      · rename_i target linked
        split at stored
        · exact truthful other path stored
        · rcases Option.map_eq_some_iff.mp linked with ⟨name, named, target⟩
          have whole : List.take (chaosIoMaxPath - 1) name.text = name.text :=
            List.take_of_length_le (Nat.le_sub_one_of_lt name.short)
          rw [← target, whole] at stored
          rcases served_storeAt name.noNul stored with earlier | ⟨same, text⟩
          · exact truthful other path earlier
          · rw [← same, nameOf_descriptor] at named
            rw [named, text]
            rfl

/-! ## Steps and runs -/

theorem namesKept_renameCall
    (process : Process) (granted : Bool)
    (names : Descriptor → KernelName → KernelName) :
    NamesKept process (renameCall process granted names) := by
  cases granted with
  | false => exact NamesKept.refl process
  | true => exact namesKept_reset rfl

/-- A call that meets the condition keeps every current entry true. -/
theorem truthful_step
    {process next : Process} {call : Call} (truthful : Truthful process)
    (invalidates : Invalidates process call)
    (stepped : step process call = some next) : Truthful next := by
  have kept : NamesKept process next → Truthful next := fun names =>
    truthful.of_namesKept names (invalidates.outdated next stepped)
  cases call with
  | «open» internal result =>
      simp only [step] at stepped
      split at stepped
      · rename_i free
        cases stepped
        exact kept (truthful.namesKept_openCall internal free)
      · cases stepped
  | fopen internal result =>
      simp only [step] at stepped
      split at stepped
      · rename_i free
        cases stepped
        rw [fopen_eq_openCall] at kept ⊢
        exact kept (truthful.namesKept_openCall internal free)
      · cases stepped
  | freopen internal named fault stream result =>
      simp only [step] at stepped
      split at stepped
      · cases stepped
        exact kept (namesKept_freopen invalidates.covered)
      · cases stepped
  | close fd =>
      cases stepped
      exact kept (namesKept_close process fd)
  | fclose internal fd =>
      cases stepped
      exact kept (namesKept_fclose invalidates.covered)
  | closedir fd closed =>
      cases stepped
      exact kept (namesKept_closeStream process fd closed)
  | pclose fd closed =>
      cases stepped
      exact kept (namesKept_closeStream process fd closed)
  | dup2 old new granted =>
      cases stepped
      exact kept (namesKept_dup2 process old new granted)
  | dup3 old new granted =>
      cases stepped
      exact kept (namesKept_dup3 process old new granted)
  | closeRange first last cloexec granted =>
      cases stepped
      exact kept (namesKept_closeRange process first last cloexec granted)
  | closefrom lowfd limit =>
      cases stepped
      exact kept (namesKept_reset rfl)
  | unlink granted names =>
      cases stepped
      exact kept (namesKept_renameCall process granted names)
  | rename granted names =>
      cases stepped
      exact kept (namesKept_renameCall process granted names)
  | resolve fd mapping =>
      cases stepped
      exact truthful_resolve truthful fd mapping
  | create fd name =>
      simp only [step] at stepped
      split at stepped
      · rename_i free
        cases stepped
        exact kept
          (truthful.namesKept_bind (Option.isNone_iff_eq_none.mp free) _)
      · cases stepped

/--
In every run whose calls invalidate what they take away, every path served from
the cache is the kernel's name of the descriptor.
-/
theorem coherent_throughout_of_invalidates
    (names : Descriptor → Option KernelName) (calls : List Call)
    (invalidates : Meets step Invalidates (initial names) calls) :
    Throughout step Coherent (initial names) calls := by
  have truthful : Throughout step Truthful (initial names) calls := by
    have every : ∀ call ∈ calls, (fun _ : Call => True) call :=
      fun _ _ => trivial
    refine throughout_of_meets ?_ every (truthful_initial names) invalidates
    intro process call next _ holds met stepped
    exact truthful_step holds met stepped
  intro before after middle split ran
  exact coherent_of_truthful (truthful before after middle split ran)

/-- A file opened, checked and closed, and its number taken by a socket. -/
def closedFile : List Call :=
  [.open false (some (3, ⟨bytes "/data/a", by decide, by decide⟩)),
    .resolve 3 true,
    .close 3,
    .create 3 ⟨bytes "socket:[7]", by decide, by decide⟩]

theorem coherent_throughout_of_invalidates_closedFile :
    Meets step Invalidates (initial fun _ => none) closedFile ∧
      Throughout step Coherent (initial fun _ => none) closedFile := by
  have invalidates :
      Meets step Invalidates (initial fun _ => none) closedFile := by
    decide +kernel
  exact ⟨invalidates, coherent_throughout_of_invalidates _ _ invalidates⟩

/-! ## A freopen that fails -/

/--
A file opened and checked, a `freopen` of its stream that fails in the kernel,
and its number taken by a socket.
-/
def failedReopen : List Call :=
  [.open false (some (3, ⟨bytes "/data/a", by decide, by decide⟩)),
    .resolve 3 true,
    .freopen false true false 3 .failed,
    .create 3 ⟨bytes "socket:[7]", by decide, by decide⟩]

/-- The socket is served from the cache under the name of the file. -/
theorem failedReopen_serves_closed_file :
    ∃ final, run step (initial fun _ => none) failedReopen = some final ∧
      chaosIoFdcacheLookup final.cache 3 chaosIoMaxPath =
        some (bytes "/data/a") ∧
      (final.names 3).map KernelName.text = some (bytes "socket:[7]") ∧
      ¬ Throughout step Coherent (initial fun _ => none) failedReopen := by
  have ended :
      (run step (initial fun _ => none) failedReopen).map
          (fun final =>
            (chaosIoFdcacheLookup final.cache 3 chaosIoMaxPath,
              (final.names 3).map KernelName.text)) =
        some (some (bytes "/data/a"), some (bytes "socket:[7]")) := by
    decide +kernel
  rcases Option.map_eq_some_iff.mp ended with ⟨final, ran, values⟩
  rcases Prod.mk.inj values with ⟨served, named⟩
  refine ⟨final, ran, served, named, ?_⟩
  intro throughout
  have same := throughout.final ran 3 chaosIoMaxPath (bytes "/data/a") served
  rw [named] at same
  exact absurd same (by decide)

end ChaosLibs.Io.FdCacheCoherence
