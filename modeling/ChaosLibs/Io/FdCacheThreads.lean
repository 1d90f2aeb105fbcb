import ChaosLibs.Io.FdCache
import ChaosLibs.Machine.LabelledRun
import ChaosLibs.Machine.WordCounts

/-!
# Threads in the descriptor cache

Any number of threads inside `chaos_io_fdcache_lookup`, `_resolve`,
`_invalidate` and `_reset`, and closing descriptors, each one shared access at
a time: the words of an entry one by one, the path byte by byte.  A close is
the kernel's close followed by the invalidation of the descriptor.

The `history` component is a ghost, and so are the counts that program
counters carry beside the words they loaded: `ticks` and `bumps` count how
often a sequence word and a generation word moved, where the words wrap.
-/

namespace ChaosLibs.Io.FdCacheThreads

open ChaosLibs.Common.CString
open ChaosLibs.Io.FdCache
open ChaosLibs.Io.PathText
open ChaosLibs.Machine
open ChaosLibs.Machine.WordCounts

/-! ## Program counters -/

/-- The arguments of a lookup; `resolving` when `chaos_io_fdcache_resolve` made it. -/
structure LookupCall where
  fd : Int
  pathSize : Nat
  resolving : Bool

/--
A path one `readlink` gave: the generation sampled before it, and, as ghosts,
how often the generation had moved by then and how many closes of the
descriptor had completed when the `readlink` ran.
-/
structure Fill where
  fd : Int
  name : KernelName
  generation : UInt32
  bumps : Nat
  epoch : Nat

/-- The store a filler makes next into the entry it has claimed. -/
inductive FillStage where
  | fdPlusOne
  | generation
  | path (index : Nat)
  | release

/-- Where a thread stands; `idle` outside of the cache. -/
inductive Pc where
  | idle
  | lookupTable (call : LookupCall)
  | lookupSequence (call : LookupCall)
  | copy (call : LookupCall) (start : UInt32) (ticks : Nat)
      (program : EntryProgram (Option (UInt32 × Bytes)))
  | validate (call : LookupCall) (start : UInt32) (ticks : Nat)
      (generation : UInt32) (path : Bytes)
  | check (call : LookupCall) (generation : UInt32) (path : Bytes)
      (fill : Option Fill)
  | answer (fd : Int) (path : Bytes) (fill : Option Fill) (checked : Nat)
  | sample (fd : Int)
  | readlink (fd : Int) (generation : UInt32) (bumps : Nat)
  | storeTable (fill : Fill)
  | storeMap (fill : Fill)
  | storePublish (fill : Fill)
  | storeSequence (fill : Fill)
  | claim (fill : Fill) (sequence : UInt32)
  | write (fill : Fill) (sequence : UInt32) (stage : FillStage)
  | close (fd : Int)
  | invalidate (fd : Int) (number : Nat)
  | reset (index : Nat)

/-! ## The world -/

/--
A lookup that returned a path: the fill whose entry it copied, and the last
close of the descriptor whose invalidation had returned when the lookup checked
the generation and when it returned.
-/
structure Serve where
  fd : Int
  path : Bytes
  fill : Option Fill
  checked : Nat
  returned : Nat

/--
Ghost record: how often each sequence and each generation moved, the fill each
entry holds or is being filled with, the completed closes of each descriptor
and the last of them whose invalidation has returned, and the paths served.
-/
structure History where
  ticks : Slot → Nat
  bumps : Slot → Nat
  holds : Slot → Option Fill
  closed : Int → Nat
  retired : Int → Nat
  served : List Serve

/-- The shared memory of the cache and its threads. -/
structure World where
  cache : Cache
  threads : Nat → Pc
  history : History

/-- Before the first store. -/
def initial : World where
  cache := Cache.fresh
  threads := fun _ => .idle
  history := ⟨fun _ => 0, fun _ => 0, fun _ => none, fun _ => 0, fun _ => 0, []⟩

/-- Move a thread. -/
def World.goto (world : World) (thread : Nat) (pc : Pc) : World :=
  { world with threads := Function.update world.threads thread pc }

@[simp]
theorem World.goto_self (world : World) (thread : Nat) (pc : Pc) :
    (world.goto thread pc).threads thread = pc := by
  change Function.update world.threads thread pc thread = pc
  rw [Function.update_self]

theorem World.goto_of_ne
    (world : World) {thread other : Nat} (pc : Pc) (different : other ≠ thread) :
    (world.goto thread pc).threads other = world.threads other := by
  change Function.update world.threads thread pc other = _
  rw [Function.update_of_ne different]

/-- A lookup misses: a resolution samples the generation, any other call returns. -/
def World.miss (world : World) (thread : Nat) (call : LookupCall) : World :=
  world.goto thread (if call.resolving then .sample call.fd else .idle)

/-- Store into the entry of a slot. -/
def World.store (world : World) (slot : Slot) (entry : FdCacheEntry) : World :=
  { world with
    cache.entries := Function.update world.cache.entries slot entry }

/-- Count a move of the sequence of a slot. -/
def World.tick (world : World) (slot : Slot) : World :=
  { world with
    history.ticks :=
      Function.update world.history.ticks slot (world.history.ticks slot + 1) }

/-- The atomic increment of a generation. -/
def World.bump (world : World) (slot : Slot) : World :=
  { world with
    cache.generations :=
      Function.update world.cache.generations slot
        (world.cache.generations slot + 1)
    history.bumps :=
      Function.update world.history.bumps slot (world.history.bumps slot + 1) }

/-- The entry of the slot of a fill after its sequence is made odd. -/
def World.claimedEntry
    (world : World) (fill : Fill) (sequence : UInt32) : FdCacheEntry :=
  { world.cache.entries (chaosIoFdcacheSlot fill.fd) with
    sequence := sequence + 1 }

/-- The compare-and-swap that claims the entry of a fill. -/
def World.claim
    (world : World) (thread : Nat) (fill : Fill) (sequence : UInt32) : World :=
  let slot := chaosIoFdcacheSlot fill.fd
  let claimed := (world.store slot (world.claimedEntry fill sequence)).tick slot
  { claimed.goto thread (.write fill sequence .fdPlusOne) with
    history.holds := Function.update world.history.holds slot (some fill) }

/-- What the kernel answers to a step, if it asks for anything. -/
structure Answer where
  link : Option KernelName
  mapping : Bool

/-! ## Steps of a thread -/

/-- The next step of `chaos_io_fdcache_lookup`. -/
def lookupStep (world : World) (thread : Nat) : Pc → Option World
  | .lookupTable call =>
      if world.cache.mapped then
        some (world.goto thread (.lookupSequence call))
      else
        some (world.miss thread call)
  | .lookupSequence call =>
      let slot := chaosIoFdcacheSlot call.fd
      let sequence := (world.cache.entries slot).sequence
      if sequence &&& 1 ≠ 0 then
        some (world.miss thread call)
      else
        some
          (world.goto thread
            (.copy call sequence (world.history.ticks slot)
              (copyEntry call.fd call.pathSize)))
  | .copy call start ticks (.read cell next) =>
      let entry := world.cache.entries (chaosIoFdcacheSlot call.fd)
      some (world.goto thread (.copy call start ticks (next (entry.cells cell))))
  | .copy call _ _ (.done none) => some (world.miss thread call)
  | .copy call start ticks (.done (some (generation, path))) =>
      some (world.goto thread (.validate call start ticks generation path))
  | .validate call start _ generation path =>
      let slot := chaosIoFdcacheSlot call.fd
      if (world.cache.entries slot).sequence ≠ start then
        some (world.miss thread call)
      else
        some
          (world.goto thread
            (.check call generation path (world.history.holds slot)))
  | .check call generation path fill =>
      if generation ≠ world.cache.generations (chaosIoFdcacheSlot call.fd) then
        some (world.miss thread call)
      else
        some
          (world.goto thread
            (.answer call.fd path fill (world.history.retired call.fd)))
  | .answer fd path fill checked =>
      some
        { world.goto thread .idle with
          history.served :=
            ⟨fd, path, fill, checked, world.history.retired fd⟩ ::
              world.history.served }
  | _ => none

/--
The next step of `chaos_io_fdcache_resolve` after its lookup, up to the claim
of the entry by `chaos_io_fdcache_store_at`.
-/
def fillStep (world : World) (thread : Nat) (answer : Answer) :
    Pc → Option World
  | .sample fd =>
      let slot := chaosIoFdcacheSlot fd
      some
        (world.goto thread
          (.readlink fd (world.cache.generations slot)
            (world.history.bumps slot)))
  | .readlink fd generation bumps =>
      match answer.link with
      | none => some (world.goto thread .idle)
      | some name =>
          if name.text.isEmpty || chaosIoIsExcludedPath name.text then
            some (world.goto thread .idle)
          else
            some
              (world.goto thread
                (.storeTable
                  ⟨fd, name, generation, bumps, world.history.closed fd⟩))
  | .storeTable fill =>
      if world.cache.mapped then
        some (world.goto thread (.storeSequence fill))
      else
        some (world.goto thread (.storeMap fill))
  | .storeMap fill =>
      if answer.mapping then
        some (world.goto thread (.storePublish fill))
      else
        some (world.goto thread .idle)
  | .storePublish fill =>
      -- The winner's table and the loser's are both zero-filled: one is kept.
      some
        { world.goto thread (.storeSequence fill) with cache.mapped := true }
  | .storeSequence fill =>
      let sequence :=
        (world.cache.entries (chaosIoFdcacheSlot fill.fd)).sequence
      if sequence &&& 1 ≠ 0 then
        some (world.goto thread .idle)
      else
        some (world.goto thread (.claim fill sequence))
  | .claim fill sequence =>
      if (world.cache.entries (chaosIoFdcacheSlot fill.fd)).sequence =
          sequence then
        some (world.claim thread fill sequence)
      else
        some (world.goto thread .idle)
  | _ => none

/-- The next store of `chaos_io_fdcache_store_at` into the entry it has claimed. -/
def writeStep (world : World) (thread : Nat) (fill : Fill) (sequence : UInt32) :
    FillStage → World :=
  let slot := chaosIoFdcacheSlot fill.fd
  let entry := world.cache.entries slot
  fun
  | .fdPlusOne =>
      (world.store slot { entry with fdPlusOne := fill.fd + 1 }).goto thread
        (.write fill sequence .generation)
  | .generation =>
      (world.store slot { entry with generation := fill.generation }).goto thread
        (.write fill sequence (.path 0))
  | .path index =>
      if inside : index < fill.name.text.length then
        (world.store slot
          { entry with
            path :=
              Function.update entry.path index fill.name.text[index] }).goto
          thread (.write fill sequence (.path (index + 1)))
      else
        (world.store slot
          { entry with path := Function.update entry.path index 0 }).goto thread
          (.write fill sequence .release)
  | .release =>
      ((world.store slot { entry with sequence := sequence + 2 }).tick
        slot).goto thread .idle

/-- The next step of `close`, `chaos_io_fdcache_invalidate` or `_reset`. -/
def outdateStep (world : World) (thread : Nat) : Pc → Option World
  | .close fd =>
      let number := world.history.closed fd + 1
      some
        { world.goto thread (.invalidate fd number) with
          history.closed := Function.update world.history.closed fd number }
  | .invalidate fd number =>
      if fd < 0 then
        some (world.goto thread .idle)
      else
        some
          { (world.bump (chaosIoFdcacheSlot fd)).goto thread .idle with
            history.retired :=
              Function.update world.history.retired fd
                (max (world.history.retired fd) number) }
  | .reset index =>
      if inside : index < chaosIoFdCacheSlots then
        some ((world.bump ⟨index, inside⟩).goto thread (.reset (index + 1)))
      else
        some (world.goto thread .idle)
  | _ => none

/-- The next step of a thread inside the cache. -/
def threadStep (world : World) (thread : Nat) (answer : Answer) : Option World :=
  match world.threads thread with
  | .idle => none
  | .write fill sequence stage =>
      some (writeStep world thread fill sequence stage)
  | pc =>
      (lookupStep world thread pc).or
        ((fillStep world thread answer pc).or (outdateStep world thread pc))

/-! ## The machine -/

/-- What can happen next. -/
inductive Action where
  /-- A thread calls `chaos_io_fdcache_lookup`. -/
  | lookup (thread : Nat) (fd : Int) (pathSize : Nat)
  /-- A thread calls `chaos_io_fdcache_resolve` with a whole path buffer. -/
  | resolve (thread : Nat) (fd : Int)
  /-- A thread closes a descriptor and then invalidates it. -/
  | close (thread : Nat) (fd : Int)
  /-- A thread invalidates a descriptor it has not closed (the target of a `dup2`). -/
  | invalidate (thread : Nat) (fd : Int)
  /-- A thread calls `chaos_io_fdcache_reset`. -/
  | reset (thread : Nat)
  /-- A thread inside a call takes its next step. -/
  | thread (thread : Nat) (answer : Answer)

/-- The thread an action belongs to. -/
def Action.owner : Action → Nat
  | .lookup actor _ _ | .resolve actor _ | .close actor _
  | .invalidate actor _ | .reset actor | .thread actor _ => actor

/-- Where a call begins; `none` for the step of a thread inside a call. -/
def Action.entry : Action → Option Pc
  | .lookup _ fd pathSize =>
      some
        (if fd < 0 || pathSize = 0 then .idle
        else .lookupTable ⟨fd, pathSize, false⟩)
  | .resolve _ fd =>
      some (if fd ≤ 2 then .idle else .lookupTable ⟨fd, chaosIoMaxPath, true⟩)
  | .close _ fd => some (.close fd)
  | .invalidate _ fd => some (.invalidate fd 0)
  | .reset _ => some (.reset 0)
  | .thread _ _ => none

/-- One step of the world. -/
def step (world : World) (action : Action) : Option World :=
  match action with
  | .thread thread answer => threadStep world thread answer
  | call =>
      match world.threads call.owner, call.entry with
      | .idle, some pc => some (world.goto call.owner pc)
      | _, _ => none

/-! ## The property and the assumption -/

/--
Every path a lookup returned is the whole path of one fill for its descriptor,
and the `readlink` of that fill ran after every close of the descriptor whose
invalidation had returned at the given moment of the lookup.
-/
def NeverStale (moment : Serve → Nat) (world : World) : Prop :=
  ∀ serve ∈ world.history.served, ∃ fill ∈ serve.fill,
    fill.fd = serve.fd ∧ fill.name.text = serve.path ∧
      moment serve ≤ fill.epoch

/--
Fewer than `2 ^ 31` fills of the slot since a lookup sampled its sequence, and
fewer than `2 ^ 32` invalidations of the slot since the fill it copied sampled
its generation.
-/
def FewUpdatesAt (world : World) : Pc → Prop
  | .validate call _ ticks _ _ =>
      (world.history.ticks (chaosIoFdcacheSlot call.fd) - ticks + 1) / 2 <
        2 ^ 31
  | .check call _ _ (some fill) =>
      world.history.bumps (chaosIoFdcacheSlot call.fd) - fill.bumps < 2 ^ 32
  | _ => True

/-- No word wraps unnoticed in the step. -/
def FewUpdates (world : World) : Action → Prop
  | .thread thread _ => FewUpdatesAt world (world.threads thread)
  | _ => True

instance decidableNeverStale (moment : Serve → Nat) :
    DecidablePred (NeverStale moment) :=
  fun world =>
    inferInstanceAs
      (Decidable (∀ serve ∈ world.history.served, ∃ fill ∈ serve.fill,
        fill.fd = serve.fd ∧ fill.name.text = serve.path ∧
          moment serve ≤ fill.epoch))

instance decidableFewUpdatesAt (world : World) :
    ∀ pc, Decidable (FewUpdatesAt world pc)
  | .validate _ _ _ _ _ => inferInstanceAs (Decidable (_ < _))
  | .check _ _ _ (some _) => inferInstanceAs (Decidable (_ < _))
  | .check _ _ _ none | .idle | .lookupTable _ | .lookupSequence _
  | .copy _ _ _ _ | .answer _ _ _ _ | .sample _ | .readlink _ _ _
  | .storeTable _ | .storeMap _ | .storePublish _ | .storeSequence _
  | .claim _ _ | .write _ _ _ | .close _ | .invalidate _ _ | .reset _ =>
      isTrue trivial

instance decidableFewUpdates (world : World) :
    ∀ action, Decidable (FewUpdates world action)
  | .thread thread _ => decidableFewUpdatesAt world (world.threads thread)
  | .lookup _ _ _ | .resolve _ _ | .close _ _ | .invalidate _ _ | .reset _ =>
      isTrue trivial

/-! ## The invariant -/

/--
What is known of a fill: its generation word, and that the generation has moved
since it was sampled once a later close has had its invalidation return.
-/
structure FillOk (world : World) (fill : Fill) : Prop where
  nonneg : 0 ≤ fill.fd
  word : fill.generation = UInt32.ofNat fill.bumps
  earlier : fill.bumps ≤ world.history.bumps (chaosIoFdcacheSlot fill.fd)
  outdated : fill.epoch < world.history.retired fill.fd →
    fill.bumps < world.history.bumps (chaosIoFdcacheSlot fill.fd)

/-- The entry holds what the fill stores. -/
structure Settled (entry : FdCacheEntry) (fill : Fill) : Prop where
  fdPlusOne : entry.fdPlusOne = fill.fd + 1
  generation : entry.generation = fill.generation
  path : HoldsText entry.path fill.name.text

/-- What a filler has stored so far. -/
def Stored (entry : FdCacheEntry) (fill : Fill) : FillStage → Prop
  | .fdPlusOne => True
  | .generation => entry.fdPlusOne = fill.fd + 1
  | .path index =>
      entry.fdPlusOne = fill.fd + 1 ∧ entry.generation = fill.generation ∧
        index ≤ fill.name.text.length ∧
        ∀ before (inside : before < fill.name.text.length), before < index →
          entry.path before = fill.name.text[before]
  | .release => Settled entry fill

/-- A filler that has claimed the entry of its slot. -/
structure Writing
    (world : World) (fill : Fill) (sequence : UInt32) (stage : FillStage) :
    Prop where
  odd : world.history.ticks (chaosIoFdcacheSlot fill.fd) % 2 = 1
  claimed :
    (world.cache.entries (chaosIoFdcacheSlot fill.fd)).sequence = sequence + 1
  holds : world.history.holds (chaosIoFdcacheSlot fill.fd) = some fill
  stored :
    Stored (world.cache.entries (chaosIoFdcacheSlot fill.fd)) fill stage

/-- A lookup that has sampled the sequence of its slot. -/
structure Sampled
    (world : World) (call : LookupCall) (start : UInt32) (ticks : Nat) :
    Prop where
  nonneg : 0 ≤ call.fd
  word : start = UInt32.ofNat ticks
  even : ticks % 2 = 0
  earlier : ticks ≤ world.history.ticks (chaosIoFdcacheSlot call.fd)

/-- What a thread knows at its program counter. -/
def Knows (world : World) : Pc → Prop
  | .idle | .close _ | .reset _ => True
  | .lookupTable call | .lookupSequence call => 0 ≤ call.fd
  | .copy call start ticks program =>
      Sampled world call start ticks ∧
        (world.history.ticks (chaosIoFdcacheSlot call.fd) = ticks →
          program.eval
              (world.cache.entries (chaosIoFdcacheSlot call.fd)).cells =
            (copyEntry call.fd call.pathSize).eval
              (world.cache.entries (chaosIoFdcacheSlot call.fd)).cells)
  | .validate call start ticks generation path =>
      Sampled world call start ticks ∧
        (world.history.ticks (chaosIoFdcacheSlot call.fd) = ticks →
          (copyEntry call.fd call.pathSize).eval
              (world.cache.entries (chaosIoFdcacheSlot call.fd)).cells =
            some (generation, path))
  | .check call generation path fill =>
      0 ≤ call.fd ∧ ∃ copied, fill = some copied ∧ copied.fd = call.fd ∧
        copied.name.text = path ∧ copied.generation = generation ∧
        FillOk world copied
  | .answer fd path fill checked =>
      ∃ copied ∈ fill, copied.fd = fd ∧ copied.name.text = path ∧
        checked ≤ copied.epoch
  | .sample fd => 0 ≤ fd
  | .readlink fd generation bumps =>
      0 ≤ fd ∧ generation = UInt32.ofNat bumps ∧
        bumps ≤ world.history.bumps (chaosIoFdcacheSlot fd)
  | .storeTable fill | .storeMap fill | .storePublish fill
  | .storeSequence fill => FillOk world fill
  | .claim fill sequence => FillOk world fill ∧ sequence &&& 1 = 0
  | .write fill sequence stage =>
      FillOk world fill ∧ Writing world fill sequence stage
  | .invalidate fd number => number ≤ world.history.closed fd

/-- The slot a thread is filling. -/
def Pc.fills : Pc → Option Slot
  | .write fill _ _ => some (chaosIoFdcacheSlot fill.fd)
  | _ => none

/-- What an entry that nobody is filling holds. -/
def EntryOk (world : World) (slot : Slot) : Prop :=
  match world.history.holds slot with
  | none => (world.cache.entries slot).fdPlusOne = 0
  | some fill =>
      Settled (world.cache.entries slot) fill ∧ FillOk world fill

/-- The invariant of the threads in the cache. -/
structure Invariant (world : World) : Prop where
  sequence : ∀ slot, (world.cache.entries slot).sequence =
    UInt32.ofNat (world.history.ticks slot)
  generation : ∀ slot, world.cache.generations slot =
    UInt32.ofNat (world.history.bumps slot)
  settled : ∀ slot, world.history.ticks slot % 2 = 0 → EntryOk world slot
  retired : ∀ fd, world.history.retired fd ≤ world.history.closed fd
  knows : ∀ thread, Knows world (world.threads thread)
  exclusive : ∀ left right slot, left ≠ right →
    (world.threads left).fills = some slot →
      (world.threads right).fills ≠ some slot
  never : NeverStale Serve.checked world

theorem invariant_initial : Invariant initial where
  sequence := fun _ => rfl
  generation := fun _ => rfl
  settled := fun _ _ => rfl
  retired := fun _ => Nat.le_refl 0
  knows := fun _ => trivial
  exclusive := by
    intro left right slot _ fills
    cases fills
  never := by
    intro serve member
    cases member

/-! ## What a step of one thread leaves to the others -/

/--
A step of one thread as the others see it: counts never fall, a sequence that
is odd is moved by its filler only, and an entry stays as it is while its
sequence does unless the thread is filling it.
-/
structure Stable (thread : Nat) (world next : World) : Prop where
  others : ∀ other, other ≠ thread → next.threads other = world.threads other
  ticks : ∀ slot, world.history.ticks slot ≤ next.history.ticks slot
  odd : ∀ slot, world.history.ticks slot % 2 = 1 →
    (world.threads thread).fills ≠ some slot →
      next.history.ticks slot = world.history.ticks slot
  entries : ∀ slot, next.history.ticks slot = world.history.ticks slot →
    (world.threads thread).fills ≠ some slot →
      next.cache.entries slot = world.cache.entries slot ∧
        next.history.holds slot = world.history.holds slot
  bumps : ∀ slot, world.history.bumps slot ≤ next.history.bumps slot
  closed : ∀ fd, world.history.closed fd ≤ next.history.closed fd
  retired : ∀ fd, next.history.retired fd = world.history.retired fd ∨
    world.history.bumps (chaosIoFdcacheSlot fd) <
      next.history.bumps (chaosIoFdcacheSlot fd)

section Stability

variable {thread : Nat} {world next : World}

theorem FillOk.stable
    {fill : Fill} (ok : FillOk world fill) (stable : Stable thread world next) :
    FillOk next fill where
  nonneg := ok.nonneg
  word := ok.word
  earlier := ok.earlier.trans (stable.bumps _)
  outdated := by
    intro later
    rcases stable.retired fill.fd with same | moved
    · rw [same] at later
      exact lt_of_lt_of_le (ok.outdated later) (stable.bumps _)
    · exact lt_of_le_of_lt ok.earlier moved

/-- An even sequence belongs to a slot nobody is filling. -/
theorem Invariant.fills_ne_of_even
    (ok : Invariant world) (other : Nat) {slot : Slot}
    (even : world.history.ticks slot % 2 = 0) :
    (world.threads other).fills ≠ some slot := by
  intro fills
  have knows := ok.knows other
  cases phase : world.threads other with
  | write fill sequence stage =>
      rw [phase] at knows fills
      have same : chaosIoFdcacheSlot fill.fd = slot := Option.some.inj fills
      have odd := knows.2.odd
      rw [same] at odd
      omega
  | _ =>
      rw [phase] at fills
      cases fills

theorem Sampled.stable
    {call : LookupCall} {start : UInt32} {ticks : Nat}
    (sampled : Sampled world call start ticks)
    (stable : Stable thread world next) :
    Sampled next call start ticks where
  nonneg := sampled.nonneg
  word := sampled.word
  even := sampled.even
  earlier := sampled.earlier.trans (stable.ticks _)

/-- A sequence that still stands where it was sampled stood there all along. -/
theorem Sampled.entry_eq
    {call : LookupCall} {start : UInt32} {ticks : Nat}
    (sampled : Sampled world call start ticks) (ok : Invariant world)
    (stable : Stable thread world next)
    (still : next.history.ticks (chaosIoFdcacheSlot call.fd) = ticks) :
    world.history.ticks (chaosIoFdcacheSlot call.fd) = ticks ∧
      next.cache.entries (chaosIoFdcacheSlot call.fd) =
        world.cache.entries (chaosIoFdcacheSlot call.fd) := by
  have before : world.history.ticks (chaosIoFdcacheSlot call.fd) = ticks := by
    have later := stable.ticks (chaosIoFdcacheSlot call.fd)
    have earlier := sampled.earlier
    omega
  have even : world.history.ticks (chaosIoFdcacheSlot call.fd) % 2 = 0 := by
    rw [before]
    exact sampled.even
  have kept := stable.entries (chaosIoFdcacheSlot call.fd)
    (still.trans before.symm) (ok.fills_ne_of_even thread even)
  exact ⟨before, kept.1⟩

/-- What one thread knows survives the steps of the others. -/
theorem knows_stable
    (ok : Invariant world) (stable : Stable thread world next) {pc : Pc}
    (knows : Knows world pc)
    (apart : ∀ slot, pc.fills = some slot →
      (world.threads thread).fills ≠ some slot) :
    Knows next pc := by
  cases pc with
  | idle => trivial
  | close fd => trivial
  | reset index => trivial
  | lookupTable call => exact knows
  | lookupSequence call => exact knows
  | copy call start ticks program =>
      refine ⟨knows.1.stable stable, ?_⟩
      intro still
      rcases knows.1.entry_eq ok stable still with ⟨before, same⟩
      rw [same]
      exact knows.2 before
  | validate call start ticks generation path =>
      refine ⟨knows.1.stable stable, ?_⟩
      intro still
      rcases knows.1.entry_eq ok stable still with ⟨before, same⟩
      rw [same]
      exact knows.2 before
  | check call generation path fill =>
      rcases knows with ⟨nonneg, copied, same, fd, text, word, fillOk⟩
      exact ⟨nonneg, copied, same, fd, text, word, fillOk.stable stable⟩
  | answer fd path fill checked => exact knows
  | sample fd => exact knows
  | readlink fd generation bumps =>
      exact ⟨knows.1, knows.2.1, knows.2.2.trans (stable.bumps _)⟩
  | storeTable fill => exact FillOk.stable knows stable
  | storeMap fill => exact FillOk.stable knows stable
  | storePublish fill => exact FillOk.stable knows stable
  | storeSequence fill => exact FillOk.stable knows stable
  | claim fill sequence => exact ⟨knows.1.stable stable, knows.2⟩
  | write fill sequence stage =>
      refine ⟨knows.1.stable stable, ?_⟩
      rcases knows.2 with ⟨odd, claimed, holds, stored⟩
      have notMine := apart _ rfl
      have ticks := stable.odd _ odd notMine
      rcases stable.entries _ ticks notMine with ⟨entry, held⟩
      constructor
      · rw [ticks]
        exact odd
      · rw [entry]
        exact claimed
      · rw [held]
        exact holds
      · rw [entry]
        exact stored
  | invalidate fd number => exact le_trans knows (stable.closed fd)

/-- An entry nobody fills survives a step that leaves its sequence even. -/
theorem Invariant.entryOk_of_same
    (ok : Invariant world) (stable : Stable thread world next) {slot : Slot}
    (even : world.history.ticks slot % 2 = 0)
    (same : next.history.ticks slot = world.history.ticks slot) :
    EntryOk next slot := by
  have settled := ok.settled slot even
  rcases stable.entries slot same (ok.fills_ne_of_even thread even) with
    ⟨entry, holds⟩
  unfold EntryOk at settled ⊢
  rw [entry, holds]
  cases held : world.history.holds slot with
  | none =>
      rw [held] at settled
      exact settled
  | some fill =>
      rw [held] at settled
      exact ⟨settled.1, settled.2.stable stable⟩

/--
The invariant after a step: what the step does to the words, what the thread
knows after it, and the slot it may have claimed.
-/
theorem Invariant.after
    (ok : Invariant world) (stable : Stable thread world next)
    (sequence : ∀ slot, (next.cache.entries slot).sequence =
      UInt32.ofNat (next.history.ticks slot))
    (generation : ∀ slot, next.cache.generations slot =
      UInt32.ofNat (next.history.bumps slot))
    (settled : ∀ slot, next.history.ticks slot % 2 = 0 →
      next.history.ticks slot ≠ world.history.ticks slot → EntryOk next slot)
    (retired : ∀ fd, next.history.retired fd ≤ next.history.closed fd)
    {pc : Pc} (moved : next.threads thread = pc) (self : Knows next pc)
    (fills : ∀ slot, pc.fills = some slot →
      (world.threads thread).fills = some slot ∨
        world.history.ticks slot % 2 = 0)
    (never : NeverStale Serve.checked next) : Invariant next where
  sequence := sequence
  generation := generation
  settled := by
    intro slot even
    by_cases same : next.history.ticks slot = world.history.ticks slot
    · exact ok.entryOk_of_same stable (same ▸ even) same
    · exact settled slot even same
  retired := retired
  knows := by
    intro other
    by_cases mine : other = thread
    · rw [mine, moved]
      exact self
    · rw [stable.others other mine]
      apply knows_stable ok stable (ok.knows other)
      intro slot fills
      exact ok.exclusive other thread slot mine fills
  exclusive := by
    have claims : ∀ other slot, other ≠ thread →
        (next.threads thread).fills = some slot →
          (world.threads other).fills ≠ some slot := by
      intro other slot different mine
      rw [moved] at mine
      rcases fills slot mine with before | even
      · exact ok.exclusive thread other slot different.symm before
      · exact ok.fills_ne_of_even other even
    intro left right slot different leftFills
    by_cases leftMine : left = thread
    · subst leftMine
      rw [stable.others right different.symm]
      exact claims right slot different.symm leftFills
    · rw [stable.others left leftMine] at leftFills
      by_cases rightMine : right = thread
      · subst rightMine
        intro rightFills
        exact claims left slot leftMine rightFills leftFills
      · rw [stable.others right rightMine]
        exact ok.exclusive left right slot different leftFills
  never := never

/-- A step that leaves the words of the cache and what is known of them alone. -/
theorem Stable.of_words
    (others : ∀ other, other ≠ thread →
      next.threads other = world.threads other)
    (entries : next.cache.entries = world.cache.entries)
    (ticks : next.history.ticks = world.history.ticks)
    (bumps : next.history.bumps = world.history.bumps)
    (holds : next.history.holds = world.history.holds)
    (closed : ∀ fd, world.history.closed fd ≤ next.history.closed fd)
    (retired : next.history.retired = world.history.retired) :
    Stable thread world next where
  others := others
  ticks := fun slot => (congrFun ticks slot).ge
  odd := fun slot _ _ => congrFun ticks slot
  entries := fun slot _ _ => ⟨congrFun entries slot, congrFun holds slot⟩
  bumps := fun slot => (congrFun bumps slot).ge
  closed := closed
  retired := fun fd => .inl (congrFun retired fd)

theorem Stable.goto (world : World) (thread : Nat) (pc : Pc) :
    Stable thread world (world.goto thread pc) :=
  Stable.of_words (fun _ different => world.goto_of_ne pc different)
    rfl rfl rfl rfl (fun _ => Nat.le_refl _) rfl

/-- Moving a thread to where it knows what it has to know keeps the invariant. -/
theorem Invariant.goto
    (ok : Invariant world) (thread : Nat) {pc : Pc}
    (knows : Knows world pc) (fills : pc.fills = none) :
    Invariant (world.goto thread pc) := by
  have stable := Stable.goto world thread pc
  apply ok.after stable ok.sequence ok.generation _ ok.retired
    (world.goto_self thread pc) _ _ ok.never
  · intro slot _ different
    exact absurd rfl different
  · apply knows_stable ok stable knows
    intro slot filling
    rw [fills] at filling
    cases filling
  · intro slot filling
    rw [fills] at filling
    cases filling

theorem Invariant.miss
    (ok : Invariant world) (thread : Nat) {call : LookupCall}
    (nonneg : 0 ≤ call.fd) : Invariant (world.miss thread call) := by
  unfold World.miss
  cases call.resolving with
  | true => exact ok.goto thread nonneg rfl
  | false => exact ok.goto thread trivial rfl

/-! ## Steps of a lookup -/

/-- A lookup whose second look meets the sequence it sampled has copied one fill. -/
theorem Invariant.copied_of_validates
    (ok : Invariant world) {call : LookupCall} {start : UInt32} {ticks : Nat}
    {generation : UInt32} {path : Bytes}
    (knows : Knows world (.validate call start ticks generation path))
    (few : FewUpdatesAt world (.validate call start ticks generation path))
    (same : (world.cache.entries (chaosIoFdcacheSlot call.fd)).sequence =
      start) :
    ∃ copied,
      world.history.holds (chaosIoFdcacheSlot call.fd) = some copied ∧
        copied.fd = call.fd ∧ copied.name.text = path ∧
          copied.generation = generation ∧ FillOk world copied := by
  rcases knows with ⟨sampled, reads⟩
  have words : UInt32.ofNat ticks =
      UInt32.ofNat (world.history.ticks (chaosIoFdcacheSlot call.fd)) := by
    rw [← ok.sequence, same, sampled.word]
  have near : world.history.ticks (chaosIoFdcacheSlot call.fd) - ticks <
      2 ^ 32 := by
    change (world.history.ticks (chaosIoFdcacheSlot call.fd) - ticks + 1) / 2 <
      2 ^ 31 at few
    omega
  have still := eq_of_ofNat_eq sampled.earlier near words
  rcases eval_copyEntry_eq_some (reads still.symm) with ⟨held, tagged, text⟩
  have settled := ok.settled (chaosIoFdcacheSlot call.fd) (still ▸ sampled.even)
  unfold EntryOk at settled
  cases holds : world.history.holds (chaosIoFdcacheSlot call.fd) with
  | none =>
      -- An entry nobody ever filled holds no descriptor.
      rw [holds] at settled
      have zero : call.fd + 1 = 0 := held.symm.trans settled
      have nonneg := sampled.nonneg
      omega
  | some fill =>
      rw [holds] at settled
      rcases settled with ⟨stored, fillOk⟩
      have sameFd : fill.fd = call.fd := by
        have both := stored.fdPlusOne.symm.trans held
        omega
      have whole :=
        FdCacheEntry.text_of_holds stored.path fill.name.noNul fill.name.short
      exact ⟨fill, rfl, sameFd, whole.symm.trans text,
        stored.generation.symm.trans tagged, fillOk⟩

/-- A copy whose generation is current is of a fill that no later close outdates. -/
theorem Invariant.fresh_of_checks
    (ok : Invariant world) {fd : Int} {fill : Fill}
    (fillOk : FillOk world fill) (sameFd : fill.fd = fd)
    (few : world.history.bumps (chaosIoFdcacheSlot fd) - fill.bumps < 2 ^ 32)
    (current : fill.generation =
      world.cache.generations (chaosIoFdcacheSlot fd)) :
    world.history.retired fd ≤ fill.epoch := by
  subst sameFd
  have words : UInt32.ofNat fill.bumps =
      UInt32.ofNat (world.history.bumps (chaosIoFdcacheSlot fill.fd)) := by
    rw [← fillOk.word, current, ok.generation]
  have still := eq_of_ofNat_eq fillOk.earlier few words
  by_contra later
  have moved := fillOk.outdated (not_le.mp later)
  exact absurd still moved.ne

theorem Invariant.lookupStep
    (ok : Invariant world) (few : FewUpdatesAt world (world.threads thread))
    (stepped :
      lookupStep world thread (world.threads thread) = some next) :
    Invariant next := by
  have knows := ok.knows thread
  cases phase : world.threads thread with
  | lookupTable call =>
      rw [phase] at stepped knows
      simp only [FdCacheThreads.lookupStep] at stepped
      split at stepped
      · cases stepped
        exact ok.goto thread knows rfl
      · cases stepped
        exact ok.miss thread knows
  | lookupSequence call =>
      rw [phase] at stepped knows
      simp only [FdCacheThreads.lookupStep] at stepped
      split at stepped
      · cases stepped
        exact ok.miss thread knows
      · rename_i even
        cases stepped
        have word := ok.sequence (chaosIoFdcacheSlot call.fd)
        rw [word] at even
        have sampled : Sampled world call
            (world.cache.entries (chaosIoFdcacheSlot call.fd)).sequence
            (world.history.ticks (chaosIoFdcacheSlot call.fd)) :=
          ⟨knows, word, (ofNat_and_one_eq_zero _).mp (not_not.mp even),
            Nat.le_refl _⟩
        apply ok.goto thread _ rfl
        exact ⟨sampled, fun _ => rfl⟩
  | copy call start ticks program =>
      rw [phase] at stepped knows
      cases program with
      | read cell rest =>
          cases stepped
          apply ok.goto thread _ rfl
          exact ⟨knows.1, fun still => knows.2 still⟩
      | done copied =>
          cases copied with
          | none =>
              cases stepped
              exact ok.miss thread knows.1.nonneg
          | some copy =>
              cases stepped
              apply ok.goto thread _ rfl
              exact ⟨knows.1, fun still => (knows.2 still).symm⟩
  | validate call start ticks generation path =>
      rw [phase] at stepped knows few
      simp only [FdCacheThreads.lookupStep] at stepped
      split at stepped
      · cases stepped
        exact ok.miss thread knows.1.nonneg
      · rename_i same
        cases stepped
        have copied := ok.copied_of_validates knows few (not_not.mp same)
        apply ok.goto thread _ rfl
        exact ⟨knows.1.nonneg, copied⟩
  | check call generation path fill =>
      rw [phase] at stepped knows few
      rcases knows with ⟨nonneg, copied, rfl, sameFd, text, tagged, fillOk⟩
      simp only [FdCacheThreads.lookupStep] at stepped
      split at stepped
      · cases stepped
        exact ok.miss thread nonneg
      · rename_i current
        cases stepped
        have fresh := ok.fresh_of_checks fillOk sameFd few
          (tagged.trans (not_not.mp current))
        apply ok.goto thread _ rfl
        exact ⟨copied, rfl, sameFd, text, fresh⟩
  | answer fd path fill checked =>
      rw [phase] at stepped knows
      cases stepped
      have stable : Stable thread world
          { world.goto thread .idle with
            history.served :=
              ⟨fd, path, fill, checked, world.history.retired fd⟩ ::
                world.history.served } :=
        Stable.of_words
          (fun _ different => world.goto_of_ne .idle different)
          rfl rfl rfl rfl (fun _ => Nat.le_refl _) rfl
      apply ok.after stable ok.sequence ok.generation _ ok.retired
        (world.goto_self thread .idle) trivial
      · intro slot filling
        cases filling
      · intro serve member
        rcases List.mem_cons.mp member with rfl | earlier
        · exact knows
        · exact ok.never serve earlier
      · intro slot _ different
        exact absurd rfl different
  | _ =>
      rw [phase] at stepped
      cases stepped

/-! ## Steps of a fill -/

/-- A step that moves the sequence of a slot whose filler it is, or nobody's slot. -/
theorem Stable.of_tick
    {slot : Slot} {entry : FdCacheEntry}
    (others : ∀ other, other ≠ thread →
      next.threads other = world.threads other)
    (entries : next.cache.entries =
      Function.update world.cache.entries slot entry)
    (ticks : next.history.ticks =
      Function.update world.history.ticks slot (world.history.ticks slot + 1))
    (bumps : next.history.bumps = world.history.bumps)
    (holds : ∀ other, other ≠ slot →
      next.history.holds other = world.history.holds other)
    (closed : next.history.closed = world.history.closed)
    (retired : next.history.retired = world.history.retired)
    (mine : world.history.ticks slot % 2 = 1 →
      (world.threads thread).fills = some slot) :
    Stable thread world next where
  others := others
  ticks := by
    intro other
    rw [ticks]
    by_cases same : other = slot
    · rw [same, Function.update_self]
      exact Nat.le_succ _
    · rw [Function.update_of_ne same]
  odd := by
    intro other odd notMine
    have different : other ≠ slot := by
      intro same
      exact notMine (same ▸ mine (same ▸ odd))
    rw [ticks, Function.update_of_ne different]
  entries := by
    intro other same _
    have different : other ≠ slot := by
      intro equal
      rw [ticks, equal, Function.update_self] at same
      exact absurd same (Nat.succ_ne_self _)
    constructor
    · rw [entries, Function.update_of_ne different]
    · exact holds other different
  bumps := fun other => (congrFun bumps other).ge
  closed := fun fd => (congrFun closed fd).ge
  retired := fun fd => .inl (congrFun retired fd)

/-- The words of the sequences keep counting their moves. -/
theorem Invariant.sequence_tick
    (ok : Invariant world) {slot : Slot} {entry : FdCacheEntry}
    (word : entry.sequence = UInt32.ofNat (world.history.ticks slot + 1))
    (other : Slot) :
    (Function.update world.cache.entries slot entry other).sequence =
      UInt32.ofNat
        (Function.update world.history.ticks slot
          (world.history.ticks slot + 1) other) := by
  by_cases same : other = slot
  · rw [same, Function.update_self, Function.update_self]
    exact word
  · rw [Function.update_of_ne same, Function.update_of_ne same]
    exact ok.sequence other

/-- The step that claims an entry. -/
theorem Invariant.claim
    (ok : Invariant world) {fill : Fill} {sequence : UInt32}
    (fillOk : FillOk world fill) (unclaimed : sequence &&& 1 = 0)
    (won : (world.cache.entries (chaosIoFdcacheSlot fill.fd)).sequence =
      sequence) :
    Invariant (world.claim thread fill sequence) := by
  have word : UInt32.ofNat
      (world.history.ticks (chaosIoFdcacheSlot fill.fd)) = sequence :=
    (ok.sequence _).symm.trans won
  have even : world.history.ticks (chaosIoFdcacheSlot fill.fd) % 2 = 0 := by
    rw [← ofNat_and_one_eq_zero, word]
    exact unclaimed
  have entries : (world.claim thread fill sequence).cache.entries =
      Function.update world.cache.entries (chaosIoFdcacheSlot fill.fd)
        (world.claimedEntry fill sequence) :=
    rfl
  have ticks : (world.claim thread fill sequence).history.ticks =
      Function.update world.history.ticks (chaosIoFdcacheSlot fill.fd)
        (world.history.ticks (chaosIoFdcacheSlot fill.fd) + 1) :=
    rfl
  have holds : (world.claim thread fill sequence).history.holds =
      Function.update world.history.holds (chaosIoFdcacheSlot fill.fd)
        (some fill) :=
    rfl
  have stable : Stable thread world (world.claim thread fill sequence) := by
    refine Stable.of_tick
      (fun other different => World.goto_of_ne _ _ different) entries ticks rfl
      ?_ rfl rfl ?_
    · intro other different
      rw [holds, Function.update_of_ne different]
    · intro odd
      rw [even] at odd
      cases odd
  apply ok.after stable _ ok.generation _ ok.retired
    (World.goto_self _ thread _)
  · refine ⟨fillOk.stable stable, ?_, ?_, ?_, trivial⟩
    · rw [ticks, Function.update_self]
      omega
    · rw [entries, Function.update_self]
      rfl
    · rw [holds, Function.update_self]
  · intro slot filling
    cases filling
    exact .inr even
  · exact ok.never
  · apply ok.sequence_tick
    rw [← ofNat_add_one, word]
    rfl
  · intro slot evenAfter different
    by_cases same : slot = chaosIoFdcacheSlot fill.fd
    · rw [ticks, same, Function.update_self] at evenAfter
      omega
    · rw [ticks, Function.update_of_ne same] at different
      exact absurd rfl different

theorem Invariant.fillStep
    (ok : Invariant world) {answer : Answer}
    (stepped :
      fillStep world thread answer (world.threads thread) = some next) :
    Invariant next := by
  have knows := ok.knows thread
  cases phase : world.threads thread with
  | sample fd =>
      rw [phase] at stepped knows
      cases stepped
      apply ok.goto thread _ rfl
      exact ⟨knows, ok.generation _, Nat.le_refl _⟩
  | readlink fd generation bumps =>
      rw [phase] at stepped knows
      rcases knows with ⟨nonneg, word, earlier⟩
      simp only [FdCacheThreads.fillStep] at stepped
      split at stepped
      · cases stepped
        exact ok.goto thread trivial rfl
      · rename_i name _
        split at stepped
        · cases stepped
          exact ok.goto thread trivial rfl
        · cases stepped
          have fillOk : FillOk world
              ⟨fd, name, generation, bumps, world.history.closed fd⟩ := by
            refine ⟨nonneg, word, earlier, ?_⟩
            intro outdated
            exact absurd (ok.retired fd) (not_le.mpr outdated)
          exact ok.goto thread fillOk rfl
  | storeTable fill =>
      rw [phase] at stepped knows
      simp only [FdCacheThreads.fillStep] at stepped
      split at stepped
      · cases stepped
        exact ok.goto thread knows rfl
      · cases stepped
        exact ok.goto thread knows rfl
  | storeMap fill =>
      rw [phase] at stepped knows
      simp only [FdCacheThreads.fillStep] at stepped
      split at stepped
      · cases stepped
        exact ok.goto thread knows rfl
      · cases stepped
        exact ok.goto thread trivial rfl
  | storePublish fill =>
      rw [phase] at stepped knows
      cases stepped
      have stable : Stable thread world
          { world.goto thread (.storeSequence fill) with
            cache.mapped := true } :=
        Stable.of_words (fun _ different => world.goto_of_ne _ different)
          rfl rfl rfl rfl (fun _ => Nat.le_refl _) rfl
      apply ok.after stable ok.sequence ok.generation _ ok.retired
        (world.goto_self thread _) (FillOk.stable knows stable)
      · intro slot filling
        cases filling
      · exact ok.never
      · intro slot _ different
        exact absurd rfl different
  | storeSequence fill =>
      rw [phase] at stepped knows
      simp only [FdCacheThreads.fillStep] at stepped
      split at stepped
      · cases stepped
        exact ok.goto thread trivial rfl
      · rename_i even
        cases stepped
        apply ok.goto thread _ rfl
        exact ⟨knows, not_not.mp even⟩
  | claim fill sequence =>
      rw [phase] at stepped knows
      simp only [FdCacheThreads.fillStep] at stepped
      split at stepped
      · rename_i won
        cases stepped
        exact ok.claim knows.1 knows.2 won
      · cases stepped
        exact ok.goto thread trivial rfl
  | _ =>
      rw [phase] at stepped
      cases stepped

/-- A store into an entry the thread has claimed. -/
theorem Invariant.write
    (ok : Invariant world) {fill : Fill} {sequence : UInt32}
    {stage after : FillStage} {entry : FdCacheEntry}
    (phase : world.threads thread = .write fill sequence stage)
    (kept : entry.sequence =
      (world.cache.entries (chaosIoFdcacheSlot fill.fd)).sequence)
    (stored : Stored entry fill after) :
    Invariant
      ((world.store (chaosIoFdcacheSlot fill.fd) entry).goto thread
        (.write fill sequence after)) := by
  have knows := ok.knows thread
  rw [phase] at knows
  rcases knows with ⟨fillOk, odd, claimed, holds, _⟩
  have mine : (world.threads thread).fills =
      some (chaosIoFdcacheSlot fill.fd) := by
    rw [phase]
    rfl
  have entries : ((world.store (chaosIoFdcacheSlot fill.fd) entry).goto thread
      (.write fill sequence after)).cache.entries =
        Function.update world.cache.entries (chaosIoFdcacheSlot fill.fd)
          entry :=
    rfl
  have stable : Stable thread world
      ((world.store (chaosIoFdcacheSlot fill.fd) entry).goto thread
        (.write fill sequence after)) := by
    constructor
    · intro other different
      exact World.goto_of_ne _ _ different
    · exact fun _ => Nat.le_refl _
    · exact fun _ _ _ => rfl
    · intro slot _ notMine
      have different : slot ≠ chaosIoFdcacheSlot fill.fd := by
        rintro rfl
        exact notMine mine
      rw [entries, Function.update_of_ne different]
      exact ⟨rfl, rfl⟩
    · exact fun _ => Nat.le_refl _
    · exact fun _ => Nat.le_refl _
    · exact fun _ => .inl rfl
  apply ok.after stable _ ok.generation _ ok.retired (World.goto_self _ thread _)
  · refine ⟨fillOk.stable stable, odd, ?_, holds, ?_⟩
    · rw [entries, Function.update_self]
      exact kept.trans claimed
    · rw [entries, Function.update_self]
      exact stored
  · intro slot filling
    exact .inl (mine.trans filling)
  · exact ok.never
  · intro slot
    rw [entries]
    by_cases same : slot = chaosIoFdcacheSlot fill.fd
    · rw [same, Function.update_self, kept]
      exact ok.sequence _
    · rw [Function.update_of_ne same]
      exact ok.sequence slot
  · intro slot _ different
    exact absurd rfl different

/-- The step that publishes an entry. -/
theorem Invariant.release
    (ok : Invariant world) {fill : Fill} {sequence : UInt32}
    (phase : world.threads thread = .write fill sequence .release) :
    Invariant (writeStep world thread fill sequence .release) := by
  have knows := ok.knows thread
  rw [phase] at knows
  rcases knows with ⟨fillOk, odd, claimed, holds, settled⟩
  have mine : (world.threads thread).fills =
      some (chaosIoFdcacheSlot fill.fd) := by
    rw [phase]
    rfl
  have entries : (writeStep world thread fill sequence .release).cache.entries =
      Function.update world.cache.entries (chaosIoFdcacheSlot fill.fd)
        { world.cache.entries (chaosIoFdcacheSlot fill.fd) with
          sequence := sequence + 2 } :=
    rfl
  have ticks : (writeStep world thread fill sequence .release).history.ticks =
      Function.update world.history.ticks (chaosIoFdcacheSlot fill.fd)
        (world.history.ticks (chaosIoFdcacheSlot fill.fd) + 1) :=
    rfl
  have stable : Stable thread world
      (writeStep world thread fill sequence .release) :=
    Stable.of_tick (fun other different => World.goto_of_ne _ _ different)
      entries ticks rfl (fun _ _ => rfl) rfl rfl (fun _ => mine)
  apply ok.after stable _ ok.generation _ ok.retired
    (World.goto_self _ thread _) trivial
  · intro slot filling
    cases filling
  · exact ok.never
  · apply ok.sequence_tick
    have word := (ok.sequence (chaosIoFdcacheSlot fill.fd)).symm.trans claimed
    change sequence + 2 = _
    rw [← ofNat_add_one, word, UInt32.add_assoc]
    rfl
  · intro slot _ different
    by_cases same : slot = chaosIoFdcacheSlot fill.fd
    · have held : (writeStep world thread fill sequence .release).history.holds
          (chaosIoFdcacheSlot fill.fd) = some fill :=
        holds
      rw [EntryOk, same, held, entries, Function.update_self]
      exact ⟨⟨settled.fdPlusOne, settled.generation, settled.path⟩,
        fillOk.stable stable⟩
    · rw [ticks, Function.update_of_ne same] at different
      exact absurd rfl different

theorem Invariant.writeStep
    (ok : Invariant world) {fill : Fill} {sequence : UInt32}
    {stage : FillStage}
    (phase : world.threads thread = .write fill sequence stage) :
    Invariant (writeStep world thread fill sequence stage) := by
  have knows := ok.knows thread
  rw [phase] at knows
  have stored := knows.2.stored
  cases stage with
  | fdPlusOne => exact ok.write phase rfl rfl
  | generation =>
      refine ok.write phase ?_ ⟨stored, rfl, Nat.zero_le _, ?_⟩
      · rfl
      · intro before _ below
        cases below
  | path index =>
      rcases stored with ⟨fdPlusOne, generation, within, copied⟩
      simp only [FdCacheThreads.writeStep]
      split
      · rename_i inside
        refine ok.write phase ?_ ⟨fdPlusOne, generation, inside, ?_⟩
        · rfl
        intro before beforeEnd below
        rcases Nat.lt_succ_iff_lt_or_eq.mp below with earlier | rfl
        · exact (Function.update_of_ne earlier.ne _ _).trans
            (copied before beforeEnd earlier)
        · exact Function.update_self _ _ _
      · rename_i outside
        have atEnd : index = fill.name.text.length :=
          Nat.le_antisymm within (not_lt.mp outside)
        refine ok.write phase ?_ ⟨fdPlusOne, generation, ?_, ?_⟩
        · rfl
        · intro before beforeEnd
          have different : before ≠ index := by omega
          exact (Function.update_of_ne different _ _).trans
            (copied before beforeEnd (atEnd ▸ beforeEnd))
        · rw [← atEnd]
          exact Function.update_self _ _ _
  | release => exact ok.release phase

/-! ## Closes, invalidations and resets -/

/-- A step that moves the generation of a slot. -/
theorem Invariant.of_bump
    (ok : Invariant world) {slot : Slot} {pc : Pc}
    (threads : next.threads = Function.update world.threads thread pc)
    (entries : next.cache.entries = world.cache.entries)
    (generations : next.cache.generations = Function.update
      world.cache.generations slot (world.cache.generations slot + 1))
    (ticks : next.history.ticks = world.history.ticks)
    (bumps : next.history.bumps =
      Function.update world.history.bumps slot (world.history.bumps slot + 1))
    (holds : next.history.holds = world.history.holds)
    (closed : next.history.closed = world.history.closed)
    (served : next.history.served = world.history.served)
    (retired : ∀ fd, next.history.retired fd = world.history.retired fd ∨
      chaosIoFdcacheSlot fd = slot ∧
        next.history.retired fd ≤ world.history.closed fd)
    (knows : ∀ later, Knows later pc) (fills : pc.fills = none) :
    Invariant next := by
  have moved : next.threads thread = pc := by
    rw [threads, Function.update_self]
  have stable : Stable thread world next := by
    constructor
    · intro other different
      rw [threads, Function.update_of_ne different]
    · exact fun other => (congrFun ticks other).ge
    · exact fun other _ _ => congrFun ticks other
    · exact fun other _ _ => ⟨congrFun entries other, congrFun holds other⟩
    · intro other
      rw [bumps]
      by_cases same : other = slot
      · rw [same, Function.update_self]
        exact Nat.le_succ _
      · rw [Function.update_of_ne same]
    · exact fun fd => (congrFun closed fd).ge
    · intro fd
      rcases retired fd with same | ⟨rfl, _⟩
      · exact .inl same
      · right
        rw [bumps, Function.update_self]
        exact Nat.lt_succ_self _
  apply ok.after stable _ _ _ _ moved (knows next)
  · intro other filling
    rw [fills] at filling
    cases filling
  · intro serve member
    rw [served] at member
    exact ok.never serve member
  · intro other
    rw [entries, ticks]
    exact ok.sequence other
  · intro other
    rw [generations, bumps]
    by_cases same : other = slot
    · rw [same, Function.update_self, Function.update_self, ok.generation,
        ofNat_add_one]
    · rw [Function.update_of_ne same, Function.update_of_ne same]
      exact ok.generation other
  · intro other _ different
    exact absurd (congrFun ticks other) different
  · intro fd
    rw [closed]
    rcases retired fd with same | ⟨_, within⟩
    · rw [same]
      exact ok.retired fd
    · exact within

/-- The kernel closes a descriptor. -/
theorem Invariant.close (ok : Invariant world) (thread : Nat) (fd : Int) :
    Invariant
      { world.goto thread (.invalidate fd (world.history.closed fd + 1)) with
        history.closed :=
          Function.update world.history.closed fd
            (world.history.closed fd + 1) } := by
  have grows : ∀ other, world.history.closed other ≤
      Function.update world.history.closed fd (world.history.closed fd + 1)
        other := by
    intro other
    by_cases same : other = fd
    · rw [same, Function.update_self]
      exact Nat.le_succ _
    · rw [Function.update_of_ne same]
  have stable : Stable thread world
      { world.goto thread (.invalidate fd (world.history.closed fd + 1)) with
        history.closed :=
          Function.update world.history.closed fd
            (world.history.closed fd + 1) } :=
    Stable.of_words (fun _ different => world.goto_of_ne _ different) rfl rfl rfl
      rfl grows rfl
  apply ok.after stable ok.sequence ok.generation _ _ (world.goto_self thread _)
  · exact (Function.update_self fd _ world.history.closed).ge
  · intro slot filling
    cases filling
  · exact ok.never
  · intro slot _ different
    exact absurd rfl different
  · exact fun other => (ok.retired other).trans (grows other)

theorem Invariant.outdateStep
    (ok : Invariant world)
    (stepped :
      outdateStep world thread (world.threads thread) = some next) :
    Invariant next := by
  have knows := ok.knows thread
  cases phase : world.threads thread with
  | close fd =>
      rw [phase] at stepped
      cases stepped
      exact ok.close thread fd
  | invalidate fd number =>
      rw [phase] at stepped knows
      simp only [FdCacheThreads.outdateStep] at stepped
      split at stepped
      · cases stepped
        exact ok.goto thread trivial rfl
      · cases stepped
        refine ok.of_bump rfl rfl rfl rfl rfl rfl rfl rfl ?_ (fun _ => trivial)
          rfl
        intro other
        change Function.update _ fd _ other = _ ∨ _
        by_cases same : other = fd
        · subst same
          right
          refine ⟨rfl, ?_⟩
          exact (Function.update_self other _ world.history.retired).trans_le
            (max_le (ok.retired other) knows)
        · left
          rw [Function.update_of_ne same]
  | reset index =>
      rw [phase] at stepped
      simp only [FdCacheThreads.outdateStep] at stepped
      split at stepped
      · cases stepped
        exact ok.of_bump rfl rfl rfl rfl rfl rfl rfl rfl (fun _ => .inl rfl)
          (fun _ => trivial) rfl
      · cases stepped
        exact ok.goto thread trivial rfl
  | _ =>
      rw [phase] at stepped
      cases stepped

/-! ## Every step -/

theorem Invariant.threadStep
    (ok : Invariant world) {answer : Answer}
    (few : FewUpdatesAt world (world.threads thread))
    (stepped : threadStep world thread answer = some next) :
    Invariant next := by
  unfold FdCacheThreads.threadStep at stepped
  split at stepped
  · cases stepped
  · rename_i fill sequence stage phase
    cases stepped
    exact ok.writeStep phase
  · rcases Option.or_eq_some_iff.mp stepped with looked | ⟨_, stepped⟩
    · exact ok.lookupStep few looked
    · rcases Option.or_eq_some_iff.mp stepped with filled | ⟨_, outdated⟩
      · exact ok.fillStep filled
      · exact ok.outdateStep outdated

/-- A call begins where its thread knows all it has to know. -/
theorem knows_of_entry
    (world : World) {action : Action} {pc : Pc}
    (entered : action.entry = some pc) : Knows world pc ∧ pc.fills = none := by
  cases action with
  | lookup actor fd pathSize =>
      cases entered
      split
      · exact ⟨trivial, rfl⟩
      · rename_i guarded
        rw [Bool.or_eq_true, decide_eq_true_eq, not_or] at guarded
        exact ⟨not_lt.mp guarded.1, rfl⟩
  | resolve actor fd =>
      cases entered
      split
      · exact ⟨trivial, rfl⟩
      · rename_i guarded
        have nonneg : 0 ≤ fd := by omega
        exact ⟨nonneg, rfl⟩
  | close actor fd =>
      cases entered
      exact ⟨trivial, rfl⟩
  | invalidate actor fd =>
      cases entered
      exact ⟨Nat.zero_le _, rfl⟩
  | reset actor =>
      cases entered
      exact ⟨trivial, rfl⟩
  | thread actor answer => cases entered

theorem invariant_step
    {action : Action} (ok : Invariant world) (few : FewUpdates world action)
    (stepped : step world action = some next) : Invariant next := by
  unfold step at stepped
  split at stepped
  · exact ok.threadStep few stepped
  · split at stepped
    · rename_i entered
      cases stepped
      rcases knows_of_entry world entered with ⟨knows, fills⟩
      exact ok.goto _ knows fills
    · cases stepped

end Stability

/--
In every run in which no word wraps unnoticed, whatever the threads do and
whatever the kernel answers, every path a lookup returned is whole and no older
than the last close whose invalidation had returned when the lookup checked the
generation.
-/
theorem never_stale_throughout
    {actions : List Action} (few : Meets step FewUpdates initial actions) :
    Throughout step (NeverStale Serve.checked) initial actions := by
  have every : ∀ action ∈ actions, (fun _ => True) action :=
    fun _ _ => trivial
  have invariant :=
    throughout_of_meets
      (fun _ _ _ _ ok few stepped => invariant_step ok few stepped)
      every invariant_initial few
  intro before after middle split ran
  exact (invariant before after middle split ran).never

/-! ## A fill, a close and a lookup -/

/-- `/d`. -/
def dataPath : KernelName :=
  ⟨[47, 100], by decide, by decide⟩

/-- The kernel names `/d`, and a mapping succeeds. -/
def dataAnswer : Answer :=
  ⟨some dataPath, true⟩

/-- A thread takes a number of steps. -/
def steps (thread count : Nat) : List Action :=
  List.replicate count (.thread thread dataAnswer)

/-- A thread resolves descriptor 3 to `/d` and caches it. -/
def fillThree : List Action :=
  .resolve 0 3 :: steps 0 14

/-- A thread closes descriptor 3 and invalidates it. -/
def closeThree : List Action :=
  .close 0 3 :: steps 0 2

/-- A close between the generation check of a lookup and its return. -/
def lateReturn : List Action :=
  fillThree ++ .lookup 1 3 chaosIoMaxPath :: steps 1 12 ++ closeThree ++
    steps 1 1

/-- Descriptor 3 is filled and closed, resolved again, and looked up. -/
def reopened : List Action :=
  fillThree ++ closeThree ++ .resolve 0 3 :: steps 0 23 ++
    .lookup 1 3 chaosIoMaxPath :: steps 1 13

theorem never_stale_throughout_reopened :
    Throughout step (NeverStale Serve.checked) initial reopened :=
  never_stale_throughout (by decide +kernel)

/-! ## A generation that comes back -/

/-- A thread invalidates descriptor 3 a number of times. -/
def invalidateThree : Nat → List Action
  | 0 => []
  | count + 1 =>
      .invalidate 0 3 :: .thread 0 dataAnswer :: invalidateThree count

/-- The world after a number of invalidations of a slot. -/
def World.outdated (world : World) (slot : Slot) (count : Nat) : World :=
  { world with
    cache.generations :=
      Function.update world.cache.generations slot
        (world.cache.generations slot + UInt32.ofNat count)
    history.bumps :=
      Function.update world.history.bumps slot
        (world.history.bumps slot + count) }

theorem World.outdated_zero (world : World) (slot : Slot) :
    world.outdated slot 0 = world := by
  rcases world with ⟨⟨mapped, entries, generations⟩, threads, history⟩
  rcases history with ⟨ticks, bumps, holds, closed, retired, served⟩
  have word : generations slot + UInt32.ofNat 0 = generations slot :=
    UInt32.add_zero _
  simp only [World.outdated, word, Nat.add_zero, Function.update_eq_self]

theorem World.outdated_outdated
    (world : World) (slot : Slot) (first second : Nat) :
    (world.outdated slot first).outdated slot second =
      world.outdated slot (first + second) := by
  simp only [World.outdated, Function.update_self, Function.update_idem,
    UInt32.add_assoc, UInt32.ofNat_add, Nat.add_assoc]

/-- One invalidation of descriptor 3 by a thread that is not inside a call. -/
theorem run_invalidate_three
    {world : World} (idle : world.threads 0 = .idle) :
    run step world [.invalidate 0 3, .thread 0 dataAnswer] =
      some (world.outdated (chaosIoFdcacheSlot 3) 1) := by
  rcases world with ⟨cache, threads, history⟩
  have entered : step ⟨cache, threads, history⟩ (.invalidate 0 3) =
      some ((⟨cache, threads, history⟩ : World).goto 0 (.invalidate 3 0)) := by
    change (match threads 0, some (Pc.invalidate 3 0) with
      | .idle, some pc => some ((⟨cache, threads, history⟩ : World).goto 0 pc)
      | _, _ => none) = _
    rw [show threads 0 = .idle from idle]
  rw [run_cons_eq_some]
  refine ⟨_, entered, ?_⟩
  rw [run_cons_eq_some]
  refine ⟨_, ?_, rfl⟩
  have back : Function.update (Function.update threads 0 (.invalidate 3 0)) 0
      .idle = threads := by
    rw [Function.update_idem, ← show threads 0 = .idle from idle,
      Function.update_eq_self]
  have same : Function.update history.retired 3 (max (history.retired 3) 0) =
      history.retired := by
    rw [Nat.max_zero, Function.update_eq_self]
  simp only [step, threadStep, World.goto, Function.update_self, lookupStep,
    fillStep, outdateStep, Option.or, World.bump, World.outdated, back, same]
  rfl

theorem run_invalidateThree
    {world : World} (idle : world.threads 0 = .idle) (count : Nat) :
    run step world (invalidateThree count) =
      some (world.outdated (chaosIoFdcacheSlot 3) count) := by
  induction count generalizing world with
  | zero => rw [World.outdated_zero]; rfl
  | succ count induction =>
      have first := run_invalidate_three idle
      have rest : run step (world.outdated (chaosIoFdcacheSlot 3) 1)
          (invalidateThree count) = _ :=
        induction idle
      rw [World.outdated_outdated, Nat.add_comm] at rest
      exact run_append_eq_some.mpr ⟨_, first, rest⟩

theorem owner_of_mem_invalidateThree
    {count : Nat} {action : Action} (member : action ∈ invalidateThree count) :
    action.owner = 0 := by
  induction count with
  | zero => cases member
  | succ count induction =>
      rcases List.mem_cons.mp member with rfl | member
      · rfl
      · rcases List.mem_cons.mp member with rfl | member
        · rfl
        · exact induction member

/-- The world once descriptor 3 has been filled, closed and invalidated. -/
def closedWorld : World :=
  (run step initial (fillThree ++ closeThree)).getD initial

/-- A lookup of descriptor 3 by the same thread. -/
def lookupThree : List Action :=
  .lookup 0 3 chaosIoMaxPath :: steps 0 13

/-- As many more invalidations as bring the generation back, and a lookup. -/
def wrappedGeneration : List Action :=
  (fillThree ++ closeThree) ++ invalidateThree 4294967295 ++ lookupThree

theorem run_closedWorld :
    run step initial (fillThree ++ closeThree) = some closedWorld := by
  have ended : (run step initial (fillThree ++ closeThree)).isSome = true := by
    decide +kernel
  rcases Option.isSome_iff_exists.mp ended with ⟨world, ran⟩
  rw [closedWorld, ran]
  rfl

/-- The program counter of a thread outside of the cache. -/
def Pc.isIdle : Pc → Bool
  | .idle => true
  | _ => false

theorem Pc.eq_idle_of_isIdle {pc : Pc} (idle : pc.isIdle = true) :
    pc = .idle := by
  cases pc with
  | idle => rfl
  | _ => cases idle

/-- After `2 ^ 32` invalidations a lookup serves the path of the closed file. -/
theorem wrappedGeneration_serves_stale :
    ¬ Throughout step (NeverStale Serve.checked) initial
      wrappedGeneration := by
  have idle : closedWorld.threads 0 = .idle :=
    Pc.eq_idle_of_isIdle (by decide +kernel)
  have wrapped := run_append_eq_some.mpr
    ⟨closedWorld, run_closedWorld, run_invalidateThree idle 4294967295⟩
  have stale :
      ((run step
          (closedWorld.outdated (chaosIoFdcacheSlot 3) 4294967295)
          lookupThree).any
        fun world => !decide (NeverStale Serve.checked world)) = true := by
    decide +kernel
  rcases (Option.any_eq_true_iff_get _ _).mp stale with ⟨ended, served⟩
  have ran := run_append_eq_some.mpr
    ⟨_, wrapped, (Option.some_get ended).symm⟩
  intro throughout
  have fresh := Throughout.final throughout ran
  rw [Bool.not_eq_true', decide_eq_false_iff_not] at served
  exact served fresh

/--
A lookup can return a path after the invalidation of a close that its
generation check preceded, and one that no invalidation and no fill overlaps
can return the path of a closed file when the generation has come back.
-/
theorem late_return_and_wrapped_generation_serve_stale :
    (Meets step FewUpdates initial lateReturn ∧
      ¬ Throughout step (NeverStale Serve.returned) initial lateReturn) ∧
    ((∀ action ∈ wrappedGeneration, action.owner = 0) ∧
      ¬ Throughout step (NeverStale Serve.checked) initial
        wrappedGeneration) := by
  refine ⟨⟨by decide +kernel, by decide +kernel⟩, ?_,
    wrappedGeneration_serves_stale⟩
  have before : ∀ action ∈ fillThree ++ closeThree, action.owner = 0 := by
    decide
  have after : ∀ action ∈ lookupThree, action.owner = 0 := by
    decide
  intro action member
  rcases List.mem_append.mp member with member | late
  · rcases List.mem_append.mp member with early | between
    · exact before action early
    · exact owner_of_mem_invalidateThree between
  · exact after action late

end ChaosLibs.Io.FdCacheThreads
