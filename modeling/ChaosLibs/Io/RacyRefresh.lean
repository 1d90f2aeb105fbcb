import ChaosLibs.Io.Refresh
import ChaosLibs.Machine.LabelledRun
import Mathlib.Order.Monotone.Defs

/-!
# Racily clean files

A loading thread and same-size in-place rewrites of the rule file, in any
order.  The file system takes the time of a rewrite from a coarse clock, so a
rewrite within a tick leaves the change stamp as it is, and the stamp says
nothing about the bytes.  A load that finds its stamp recent is provisional:
the file is read again on every check.

The clock is read after the file.  Between the two the thread may be preempted
for longer than the window, and a rewrite that falls there is found out by
neither.
-/

namespace ChaosLibs.Io.RacyRefresh

open ChaosLibs.Machine
open ChaosLibs.Common.CString
open ChaosLibs.Common.StatusText
open ChaosLibs.Common.Clock
open ChaosLibs.Io.ChangeStamp
open ChaosLibs.Io.Rule
open ChaosLibs.Io.ConfigParser
open ChaosLibs.Io.Refresh

/-! ## The file and the machine -/

/--
The clock a file system takes its times from, in ns: `tick now` is the last
tick at `now`, less than `CHAOS_RACY_WINDOW_MS` ago.
-/
structure CoarseClock where
  tick : Nat → Nat
  behind : ∀ now, tick now ≤ now
  within : ∀ now, now < tick now + chaosRacyWindowMs.toNat * 1000000
  monotone : Monotone tick

/-- What in-place rewrites of the same size leave alone. -/
structure RuleFile where
  clock : CoarseClock
  size : Nat
  ino : Nat
  dev : Nat

/-- What `stat` returns for the file last written at `mtime` ns. -/
def RuleFile.stat (file : RuleFile) (mtime : Nat) : FileStat :=
  ⟨(mtime / 1000000000 : Nat), mtime % 1000000000, file.size, file.ino,
    file.dev⟩

/-- The change stamp of the file last written at `mtime` ns. -/
def RuleFile.stamp (file : RuleFile) (mtime : Nat) : UInt64 :=
  chaosIoConfigHashMtime (file.stat mtime)

/--
The loading thread and the file, at the wall-clock time `now` in ns.  The
ghost part: `mtimes` lists every time the file had, `source` holds the bytes
the last parse was made from, and `begun` and `ended` say whether a check has
begun with its `stat`, and one so begun has ended, since the last rewrite.
-/
structure World where
  cache : Cache
  pc : RefreshPc
  now : Nat
  content : Bytes
  mtime : Nat
  mtimes : List Nat
  source : Bytes
  begun : Bool
  ended : Bool

/-- A rule file that is there when the library starts. -/
structure Start (file : RuleFile) where
  now : Nat
  content : Bytes
  mtime : Nat
  sized : content.length = file.size
  written : mtime ≤ file.clock.tick now

/-- After `chaos_io_config_init`. -/
def initial {file : RuleFile} (start : Start file) : World :=
  ⟨Cache.initial, .idle, start.now, start.content, start.mtime, [start.mtime],
    [], false, false⟩

/-- What is left to chance when the loading thread takes a step. -/
structure Choice where
  monotonicNs : UInt64 := 0
  monotonicMs : UInt64 := 0
  /-- A read returns at most `readSize + 1` bytes. -/
  readSize : Nat := 4095
  moved : Bool := false
  links : Bool := false

/-- What can happen next. -/
inductive Action where
  /-- Time passes. -/
  | pass (duration : Nat)
  /-- The file is rewritten in place. -/
  | rewrite (content : Bytes)
  /-- The loading thread takes its next step. -/
  | load (choice : Choice)

/-- Every system call succeeds, and the wall clock is right. -/
def World.answers (file : RuleFile) (world : World) (choice : Choice) :
    Answers where
  monotonicNs := choice.monotonicNs
  monotonicMs := choice.monotonicMs
  realtimeMs := (world.now / 1000000 : Nat)
  stat := some (file.stat world.mtime)
  opened := .opened
  read :=
    .bytes
      ((world.content.drop (readSoFar world.pc).length).take
        (choice.readSize + 1))
  fstat := some (file.stat world.mtime)
  moved := choice.moved
  links := choice.links

/-- The bytes the last parse was made from, after a step from `pc` to `next`. -/
def sourceAfter (source : Bytes) : RefreshPc → RefreshPc → Bytes
  | .compare _ _ data, .resolve _ _ _ => data
  | .linksMoved _ _ data, .resolve _ _ _ => data
  | _, _ => source

/-- The loading thread takes its next step. -/
def World.load (file : RuleFile) (world : World) (choice : Choice) : World :=
  let next := advance world.cache world.pc (world.answers file choice)
  { world with
    cache := next.1
    pc := next.2
    source := sourceAfter world.source world.pc next.2
    begun := world.begun || world.pc == .stat
    ended := world.ended || (world.begun && next.2 == .idle) }

/-- Time passes. -/
def World.pass (world : World) (duration : Nat) : World :=
  { world with now := world.now + duration }

/-- The file is rewritten. -/
def World.rewrite (file : RuleFile) (world : World) (content : Bytes) : World :=
  { world with
    content := content
    mtime := file.clock.tick world.now
    mtimes := file.clock.tick world.now :: world.mtimes
    begun := false
    ended := false }

/-- One step of the world; a rewrite keeps the size. -/
def step (file : RuleFile) (world : World) : Action → Option World
  | .pass duration => some (world.pass duration)
  | .rewrite content =>
      if content.length = file.size then some (world.rewrite file content)
      else none
  | .load choice => some (world.load file choice)

/-! ## The property and the conditions -/

/-- The active snapshot is the parse of what the file holds. -/
def World.IsCurrent (world : World) : Prop :=
  world.cache.active.loaded = loadedOf world.content

/-- A check that began after the last rewrite leaves the snapshot current. -/
def CheckedIsCurrent (world : World) : Prop :=
  world.ended = true → world.IsCurrent

/-- The stamp an unprovisional load is relied on for, by where the thread stands. -/
def reliedOn (cached : UInt64) : RefreshPc → Option UInt64
  | .idle | .throttle | .stat | .loadStamp _ | .testProvisional _
  | .testLinks _ | .claim _ _ => some cached
  | .compare observed _ _ | .linksDue observed _ _ | .linksMoved observed _ _
  | .linksKept observed | .keep observed | .resolve observed _ _
  | .storeContent observed _ _ | .publish observed _
  | .storeStamp observed => some observed
  | _ => none

/-- The stamp at which the file is not read again, if there is one. -/
def World.trusted (world : World) : Option UInt64 :=
  if world.cache.provisional then none
  else reliedOn world.cache.cached world.pc

/-- A rewrite gives the file no stamp that another time of it has. -/
def NewStamp (file : RuleFile) (world : World) : Prop :=
  ∀ earlier ∈ world.mtimes,
    file.stamp earlier = file.stamp (file.clock.tick world.now) →
      earlier = file.clock.tick world.now

/-- A rewrite by other bytes does not leave the file a trusted stamp. -/
def NotTrusted (file : RuleFile) (world : World) (content : Bytes) : Prop :=
  file.size < chaosIoMaxConfigBytes →
    world.trusted = some (file.stamp (file.clock.tick world.now)) →
      content = world.content

/--
A load that reads the clock finds the stamp recent, unless the file still
holds the bytes read or has another stamp by now.
-/
def RecentOrUnchanged (file : RuleFile) (world : World) : RefreshPc → Prop
  | .readClock observed _ data stat =>
      chaosClockStampIsRecent stat.sec stat.nsec
          ((world.now / 1000000 : Nat) : Int) = false →
        observed = file.stamp world.mtime → data = world.content
  | _ => True

/-- A re-read that finds the content hash unchanged finds the bytes unchanged. -/
def SameBytes (world : World) : RefreshPc → Prop
  | .compare observed previous data =>
      observed = previous →
        chaosConfigContentHash data = world.cache.content →
          data = world.source
  | _ => True

/-- The condition on a step. -/
def Condition (file : RuleFile) (world : World) : Action → Prop
  | .pass _ => True
  | .rewrite content => NewStamp file world ∧ NotTrusted file world content
  | .load _ => RecentOrUnchanged file world world.pc ∧ SameBytes world world.pc

/-! ## Stamps -/

variable {file : RuleFile}

/-- The file has or had this stamp. -/
def World.Had (file : RuleFile) (world : World) (stamp : UInt64) : Prop :=
  ∃ mtime ∈ world.mtimes, stamp = file.stamp mtime

/-- A stamp the file never has again. -/
def World.Gone (file : RuleFile) (world : World) (stamp : UInt64) : Prop :=
  (stamp = chaosIoMtimeUnknown ∨ world.Had file stamp) ∧
    stamp ≠ file.stamp world.mtime

/-- The times of the file are in order, and its size is what it was. -/
structure FileInvariant (file : RuleFile) (world : World) : Prop where
  sized : world.content.length = file.size
  listed : world.mtime ∈ world.mtimes
  latest : ∀ mtime ∈ world.mtimes, mtime ≤ world.mtime
  written : world.mtime ≤ file.clock.tick world.now

theorem stamp_ne_unknown (mtime : Nat) :
    file.stamp mtime ≠ chaosIoMtimeUnknown :=
  chaosIoConfigHashMtime_ne_unknown _

theorem stamp_ne_reloading (mtime : Nat) :
    file.stamp mtime ≠ chaosIoMtimeReloading :=
  chaosIoConfigHashMtime_ne_reloading _

theorem stamp_ne_missing (mtime : Nat) :
    file.stamp mtime ≠ chaosIoMtimeMissing :=
  chaosIoConfigHashMtime_ne_missing _

theorem FileInvariant.had
    {world : World} (times : FileInvariant file world) :
    world.Had file (file.stamp world.mtime) :=
  ⟨world.mtime, times.listed, rfl⟩

/-- Of the stamps the file had, a rewrite can only give it its present one. -/
theorem FileInvariant.stamp_rewrite
    {world : World} (times : FileInvariant file world)
    (fresh : NewStamp file world) {stamp : UInt64}
    (had : world.Had file stamp)
    (given : stamp = file.stamp (file.clock.tick world.now)) :
    stamp = file.stamp world.mtime := by
  rcases had with ⟨mtime, listed, rfl⟩
  have same : mtime = file.clock.tick world.now := fresh mtime listed given
  have latest : mtime ≤ world.mtime := times.latest mtime listed
  have written : world.mtime ≤ mtime := same ▸ times.written
  rw [Nat.le_antisymm latest written]

theorem fileInvariant_initial (start : Start file) :
    FileInvariant file (initial start) where
  sized := start.sized
  listed := List.mem_singleton_self _
  latest := fun _ listed => (List.mem_singleton.mp listed).le
  written := start.written

theorem FileInvariant.pass
    {world : World} (times : FileInvariant file world) (duration : Nat) :
    FileInvariant file (world.pass duration) where
  sized := times.sized
  listed := times.listed
  latest := times.latest
  written :=
    times.written.trans
      (file.clock.monotone (Nat.le_add_right world.now duration))

theorem FileInvariant.rewrite
    {world : World} (times : FileInvariant file world) {content : Bytes}
    (sized : content.length = file.size) :
    FileInvariant file (world.rewrite file content) where
  sized := sized
  listed := List.mem_cons_self
  latest := by
    intro mtime listed
    rcases List.mem_cons.mp listed with rfl | listed
    · exact le_refl _
    · exact (times.latest mtime listed).trans times.written
  written := le_refl _

/-! ## What the loading thread knows -/

/-- If the file has the stamp, it has the bytes, or it will be read again. -/
def World.Relies
    (file : RuleFile) (world : World) (loaded : Loaded) (stamp : UInt64) :
    Prop :=
  world.cache.provisional = false → stamp = file.stamp world.mtime →
    loaded = loadedOf world.content

/-- The active snapshot is the last parse, if one was made for this stamp. -/
def World.Parsed
    (file : RuleFile) (world : World) (loaded : Loaded) (stamp : UInt64) :
    Prop :=
  file.size < chaosIoMaxConfigBytes → stamp ≠ chaosIoMtimeUnknown →
    loaded = loadedOf world.source

/-- No reload is going on. -/
structure World.Rests (file : RuleFile) (world : World) : Prop where
  cached : world.cache.cached = chaosIoMtimeUnknown ∨
    world.Had file world.cache.cached
  parsed :
    world.Parsed file world.cache.active.loaded world.cache.cached
  relies :
    world.Relies file world.cache.active.loaded world.cache.cached

/-- The `stat` of the call returned this stamp, the cached one being `previous`. -/
structure World.Observed
    (file : RuleFile) (world : World) (observed previous : UInt64) : Prop where
  had : world.Had file observed
  previous : previous = observed ∨ world.Gone file previous

/-- A reload of the file is going on, after which `previous` may be restored. -/
structure World.Claimed
    (file : RuleFile) (world : World) (observed previous : UInt64) : Prop where
  observed : world.Observed file observed previous
  parsed : world.Parsed file world.cache.active.loaded previous

/-- A reload that read the whole file. -/
structure World.ReadWhole
    (file : RuleFile) (world : World) (observed previous : UInt64)
    (data : Bytes) : Prop where
  claimed : world.Claimed file observed previous
  length : data.length = file.size
  small : data.length < chaosIoMaxConfigBytes

/-- A parse that is about to be published, or just has been. -/
structure World.Publishes
    (file : RuleFile) (world : World) (observed : UInt64) (loaded : Loaded) :
    Prop where
  had : world.Had file observed
  parsed : world.Parsed file loaded observed
  relies : world.Relies file loaded observed

/-- What the loading thread knows, by where it stands. -/
def World.Knows (file : RuleFile) (world : World) : RefreshPc → Prop
  | .idle | .throttle | .stat => world.Rests file
  | .loadStamp observed =>
      world.Rests file ∧ world.Observed file observed world.cache.cached
  | .testProvisional observed =>
      world.Rests file ∧ world.cache.cached = observed ∧ world.Had file observed
  | .testLinks observed =>
      world.Rests file ∧ world.cache.cached = observed ∧
        world.Had file observed ∧ world.cache.provisional = false
  | .claim observed cached =>
      world.Rests file ∧ world.cache.cached = cached ∧
        world.Observed file observed cached
  | .clearProvisional observed previous =>
      world.Claimed file observed previous
  | .openFile observed previous =>
      world.Claimed file observed previous ∧ world.cache.provisional = false
  | .readFile observed previous data =>
      world.Claimed file observed previous ∧ data.length ≤ file.size ∧
        data.length < chaosIoMaxConfigBytes ∧ world.cache.provisional = false
  | .statFile observed previous data | .readClock observed previous data _ =>
      world.ReadWhole file observed previous data
  | .compare observed previous data =>
      world.ReadWhole file observed previous data ∧
        world.Relies file (loadedOf data) observed
  | .linksDue observed previous data | .linksMoved observed previous data =>
      world.ReadWhole file observed previous data ∧
        world.Relies file (loadedOf data) observed ∧ observed = previous ∧
          data = world.source
  | .linksKept previous | .keep previous =>
      world.Publishes file previous world.cache.active.loaded
  | .resolve observed _ loaded => world.Publishes file observed loaded
  | .storeContent observed _ snapshot | .publish observed snapshot =>
      world.Publishes file observed snapshot.loaded
  | .storeStamp observed =>
      world.Publishes file observed world.cache.active.loaded
  | .fail previous =>
      world.Gone file previous ∧
        world.Parsed file world.cache.active.loaded previous
  | .forgetContent => False

/-! ## Time -/

theorem World.Rests.pass
    {world : World} (rests : world.Rests file) (duration : Nat) :
    (world.pass duration).Rests file :=
  ⟨rests.cached, rests.parsed, rests.relies⟩

theorem World.Observed.pass
    {world : World} {observed previous : UInt64}
    (seen : world.Observed file observed previous) (duration : Nat) :
    (world.pass duration).Observed file observed previous :=
  ⟨seen.had, seen.previous⟩

theorem World.Claimed.pass
    {world : World} {observed previous : UInt64}
    (claimed : world.Claimed file observed previous) (duration : Nat) :
    (world.pass duration).Claimed file observed previous :=
  ⟨claimed.observed.pass duration, claimed.parsed⟩

theorem World.ReadWhole.pass
    {world : World} {observed previous : UInt64} {data : Bytes}
    (whole : world.ReadWhole file observed previous data) (duration : Nat) :
    (world.pass duration).ReadWhole file observed previous data :=
  ⟨whole.claimed.pass duration, whole.length, whole.small⟩

theorem World.Publishes.pass
    {world : World} {observed : UInt64} {loaded : Loaded}
    (publishes : world.Publishes file observed loaded) (duration : Nat) :
    (world.pass duration).Publishes file observed loaded :=
  ⟨publishes.had, publishes.parsed, publishes.relies⟩

/-- What the thread knows is not a matter of the time. -/
theorem knows_pass
    {world : World} {pc : RefreshPc} (knows : world.Knows file pc)
    (duration : Nat) : (world.pass duration).Knows file pc := by
  cases pc with
  | idle | throttle | stat => exact knows.pass duration
  | loadStamp => exact ⟨knows.1.pass duration, knows.2.pass duration⟩
  | testProvisional | testLinks => exact ⟨knows.1.pass duration, knows.2⟩
  | claim =>
      exact ⟨knows.1.pass duration, knows.2.1, knows.2.2.pass duration⟩
  | clearProvisional => exact World.Claimed.pass knows duration
  | openFile | readFile => exact ⟨knows.1.pass duration, knows.2⟩
  | statFile | readClock => exact World.ReadWhole.pass knows duration
  | compare | linksDue | linksMoved =>
      exact ⟨knows.1.pass duration, knows.2⟩
  | linksKept | keep | resolve | storeContent | publish | storeStamp =>
      exact World.Publishes.pass knows duration
  | fail => exact knows
  | forgetContent => exact knows

/-! ## Rewrites -/

/-- A rewrite that meets the condition. -/
structure World.Allowed (file : RuleFile) (world : World) (content : Bytes) :
    Prop where
  times : FileInvariant file world
  sized : content.length = file.size
  fresh : NewStamp file world
  untrusted : NotTrusted file world content

theorem trusted_of
    {world : World} {pc : RefreshPc} {stamp : UInt64} (phase : world.pc = pc)
    (relied : reliedOn world.cache.cached pc = some stamp)
    (settled : world.cache.provisional = false) :
    world.trusted = some stamp := by
  rw [World.trusted, settled, phase]
  exact relied

section

variable {world : World} {content : Bytes}
variable (allowed : world.Allowed file content)

theorem World.Had.rewrite
    {stamp : UInt64} (had : world.Had file stamp) :
    (world.rewrite file content).Had file stamp := by
  rcases had with ⟨mtime, listed, same⟩
  exact ⟨mtime, List.mem_cons_of_mem _ listed, same⟩

include allowed

theorem World.Gone.rewrite
    {stamp : UInt64} (gone : world.Gone file stamp) :
    (world.rewrite file content).Gone file stamp := by
  rcases gone with ⟨unknown | had, other⟩
  · exact ⟨Or.inl unknown, unknown ▸ (stamp_ne_unknown _).symm⟩
  · exact ⟨Or.inr had.rewrite,
      fun given => other (allowed.times.stamp_rewrite allowed.fresh had given)⟩

theorem World.Relies.rewrite
    {loaded : Loaded} {stamp : UInt64}
    (relies : world.Relies file loaded stamp)
    (known : stamp = chaosIoMtimeUnknown ∨ world.Had file stamp)
    (trusted : world.cache.provisional = false → world.trusted = some stamp) :
    (world.rewrite file content).Relies file loaded stamp := by
  intro settled given
  rcases known with rfl | had
  · exact absurd given.symm (stamp_ne_unknown _)
  · have present := allowed.times.stamp_rewrite allowed.fresh had given
    have current : loaded = loadedOf world.content := relies settled present
    by_cases small : file.size < chaosIoMaxConfigBytes
    · have same : content = world.content :=
        allowed.untrusted small
          ((trusted settled).trans (congrArg some given))
      exact same ▸ current
    · rw [Nat.not_lt] at small
      rw [current, loadedOf_tooLarge (allowed.times.sized.symm ▸ small)]
      exact (loadedOf_tooLarge (allowed.sized.symm ▸ small)).symm

theorem World.Rests.rewrite
    (rests : world.Rests file)
    (trusted : world.cache.provisional = false →
      world.trusted = some world.cache.cached) :
    (world.rewrite file content).Rests file where
  cached := rests.cached.imp_right fun had => had.rewrite
  parsed := rests.parsed
  relies := rests.relies.rewrite allowed rests.cached trusted

theorem World.Observed.rewrite
    {observed previous : UInt64}
    (seen : world.Observed file observed previous) :
    (world.rewrite file content).Observed file observed previous where
  had := seen.had.rewrite
  previous := seen.previous.imp_right fun gone => gone.rewrite allowed

theorem World.Claimed.rewrite
    {observed previous : UInt64}
    (claimed : world.Claimed file observed previous) :
    (world.rewrite file content).Claimed file observed previous where
  observed := claimed.observed.rewrite allowed
  parsed := claimed.parsed

theorem World.ReadWhole.rewrite
    {observed previous : UInt64} {data : Bytes}
    (whole : world.ReadWhole file observed previous data) :
    (world.rewrite file content).ReadWhole file observed previous data where
  claimed := whole.claimed.rewrite allowed
  length := whole.length
  small := whole.small

theorem World.Publishes.rewrite
    {observed : UInt64} {loaded : Loaded}
    (publishes : world.Publishes file observed loaded)
    (trusted : world.cache.provisional = false →
      world.trusted = some observed) :
    (world.rewrite file content).Publishes file observed loaded where
  had := publishes.had.rewrite
  parsed := publishes.parsed
  relies :=
    publishes.relies.rewrite allowed (Or.inr publishes.had) trusted

/-- A rewrite that meets the condition takes nothing from what the thread knows. -/
theorem knows_rewrite
    (knows : world.Knows file world.pc) :
    (world.rewrite file content).Knows file world.pc := by
  cases phase : world.pc with
  | idle =>
      rw [phase] at knows
      exact knows.rewrite allowed (trusted_of phase rfl)
  | throttle =>
      rw [phase] at knows
      exact knows.rewrite allowed (trusted_of phase rfl)
  | stat =>
      rw [phase] at knows
      exact knows.rewrite allowed (trusted_of phase rfl)
  | loadStamp observed =>
      rw [phase] at knows
      rcases knows with ⟨rests, seen⟩
      exact ⟨rests.rewrite allowed (trusted_of phase rfl),
        seen.rewrite allowed⟩
  | testProvisional observed =>
      rw [phase] at knows
      rcases knows with ⟨rests, same, had⟩
      exact ⟨rests.rewrite allowed (trusted_of phase rfl),
        same, had.rewrite⟩
  | testLinks observed =>
      rw [phase] at knows
      rcases knows with ⟨rests, same, had, settled⟩
      exact ⟨rests.rewrite allowed (trusted_of phase rfl),
        same, had.rewrite, settled⟩
  | claim observed cached =>
      rw [phase] at knows
      rcases knows with ⟨rests, same, seen⟩
      exact ⟨rests.rewrite allowed (trusted_of phase rfl),
        same, seen.rewrite allowed⟩
  | clearProvisional observed previous =>
      rw [phase] at knows
      exact World.Claimed.rewrite allowed knows
  | openFile observed previous =>
      rw [phase] at knows
      exact ⟨knows.1.rewrite allowed, knows.2⟩
  | readFile observed previous data =>
      rw [phase] at knows
      exact ⟨knows.1.rewrite allowed, knows.2⟩
  | statFile observed previous data =>
      rw [phase] at knows
      exact World.ReadWhole.rewrite allowed knows
  | readClock observed previous data stat =>
      rw [phase] at knows
      exact World.ReadWhole.rewrite allowed knows
  | compare observed previous data =>
      rw [phase] at knows
      rcases knows with ⟨whole, relies⟩
      exact ⟨whole.rewrite allowed,
        relies.rewrite allowed
          (Or.inr whole.claimed.observed.had)
          (trusted_of phase rfl)⟩
  | linksDue observed previous data =>
      rw [phase] at knows
      rcases knows with ⟨whole, relies, same⟩
      exact ⟨whole.rewrite allowed,
        relies.rewrite allowed
          (Or.inr whole.claimed.observed.had)
          (trusted_of phase rfl),
        same⟩
  | linksMoved observed previous data =>
      rw [phase] at knows
      rcases knows with ⟨whole, relies, same⟩
      exact ⟨whole.rewrite allowed,
        relies.rewrite allowed
          (Or.inr whole.claimed.observed.had)
          (trusted_of phase rfl),
        same⟩
  | linksKept previous =>
      rw [phase] at knows
      exact knows.rewrite allowed (trusted_of phase rfl)
  | keep previous =>
      rw [phase] at knows
      exact knows.rewrite allowed (trusted_of phase rfl)
  | resolve observed hash loaded =>
      rw [phase] at knows
      exact knows.rewrite allowed (trusted_of phase rfl)
  | storeContent observed hash snapshot =>
      rw [phase] at knows
      exact knows.rewrite allowed (trusted_of phase rfl)
  | publish observed snapshot =>
      rw [phase] at knows
      exact knows.rewrite allowed (trusted_of phase rfl)
  | storeStamp observed =>
      rw [phase] at knows
      exact knows.rewrite allowed (trusted_of phase rfl)
  | fail previous =>
      rw [phase] at knows
      exact ⟨knows.1.rewrite allowed, knows.2⟩
  | forgetContent =>
      rw [phase] at knows
      exact knows

end

/-! ## Steps of the loading thread -/

/-- The thread observes the stamp; the cached one is equal or never comes back. -/
theorem observed_stat
    {world : World} (times : FileInvariant file world)
    (rests : world.Rests file) :
    world.Observed file (file.stamp world.mtime) world.cache.cached where
  had := times.had
  previous := by
    by_cases same : world.cache.cached = file.stamp world.mtime
    · exact Or.inl same
    · exact Or.inr ⟨rests.cached, same⟩

/-- A cached stamp that is not read again shows that the snapshot is current. -/
theorem World.Rests.isCurrent
    {world : World} (rests : world.Rests file)
    (settled : world.cache.provisional = false)
    (present : world.cache.cached = file.stamp world.mtime) :
    world.IsCurrent :=
  rests.relies settled present

theorem World.Had.ne_unknown
    {world : World} {stamp : UInt64} (had : world.Had file stamp) :
    stamp ≠ chaosIoMtimeUnknown := by
  rcases had with ⟨mtime, -, rfl⟩
  exact stamp_ne_unknown mtime

theorem World.Rests.ne_reloading
    {world : World} (rests : world.Rests file) :
    world.cache.cached ≠ chaosIoMtimeReloading := by
  rcases rests.cached with unknown | ⟨mtime, -, same⟩
  · rw [unknown]
    decide
  · rw [same]
    exact stamp_ne_reloading mtime

theorem chaosIoMaxConfigBytes_pos : 0 < chaosIoMaxConfigBytes :=
  Nat.zero_lt_succ _

/-- The bytes read are never more than the file has. -/
theorem length_readChunk
    {world : World} (times : FileInvariant file world) {data : Bytes}
    (size : Nat) (short : data.length ≤ file.size) :
    (data ++ (world.content.drop data.length).take (size + 1)).length ≤
      file.size := by
  have sized := times.sized
  simp only [List.length_append, List.length_take, List.length_drop]
  omega

/-- What a chunk of the read loop leaves the thread knowing. -/
theorem knows_readChunk
    {world next : World} (times : FileInvariant file world)
    {observed previous : UInt64} {data : Bytes} {size : Nat}
    (claimed : next.Claimed file observed previous)
    (short : data.length ≤ file.size)
    (small : data.length < chaosIoMaxConfigBytes)
    (settled : next.cache.provisional = false)
    (content : next.content = world.content) :
    next.Knows file
      (readChunk observed previous data
        ((world.content.drop data.length).take (size + 1))) := by
  have sized := times.sized
  unfold readChunk
  split
  · rename_i ended
    have whole := length_le_of_readChunk_nil ended
    exact ⟨claimed, short.antisymm (sized ▸ whole), small⟩
  · have longer := length_readChunk times size short
    split
    · rename_i full
      have long : chaosIoMaxConfigBytes ≤ file.size := full.trans longer
      refine ⟨claimed.observed.had, ?_, ?_⟩
      · intro small
        exact absurd small (Nat.not_lt.mpr long)
      · intro _ _
        rw [content]
        exact (loadedOf_tooLarge (sized.symm ▸ long)).symm
    · rename_i notFull
      exact ⟨claimed, longer, Nat.lt_of_not_le notFull, settled⟩

/-- The re-read bytes are those the active snapshot was parsed from. -/
theorem parsed_kept
    {world : World} {observed previous : UInt64} {data : Bytes}
    (whole : world.ReadWhole file observed previous data)
    (same : observed = previous) (source : data = world.source) :
    world.cache.active.loaded = loadedOf data := by
  rcases whole with ⟨claimed, length, small⟩
  have had : world.Had file previous := same ▸ claimed.observed.had
  exact source ▸ claimed.parsed (length ▸ small) had.ne_unknown

theorem publishes_kept
    {world : World} {observed previous : UInt64} {data : Bytes}
    (whole : world.ReadWhole file observed previous data)
    (relies : world.Relies file (loadedOf data) observed)
    (same : observed = previous) (source : data = world.source) :
    world.Publishes file previous world.cache.active.loaded := by
  have parsed := parsed_kept whole same source
  subst same
  exact ⟨whole.claimed.observed.had, whole.claimed.parsed, parsed ▸ relies⟩

/-- A step that meets the condition leaves the thread knowing its file. -/
theorem knows_load
    {world : World} (times : FileInvariant file world) (choice : Choice)
    (recent : RecentOrUnchanged file world world.pc)
    (bytes : SameBytes world world.pc)
    (knows : world.Knows file world.pc) :
    (world.load file choice).Knows file (world.load file choice).pc := by
  cases phase : world.pc with
  | idle =>
      rw [phase] at knows
      simp only [World.load, phase, advance]
      split <;> exact ⟨knows.cached, knows.parsed, knows.relies⟩
  | throttle =>
      rw [phase] at knows
      simp only [World.load, phase, advance]
      split <;> exact ⟨knows.cached, knows.parsed, knows.relies⟩
  | stat =>
      rw [phase] at knows
      have seen := observed_stat times knows
      simp only [World.load, phase, advance, World.answers]
      exact ⟨⟨knows.cached, knows.parsed, knows.relies⟩,
        ⟨seen.had, seen.previous⟩⟩
  | loadStamp observed =>
      rw [phase] at knows
      rcases knows with ⟨rests, seen⟩
      simp only [World.load, phase, advance]
      split
      · rename_i same
        exact ⟨⟨rests.cached, rests.parsed, rests.relies⟩, same, seen.had⟩
      · exact ⟨⟨rests.cached, rests.parsed, rests.relies⟩, rfl,
          ⟨seen.had, seen.previous⟩⟩
  | testProvisional observed =>
      rw [phase] at knows
      rcases knows with ⟨rests, same, had⟩
      simp only [World.load, phase, advance]
      split
      · exact ⟨⟨rests.cached, rests.parsed, rests.relies⟩, same,
          ⟨had, Or.inl rfl⟩⟩
      · rename_i settled
        exact ⟨⟨rests.cached, rests.parsed, rests.relies⟩, same, had,
          Bool.eq_false_of_not_eq_true settled⟩
  | testLinks observed =>
      rw [phase] at knows
      rcases knows with ⟨rests, same, had, settled⟩
      simp only [World.load, phase, advance]
      split
      · exact ⟨⟨rests.cached, rests.parsed, rests.relies⟩, same,
          ⟨had, Or.inl rfl⟩⟩
      · exact ⟨rests.cached, rests.parsed, rests.relies⟩
  | claim observed cached =>
      rw [phase] at knows
      rcases knows with ⟨rests, same, seen⟩
      subst same
      simp only [World.load, phase, advance, if_neg rests.ne_reloading]
      exact ⟨⟨seen.had, seen.previous⟩, rests.parsed⟩
  | clearProvisional observed previous =>
      rw [phase] at knows
      rcases knows.observed.had with ⟨mtime, -, stamp⟩
      have present : observed ≠ chaosIoMtimeMissing :=
        stamp ▸ stamp_ne_missing mtime
      simp only [World.load, phase, advance, if_neg present]
      exact ⟨⟨⟨knows.observed.had, knows.observed.previous⟩, knows.parsed⟩, rfl⟩
  | forgetContent =>
      rw [phase] at knows
      exact knows.elim
  | openFile observed previous =>
      rw [phase] at knows
      rcases knows with ⟨claimed, settled⟩
      simp only [World.load, phase, advance, World.answers]
      exact ⟨⟨⟨claimed.observed.had, claimed.observed.previous⟩, claimed.parsed⟩,
        Nat.zero_le _, chaosIoMaxConfigBytes_pos, settled⟩
  | readFile observed previous data =>
      rw [phase] at knows
      rcases knows with ⟨claimed, short, small, settled⟩
      simp only [World.load, phase, advance, World.answers, readSoFar]
      exact knows_readChunk times
        ⟨⟨claimed.observed.had, claimed.observed.previous⟩, claimed.parsed⟩
        short small settled rfl
  | statFile observed previous data =>
      rw [phase] at knows
      rcases knows with ⟨claimed, length, small⟩
      have found :
          (world.answers file choice).fstat = some (file.stat world.mtime) :=
        rfl
      simp only [World.load, phase, advance_statFile found]
      split
      · rename_i different
        have gone : world.Gone file previous := by
          rcases claimed.observed.previous with rfl | gone
          · exact ⟨Or.inr claimed.observed.had, Ne.symm different⟩
          · exact gone
        exact ⟨gone, claimed.parsed⟩
      · exact ⟨⟨⟨claimed.observed.had, claimed.observed.previous⟩,
          claimed.parsed⟩, length, small⟩
  | readClock observed previous data stat =>
      rw [phase] at knows recent
      rcases knows with ⟨claimed, length, small⟩
      simp only [World.load, phase, advance, World.answers]
      refine ⟨⟨⟨⟨claimed.observed.had, claimed.observed.previous⟩,
        claimed.parsed⟩, length, small⟩, ?_⟩
      intro settled present
      exact congrArg loadedOf (recent settled present)
  | compare observed previous data =>
      rw [phase] at knows bytes
      rcases knows with ⟨⟨claimed, length, small⟩, relies⟩
      simp only [World.load, phase, advance]
      split
      · rename_i unchanged
        exact ⟨⟨⟨⟨claimed.observed.had, claimed.observed.previous⟩,
            claimed.parsed⟩, length, small⟩, relies, unchanged.1,
          bytes unchanged.1 unchanged.2⟩
      · exact ⟨claimed.observed.had, fun _ _ => rfl, relies⟩
  | linksDue observed previous data =>
      rw [phase] at knows
      rcases knows with ⟨⟨claimed, length, small⟩, relies, same, source⟩
      simp only [World.load, phase, advance]
      split
      · exact ⟨⟨⟨⟨claimed.observed.had, claimed.observed.previous⟩,
          claimed.parsed⟩, length, small⟩, relies, same, source⟩
      · have kept := publishes_kept ⟨claimed, length, small⟩ relies same source
        exact ⟨kept.had, kept.parsed, kept.relies⟩
  | linksMoved observed previous data =>
      rw [phase] at knows
      rcases knows with ⟨⟨claimed, length, small⟩, relies, same, source⟩
      simp only [World.load, phase, advance]
      split
      · exact ⟨claimed.observed.had, fun _ _ => rfl, relies⟩
      · have kept := publishes_kept ⟨claimed, length, small⟩ relies same source
        exact ⟨kept.had, kept.parsed, kept.relies⟩
  | linksKept previous =>
      rw [phase] at knows
      simp only [World.load, phase, advance]
      exact ⟨knows.had, knows.parsed, knows.relies⟩
  | resolve observed hash loaded =>
      rw [phase] at knows
      simp only [World.load, phase, advance]
      exact ⟨knows.had, knows.parsed, knows.relies⟩
  | storeContent observed hash snapshot =>
      rw [phase] at knows
      simp only [World.load, phase, advance]
      exact ⟨knows.had, knows.parsed, knows.relies⟩
  | publish observed snapshot =>
      rw [phase] at knows
      simp only [World.load, phase, advance]
      exact ⟨knows.had, knows.parsed, knows.relies⟩
  | storeStamp observed =>
      rw [phase] at knows
      simp only [World.load, phase, advance]
      exact ⟨Or.inr knows.had, knows.parsed, knows.relies⟩
  | keep previous =>
      rw [phase] at knows
      simp only [World.load, phase, advance]
      exact ⟨Or.inr knows.had, knows.parsed, knows.relies⟩
  | fail previous =>
      rw [phase] at knows
      rcases knows with ⟨⟨had, other⟩, parsed⟩
      simp only [World.load, phase, advance]
      exact ⟨had, parsed, fun _ present => absurd present other⟩

/-! ## Checks that begin after the last rewrite -/

/-- What a check that began after the last rewrite has found out. -/
def World.Follows (file : RuleFile) (world : World) : RefreshPc → Prop
  | .idle | .throttle | .stat | .linksKept _ | .keep _ | .storeStamp _ =>
      world.IsCurrent
  | .loadStamp observed | .testProvisional observed | .testLinks observed
  | .claim observed _ | .clearProvisional observed _ | .openFile observed _ =>
      observed = file.stamp world.mtime
  | .readFile observed _ data =>
      observed = file.stamp world.mtime ∧ data <+: world.content
  | .statFile observed _ data | .readClock observed _ data _
  | .compare observed _ data | .linksDue observed _ data
  | .linksMoved observed _ data =>
      observed = file.stamp world.mtime ∧ data = world.content
  | .resolve _ _ loaded => loaded = loadedOf world.content
  | .storeContent _ _ snapshot | .publish _ snapshot =>
      snapshot.loaded = loadedOf world.content
  | .fail _ | .forgetContent => False

/-- What a chunk of the read loop finds out. -/
theorem follows_readChunk
    {world next : World} {observed previous : UInt64} {data : Bytes}
    {size : Nat} (present : observed = file.stamp next.mtime)
    (read : data <+: world.content) (content : next.content = world.content) :
    next.Follows file
      (readChunk observed previous data
        ((world.content.drop data.length).take (size + 1))) := by
  unfold readChunk
  split
  · rename_i ended
    exact ⟨present, content ▸ eq_of_readChunk_nil read ended⟩
  · have further :
        data ++ (world.content.drop data.length).take (size + 1) <+:
          world.content :=
      prefix_readChunk read
    split
    · rename_i full
      have long := full.trans further.length_le
      have rejected := loadedOf_tooLarge long
      rw [← content] at rejected
      exact rejected.symm
    · exact ⟨present, content ▸ further⟩

/-- A check that began after the last rewrite goes on finding out. -/
theorem follows_load
    {world : World} (choice : Choice) (knows : world.Knows file world.pc)
    (follows : world.pc = .stat ∨ world.Follows file world.pc) :
    (world.load file choice).Follows file (world.load file choice).pc := by
  cases phase : world.pc with
  | idle =>
      simp only [phase, reduceCtorEq, false_or] at follows
      simp only [World.load, phase, advance]
      split <;> exact follows
  | throttle =>
      simp only [phase, reduceCtorEq, false_or] at follows
      simp only [World.load, phase, advance]
      split <;> exact follows
  | stat =>
      simp only [World.load, phase, advance, World.answers]
      rfl
  | loadStamp observed =>
      simp only [phase, reduceCtorEq, false_or] at follows
      simp only [World.load, phase, advance]
      split <;> exact follows
  | testProvisional observed =>
      simp only [phase, reduceCtorEq, false_or] at follows
      simp only [World.load, phase, advance]
      split <;> exact follows
  | testLinks observed =>
      simp only [phase, reduceCtorEq, false_or] at follows
      rw [phase] at knows
      rcases knows with ⟨rests, same, had, settled⟩
      simp only [World.load, phase, advance]
      split
      · exact follows
      · exact rests.isCurrent settled (same.trans follows)
  | claim observed cached =>
      simp only [phase, reduceCtorEq, false_or] at follows
      rw [phase] at knows
      rcases knows with ⟨rests, rfl, seen⟩
      simp only [World.load, phase, advance, if_neg rests.ne_reloading]
      exact follows
  | clearProvisional observed previous =>
      simp only [phase, reduceCtorEq, false_or] at follows
      rw [phase] at knows
      rcases knows.observed.had with ⟨mtime, -, stamp⟩
      have present : observed ≠ chaosIoMtimeMissing :=
        stamp ▸ stamp_ne_missing mtime
      simp only [World.load, phase, advance, if_neg present]
      exact follows
  | forgetContent =>
      rw [phase] at knows
      exact knows.elim
  | openFile observed previous =>
      simp only [phase, reduceCtorEq, false_or] at follows
      simp only [World.load, phase, advance, World.answers]
      exact ⟨follows, List.nil_prefix⟩
  | readFile observed previous data =>
      simp only [phase, reduceCtorEq, false_or] at follows
      rcases follows with ⟨present, read⟩
      simp only [World.load, phase, advance, World.answers, readSoFar]
      exact follows_readChunk present read rfl
  | statFile observed previous data =>
      simp only [phase, reduceCtorEq, false_or] at follows
      have found :
          (world.answers file choice).fstat = some (file.stat world.mtime) :=
        rfl
      simp only [World.load, phase, advance_statFile found]
      split
      · rename_i different
        exact absurd follows.1.symm different
      · exact follows
  | readClock observed previous data stat =>
      simp only [phase, reduceCtorEq, false_or] at follows
      simp only [World.load, phase, advance]
      exact follows
  | compare observed previous data =>
      simp only [phase, reduceCtorEq, false_or] at follows
      simp only [World.load, phase, advance]
      split
      · exact follows
      · exact congrArg loadedOf follows.2
  | linksDue observed previous data =>
      simp only [phase, reduceCtorEq, false_or] at follows
      rw [phase] at knows
      rcases knows with ⟨whole, -, same, source⟩
      simp only [World.load, phase, advance]
      split
      · exact follows
      · exact (parsed_kept whole same source).trans
          (congrArg loadedOf follows.2)
  | linksMoved observed previous data =>
      simp only [phase, reduceCtorEq, false_or] at follows
      rw [phase] at knows
      rcases knows with ⟨whole, -, same, source⟩
      simp only [World.load, phase, advance]
      split
      · exact congrArg loadedOf follows.2
      · exact (parsed_kept whole same source).trans
          (congrArg loadedOf follows.2)
  | linksKept previous =>
      simp only [phase, reduceCtorEq, false_or] at follows
      simp only [World.load, phase, advance]
      exact follows
  | resolve observed hash loaded =>
      simp only [phase, reduceCtorEq, false_or] at follows
      simp only [World.load, phase, advance]
      exact follows
  | storeContent observed hash snapshot =>
      simp only [phase, reduceCtorEq, false_or] at follows
      simp only [World.load, phase, advance]
      exact follows
  | publish observed snapshot =>
      simp only [phase, reduceCtorEq, false_or] at follows
      simp only [World.load, phase, advance]
      exact follows
  | storeStamp observed =>
      simp only [phase, reduceCtorEq, false_or] at follows
      simp only [World.load, phase, advance]
      exact follows
  | keep previous =>
      simp only [phase, reduceCtorEq, false_or] at follows
      simp only [World.load, phase, advance]
      exact follows
  | fail previous =>
      simp only [phase, reduceCtorEq, false_or] at follows
      exact follows.elim

/-- What a publication makes current stays so until the next rewrite. -/
theorem isCurrent_load
    {world : World} (choice : Choice)
    (follows : world.Follows file world.pc) (current : world.IsCurrent) :
    (world.load file choice).IsCurrent := by
  by_cases publishes : ∃ observed snapshot,
      world.pc = .publish observed snapshot
  · rcases publishes with ⟨observed, snapshot, phase⟩
    rw [phase] at follows
    simp only [World.IsCurrent, World.load, phase, advance]
    exact follows
  · have silent : ∀ observed snapshot,
        world.pc ≠ .publish observed snapshot :=
      fun observed snapshot phase => publishes ⟨observed, snapshot, phase⟩
    exact (loaded_advance silent).trans current

/-- What holds of the world in every run that meets the conditions. -/
structure RacyInvariant (file : RuleFile) (world : World) : Prop where
  times : FileInvariant file world
  knows : world.Knows file world.pc
  follows : world.begun = true → world.Follows file world.pc
  checked : world.ended = true → world.begun = true ∧ world.IsCurrent

theorem racyInvariant_initial (start : Start file) :
    RacyInvariant file (initial start) where
  times := fileInvariant_initial start
  knows :=
    { cached := Or.inl rfl
      parsed := fun _ known => absurd rfl known
      relies := fun _ present => absurd present.symm (stamp_ne_unknown _) }
  follows := by simp [initial]
  checked := by simp [initial]

theorem RacyInvariant.load
    {world : World} (racy : RacyInvariant file world) (choice : Choice)
    (recent : RecentOrUnchanged file world world.pc)
    (bytes : SameBytes world world.pc) :
    RacyInvariant file (world.load file choice) := by
  have follows : (world.load file choice).begun = true →
      (world.load file choice).Follows file (world.load file choice).pc := by
    intro begun
    simp only [World.load, Bool.or_eq_true, beq_iff_eq] at begun
    exact follows_load choice racy.knows
      (begun.symm.imp_right racy.follows)
  refine ⟨⟨racy.times.sized, racy.times.listed, racy.times.latest,
    racy.times.written⟩, knows_load racy.times choice recent bytes racy.knows,
    follows, ?_⟩
  intro ended
  simp only [World.load, Bool.or_eq_true, Bool.and_eq_true, beq_iff_eq] at ended
  rcases ended with ended | ⟨begun, idle⟩
  · rcases racy.checked ended with ⟨begun, current⟩
    exact ⟨by simp [World.load, begun],
      isCurrent_load choice (racy.follows begun) current⟩
  · have still : (world.load file choice).begun = true := by
      simp [World.load, begun]
    have found := follows still
    rw [show (world.load file choice).pc = .idle from idle] at found
    exact ⟨still, found⟩

theorem racyInvariant_step
    {world next : World} {action : Action} (racy : RacyInvariant file world)
    (met : Condition file world action)
    (stepped : step file world action = some next) :
    RacyInvariant file next := by
  cases action with
  | pass duration =>
      simp only [step, Option.some.injEq] at stepped
      subst stepped
      exact
        { times := racy.times.pass duration
          knows := knows_pass racy.knows duration
          follows := racy.follows
          checked := racy.checked }
  | rewrite content =>
      simp only [step, Option.ite_none_right_eq_some,
        Option.some.injEq] at stepped
      rcases stepped with ⟨sized, rfl⟩
      exact
        { times := racy.times.rewrite sized
          knows :=
            knows_rewrite ⟨racy.times, sized, met.1, met.2⟩ racy.knows
          follows := by simp [World.rewrite]
          checked := by simp [World.rewrite] }
  | load choice =>
      simp only [step, Option.some.injEq] at stepped
      subst stepped
      exact racy.load choice met.1 met.2

/-! ## Checks end -/

def Action.isRewrite : Action → Bool
  | .rewrite _ => true
  | _ => false

def Action.isLoad : Action → Bool
  | .load _ => true
  | _ => false

/-- No more steps than this are left of a call that is past its `stat`. -/
def stepsLeft (size : Nat) : RefreshPc → Nat
  | .idle | .throttle | .stat => 0
  | .loadStamp _ => size + 16
  | .testProvisional _ => size + 15
  | .testLinks _ => size + 14
  | .claim _ _ => size + 13
  | .clearProvisional _ _ => size + 12
  | .openFile _ _ => size + 11
  | .readFile _ _ data => size - data.length + 10
  | .statFile _ _ _ => 9
  | .readClock _ _ _ _ => 8
  | .compare _ _ _ => 7
  | .linksDue _ _ _ => 6
  | .linksMoved _ _ _ => 5
  | .resolve _ _ _ => 4
  | .storeContent _ _ _ | .forgetContent => 3
  | .publish _ _ | .linksKept _ => 2
  | .storeStamp _ | .keep _ | .fail _ => 1

/-- A chunk of the read loop leaves fewer bytes to read. -/
theorem stepsLeft_readChunk
    {content data : Bytes} {observed previous : UInt64} {size : Nat} :
    0 < stepsLeft content.length
        (readChunk observed previous data
          ((content.drop data.length).take (size + 1))) ∧
      stepsLeft content.length
          (readChunk observed previous data
            ((content.drop data.length).take (size + 1))) <
        stepsLeft content.length (.readFile observed previous data) := by
  unfold readChunk
  split
  · simp [stepsLeft]
  · rename_i more
    have longer : data.length < content.length := by
      by_contra ended
      rw [Nat.not_lt] at ended
      exact more (by simp [ended])
    split
    · simp [stepsLeft]
    · simp only [stepsLeft, List.length_append, List.length_take,
        List.length_drop]
      omega

/-- Each step of a call that is past its `stat` ends it or leaves fewer steps. -/
theorem stepsLeft_load
    {world : World} (sized : world.content.length = file.size)
    (choice : Choice) (pending : 0 < stepsLeft file.size world.pc) :
    (world.load file choice).pc = .idle ∨
      0 < stepsLeft file.size (world.load file choice).pc ∧
        stepsLeft file.size (world.load file choice).pc <
          stepsLeft file.size world.pc := by
  cases phase : world.pc with
  | idle | throttle | stat => simp [phase, stepsLeft] at pending
  | loadStamp | testProvisional | testLinks | clearProvisional | compare
  | linksDue | linksMoved =>
      simp only [World.load, phase, advance]
      split <;> simp [stepsLeft]
  | claim =>
      simp only [World.load, phase, advance]
      split
      · exact Or.inl rfl
      · split <;> simp [stepsLeft]
  | openFile =>
      refine Or.inr ?_
      simp [World.load, phase, advance, World.answers, stepsLeft]
  | readFile observed previous data =>
      refine Or.inr ?_
      simp only [World.load, phase, advance, World.answers, readSoFar, ← sized]
      exact stepsLeft_readChunk
  | statFile =>
      have found :
          (world.answers file choice).fstat = some (file.stat world.mtime) :=
        rfl
      simp only [World.load, phase, advance_statFile found]
      split <;> simp [stepsLeft]
  | readClock | resolve | storeContent | publish | linksKept | forgetContent =>
      simp [World.load, phase, advance, stepsLeft]
  | storeStamp | keep | fail => exact Or.inl (by simp [World.load, phase, advance])

/-- A check that has begun ends when the thread is given the steps it has left. -/
theorem ends_of_loads
    {world : World} {labels : List Action}
    (begun : world.begun = true) (sized : world.content.length = file.size)
    (pending : world.ended = true ∨
      0 < stepsLeft file.size world.pc ∧
        stepsLeft file.size world.pc ≤ labels.countP Action.isLoad)
    (quiet : ∀ action ∈ labels, action.isRewrite = false) :
    ∃ final, run (step file) world labels = some final ∧
      final.ended = true := by
  induction labels generalizing world with
  | nil =>
      rcases pending with ended | ⟨some, none⟩
      · exact ⟨world, rfl, ended⟩
      · exact absurd some (Nat.not_lt.mpr none)
  | cons action rest induction =>
      have later : ∀ other ∈ rest, other.isRewrite = false :=
        fun other member => quiet other (List.mem_cons_of_mem _ member)
      cases action with
      | pass duration =>
          have pending :
              (world.pass duration).ended = true ∨
                0 < stepsLeft file.size (world.pass duration).pc ∧
                  stepsLeft file.size (world.pass duration).pc ≤
                    rest.countP Action.isLoad := by
            simpa [World.pass, Action.isLoad] using pending
          exact induction begun sized pending later
      | rewrite content =>
          have rewritten := quiet (.rewrite content) List.mem_cons_self
          exact absurd rewritten (by simp [Action.isRewrite])
      | load choice =>
          have still : (world.load file choice).begun = true :=
            Bool.or_eq_true_iff.mpr (Or.inl begun)
          have counted :
              (Action.load choice :: rest).countP Action.isLoad =
                rest.countP Action.isLoad + 1 :=
            List.countP_cons_of_pos rfl
          have pending :
              (world.load file choice).ended = true ∨
                0 < stepsLeft file.size (world.load file choice).pc ∧
                  stepsLeft file.size (world.load file choice).pc ≤
                    rest.countP Action.isLoad := by
            rcases pending with ended | ⟨some, enough⟩
            · exact Or.inl (Bool.or_eq_true_iff.mpr (Or.inl ended))
            · rcases stepsLeft_load sized choice some with idle | ⟨more, fewer⟩
              · have here := Bool.and_eq_true_iff.mpr
                  ⟨begun, beq_iff_eq.mpr idle⟩
                exact Or.inl (Bool.or_eq_true_iff.mpr (Or.inr here))
              · exact Or.inr ⟨more, by omega⟩
          exact induction still sized pending later

/-- So does a check that is about to begin. -/
theorem ends_of_stat
    {world : World} {labels : List Action}
    (sized : world.content.length = file.size) (begins : world.pc = .stat)
    (enough : file.size + 17 ≤ labels.countP Action.isLoad)
    (quiet : ∀ action ∈ labels, action.isRewrite = false) :
    ∃ final, run (step file) world labels = some final ∧
      final.ended = true := by
  induction labels generalizing world with
  | nil => exact absurd enough (Nat.not_succ_le_zero _)
  | cons action rest induction =>
      have later : ∀ other ∈ rest, other.isRewrite = false :=
        fun other member => quiet other (List.mem_cons_of_mem _ member)
      cases action with
      | pass duration =>
          have enough : file.size + 17 ≤ rest.countP Action.isLoad := by
            simpa [Action.isLoad] using enough
          have sized : (world.pass duration).content.length = file.size := sized
          exact induction sized begins enough later
      | rewrite content =>
          have rewritten := quiet (.rewrite content) List.mem_cons_self
          exact absurd rewritten (by simp [Action.isRewrite])
      | load choice =>
          have begun : (world.load file choice).begun = true :=
            Bool.or_eq_true_iff.mpr (Or.inr (beq_iff_eq.mpr begins))
          have counted :
              (Action.load choice :: rest).countP Action.isLoad =
                rest.countP Action.isLoad + 1 :=
            List.countP_cons_of_pos rfl
          have pending :
              (world.load file choice).ended = true ∨
                0 < stepsLeft file.size (world.load file choice).pc ∧
                  stepsLeft file.size (world.load file choice).pc ≤
                    rest.countP Action.isLoad := by
            refine Or.inr ?_
            simp only [World.load, begins, advance, stepsLeft]
            omega
          have ends := ends_of_loads begun sized pending later
          exact ends

/--
In every run that meets the conditions, a check that began after the last
rewrite leaves the active snapshot the parse of the file; and a check that
begins when the rewrites have stopped ends so, once the thread is given its
steps.
-/
theorem checked_file_is_current
    (start : Start file) (labels : List Action)
    (conditions : Meets (step file) (Condition file) (initial start) labels) :
    Throughout (step file) CheckedIsCurrent (initial start) labels ∧
      ∀ before after middle, labels = before ++ after →
        run (step file) (initial start) before = some middle →
        middle.pc = .stat →
        (∀ action ∈ after, action.isRewrite = false) →
        file.size + 17 ≤ after.countP Action.isLoad →
          ∃ final, run (step file) (initial start) labels = some final ∧
            final.IsCurrent := by
  have throughout :
      Throughout (step file) (RacyInvariant file) (initial start) labels :=
    throughout_of_meets
      (fun _ _ _ _ racy met stepped => racyInvariant_step racy met stepped)
      (fun label (_ : label ∈ labels) => trivial)
      (racyInvariant_initial start) conditions
  refine ⟨?_, ?_⟩
  · intro before after middle split ran ended
    exact ((throughout before after middle split ran).checked ended).2
  · intro before after middle split ran begins quiet enough
    have racy := throughout before after middle split ran
    rcases ends_of_stat racy.times.sized begins enough quiet with
      ⟨final, rest, ended⟩
    have whole : run (step file) (initial start) labels = some final :=
      split ▸ run_append_eq_some.mpr ⟨middle, ran, rest⟩
    exact ⟨final, whole, ((throughout.final whole).checked ended).2⟩

/-! ## A rewrite between the last read and the clock -/

instance decidableCondition (file : RuleFile) (world : World) :
    ∀ action, Decidable (Condition file world action)
  | .pass _ => isTrue trivial
  | .rewrite content =>
      inferInstanceAs
        (Decidable
          ((∀ earlier ∈ world.mtimes,
              file.stamp earlier = file.stamp (file.clock.tick world.now) →
                earlier = file.clock.tick world.now) ∧
            (file.size < chaosIoMaxConfigBytes →
              world.trusted =
                  some (file.stamp (file.clock.tick world.now)) →
                content = world.content)))
  | .load _ =>
      have recent : Decidable (RecentOrUnchanged file world world.pc) := by
        unfold RecentOrUnchanged
        split <;> infer_instance
      have bytes : Decidable (SameBytes world world.pc) := by
        unfold SameBytes
        split <;> infer_instance
      inferInstanceAs (Decidable (_ ∧ _))

/-- A file system that takes its times every 4 ms. -/
def jiffies : CoarseClock where
  tick now := now / 4000000 * 4000000
  behind now := Nat.div_mul_le_self now 4000000
  within now := by
    simp only [chaosRacyWindowMs, Int.reduceToNat]
    omega
  monotone := fun _ _ later =>
    Nat.mul_le_mul_right _ (Nat.div_le_div_right later)

/-- A rule file with one rule. -/
def oneRuleFile : RuleFile :=
  ⟨jiffies, 16, 7, 1⟩

/-- The file was written as second 1000 began. -/
def justWritten : Start oneRuleFile :=
  ⟨1000000000000, bytes "/a:open:EIO:1.0\n", 1000000000000, by decide,
    by decide⟩

/-- The loading thread takes `count` steps. -/
def loads (count : Nat) : List Action :=
  List.replicate count (.load { monotonicNs := 5000000 })

/-- Another rule, 2 ms later and within the tick, just after the last read. -/
def rewriteAfterRead : List Action :=
  loads 8 ++ [.pass 2000000, .rewrite (bytes "/b:open:EIO:1.0\n")]

/-- The load goes on at once, and the next check begins 8 ms later. -/
def promptLoad : List Action :=
  rewriteAfterRead ++ loads 7 ++ [.pass 8000000] ++ loads 2

theorem checked_file_is_current_promptLoad :
    ∃ final, run (step oneRuleFile) (initial justWritten)
        (promptLoad ++ loads 33) = some final ∧ final.IsCurrent := by
  have conditions :
      Meets (step oneRuleFile) (Condition oneRuleFile) (initial justWritten)
        (promptLoad ++ loads 33) := by
    decide +kernel
  have begins :
      (run (step oneRuleFile) (initial justWritten) promptLoad).map World.pc =
        some .stat := by
    decide +kernel
  rcases Option.map_eq_some_iff.mp begins with ⟨middle, ran, begins⟩
  exact
    (checked_file_is_current justWritten (promptLoad ++ loads 33)
      conditions).2 promptLoad (loads 33) middle rfl ran begins (by decide)
      (by decide)

/--
The thread is preempted for 25 ms before it reads the clock; then comes a
whole check.
-/
def preemptedLoad : List Action :=
  rewriteAfterRead ++ loads 1 ++ [.pass 25000000] ++ loads 6 ++
    [.pass 8000000] ++ loads 6

/-- The rewrite is missed, and the stamp is trusted from there on. -/
theorem preemptedLoad_misses_rewrite :
    ∃ final, run (step oneRuleFile) (initial justWritten) preemptedLoad =
        some final ∧
      final.ended = true ∧ final.content = bytes "/b:open:EIO:1.0\n" ∧
      final.cache.active.loaded = loadedOf (bytes "/a:open:EIO:1.0\n") ∧
      final.trusted = some (oneRuleFile.stamp final.mtime) ∧
      ¬ CheckedIsCurrent final := by
  have ended :
      (run (step oneRuleFile) (initial justWritten) preemptedLoad).map
          (fun final =>
            (final.ended, final.content, final.cache.active.loaded,
              final.trusted, oneRuleFile.stamp final.mtime)) =
        some (true, bytes "/b:open:EIO:1.0\n",
          loadedOf (bytes "/a:open:EIO:1.0\n"),
          some (oneRuleFile.stamp 1000000000000),
          oneRuleFile.stamp 1000000000000) := by
    decide +kernel
  have different :
      loadedOf (bytes "/a:open:EIO:1.0\n") ≠
        loadedOf (bytes "/b:open:EIO:1.0\n") := by
    decide +kernel
  rcases Option.map_eq_some_iff.mp ended with ⟨final, ran, values⟩
  simp only [Prod.mk.injEq] at values
  rcases values with ⟨ended, content, loaded, trusted, stamp⟩
  refine ⟨final, ran, ended, content, loaded, trusted.trans
    (congrArg some stamp.symm), ?_⟩
  intro current
  have found : final.cache.active.loaded = loadedOf final.content :=
    current ended
  rw [loaded, content] at found
  exact different found

end ChaosLibs.Io.RacyRefresh
