import ChaosLibs.Io.RefreshThreads

/-!
# Publications and file states

Threads that refresh while the rule file is created, replaced and removed.
Every state of the file is immutable: a new file takes the name of the old
one, and a descriptor that is already open keeps reading the old one.

A file is opened under the reload claim, so what a reload reads is never older
than what the reload before it read.  The absence of a file is observed before
the claim, by the `stat` of the call, and nothing looks again: the publication
of the empty snapshot is in order only as long as that observation is.
-/

namespace ChaosLibs.Io.RefreshOrder

open ChaosLibs.Machine
open ChaosLibs.Common.CString
open ChaosLibs.Common.StatusText
open ChaosLibs.Io.ChangeStamp
open ChaosLibs.Io.Rule
open ChaosLibs.Io.ConfigParser
open ChaosLibs.Io.Refresh
open ChaosLibs.Io.RefreshThreads

/-! ## The file and the machine -/

/-- One state of the rule file's name. -/
inductive FileState where
  | missing
  | file (stat : FileStat) (content : Bytes)
deriving DecidableEq, Repr

/-- What `stat` returns for a file state. -/
def FileState.stat : FileState → Option FileStat
  | .missing => none
  | .file stat _ => some stat

/-- The bytes behind a descriptor opened in a file state. -/
def FileState.content : FileState → Bytes
  | .missing => []
  | .file _ content => content

/-- How the read of a chunk may go. -/
inductive ReadChoice where
  /-- At most `size + 1` bytes. -/
  | chunk (size : Nat)
  | interrupted
  | isDirectory
  | failed
deriving DecidableEq, Repr

/-- What is left to chance when the file answers a step. -/
structure Choice where
  monotonicNs : UInt64 := 0
  monotonicMs : UInt64 := 0
  realtimeMs : Int := 0
  opened : OpenAnswer := .opened
  read : ReadChoice := .chunk 4095
  fstatFails : Bool := false
  moved : Bool := false
  links : Bool := false

/--
A process and the states the file has gone through, the current one at `now`.
The ghost part: `seen` and `opened` give, for each thread, the state its last
`stat` and its last `open` found; `published` lists the states the published
snapshots were read from, the newest first.
-/
structure World where
  process : Process
  files : Nat → FileState
  now : Nat
  seen : Nat → Nat
  opened : Nat → Nat
  published : List Nat

/-- After `chaos_io_config_init`, the file in the state `start`. -/
def initial (start : FileState) : World :=
  ⟨Process.initial, fun _ => start, 0, fun _ => 0, fun _ => 0, []⟩

/-- What `open` comes to in a file state. -/
def openAnswer : FileState → OpenAnswer → OpenAnswer
  | .missing, .interrupted => .interrupted
  | .missing, _ => .failed
  | .file _ _, answer => answer

/-- What `read` comes to on a descriptor of a file with this content. -/
def readAnswer (content soFar : Bytes) : ReadChoice → ReadAnswer
  | .chunk size => .bytes ((content.drop soFar.length).take (size + 1))
  | .interrupted => .interrupted
  | .isDirectory => .isDirectory
  | .failed => .failed

/-- The answers the file gives to a thread's step. -/
def World.answers (world : World) (thread : Nat) (choice : Choice) : Answers where
  monotonicNs := choice.monotonicNs
  monotonicMs := choice.monotonicMs
  realtimeMs := choice.realtimeMs
  stat := (world.files world.now).stat
  opened := openAnswer (world.files world.now) choice.opened
  read :=
    readAnswer (world.files (world.opened thread)).content
      (readSoFar (world.process.threads thread)) choice.read
  fstat :=
    if choice.fstatFails then none
    else (world.files (world.opened thread)).stat
  moved := choice.moved
  links := choice.links

/-- What can happen next. -/
inductive Action where
  /-- The file is created, replaced or removed. -/
  | change (next : FileState)
  /-- A thread takes its next step. -/
  | thread (thread : Nat) (choice : Choice)

/-- The ghost record of a thread's step. -/
def World.record (world : World) (thread : Nat) : World :=
  match world.process.threads thread with
  | .stat => { world with seen := Function.update world.seen thread world.now }
  | .openFile _ _ =>
      { world with opened := Function.update world.opened thread world.now }
  | .publish observed _ =>
      { world with
        published :=
          (if observed = chaosIoMtimeMissing then world.seen thread
            else world.opened thread) :: world.published }
  | _ => world

/-- One step of the world. -/
def step (world : World) : Action → Option World
  | .change next =>
      some
        { world with
          files := Function.update world.files (world.now + 1) next
          now := world.now + 1 }
  | .thread thread choice =>
      some
        { world.record thread with
          process :=
            world.process.advance thread (world.answers thread choice) }

/-! ## The property -/

/-- A snapshot made from a file state. -/
def LoadedFrom : FileState → Loaded → Prop
  | .missing, loaded => loaded = .missing
  | .file _ content, loaded =>
      loaded = loadedOf content ∨
        loaded = chaosIoConfigRejectFile .unreadable

/--
No publication was made from an older file state than an earlier one, and the
active snapshot is made from the file state recorded last.
-/
structure NeverOlder (world : World) : Prop where
  ordered : world.published.Pairwise fun newer older => older ≤ newer
  corresponds : ∀ source ∈ world.published.head?,
    LoadedFrom (world.files source) world.process.cache.active.loaded

/--
Condition on a claim: a thread that observed the file as missing wins the
claim only when no snapshot has been published from a later file state.
-/
def MissingIsCurrent (world : World) : Action → Prop
  | .change _ => True
  | .thread thread _ =>
      world.process.threads thread =
          .claim chaosIoMtimeMissing world.process.cache.cached →
        world.process.cache.cached ≠ chaosIoMtimeReloading →
          ∀ source ∈ world.published, source ≤ world.seen thread

/-! ## The invariant -/

/-- The stamp is that of the file state the thread's `stat` found. -/
def World.Saw (world : World) (thread : Nat) (observed : UInt64) : Prop :=
  world.seen thread ≤ world.now ∧
    observed =
      chaosIoConfigObservedMtime (world.files (world.seen thread)).stat

/-- A file state no snapshot has been published after. -/
def World.Newest (world : World) (source : Nat) : Prop :=
  source ≤ world.now ∧ ∀ other ∈ world.published, other ≤ source

/-- The thread's descriptor is that of a file whose content satisfies `property`. -/
def World.Reads
    (world : World) (thread : Nat) (property : Bytes → Prop) : Prop :=
  world.Newest (world.opened thread) ∧
    ∃ stat content,
      world.files (world.opened thread) = .file stat content ∧
        property content

/-- The snapshot is made from the file the thread opened. -/
def World.Loads (world : World) (thread : Nat) (loaded : Loaded) : Prop :=
  world.Newest (world.opened thread) ∧
    LoadedFrom (world.files (world.opened thread)) loaded

/-- A reload that publishes the absence of the file. -/
def World.FindsMissing (world : World) (thread : Nat) : Prop :=
  world.Newest (world.seen thread) ∧
    world.files (world.seen thread) = .missing

/-- What a thread knows of the file, by where it stands. -/
def World.Knows (world : World) (thread : Nat) : RefreshPc → Prop
  | .loadStamp observed | .testProvisional observed | .testLinks observed
  | .claim observed _ => world.Saw thread observed
  | .clearProvisional observed _ =>
      world.Saw thread observed ∧
        (observed = chaosIoMtimeMissing → world.Newest (world.seen thread))
  | .forgetContent => world.FindsMissing thread
  | .openFile observed _ => observed ≠ chaosIoMtimeMissing
  | .readFile observed _ data =>
      observed ≠ chaosIoMtimeMissing ∧
        world.Reads thread fun content => data <+: content
  | .statFile observed _ data | .readClock observed _ data _
  | .compare observed _ data | .linksDue observed _ data
  | .linksMoved observed _ data =>
      observed ≠ chaosIoMtimeMissing ∧
        world.Reads thread fun content => data = content
  | .resolve observed _ loaded =>
      observed ≠ chaosIoMtimeMissing ∧ world.Loads thread loaded
  | .storeContent observed _ snapshot =>
      observed ≠ chaosIoMtimeMissing ∧ world.Loads thread snapshot.loaded
  | .publish observed snapshot =>
      (observed = chaosIoMtimeMissing ∧ world.FindsMissing thread ∧
        snapshot.loaded = .missing) ∨
        (observed ≠ chaosIoMtimeMissing ∧ world.Loads thread snapshot.loaded)
  | .idle | .throttle | .stat | .linksKept _ | .storeStamp _ | .keep _
  | .fail _ => True

/-- The claim is exclusive, publications are in order, and threads know their files. -/
structure OrderInvariant (world : World) : Prop where
  exclusive : Exclusive world.process
  ordered : NeverOlder world
  past : ∀ source ∈ world.published, source ≤ world.now
  knows : ∀ thread, world.Knows thread (world.process.threads thread)

theorem orderInvariant_initial (start : FileState) :
    OrderInvariant (initial start) where
  exclusive := exclusive_initial
  ordered := by constructor <;> simp [initial]
  past := by simp [initial]
  knows := fun _ => trivial

/-! ## Changes of the file -/

theorem files_change
    {world : World} {next : FileState} {version : Nat}
    (past : version ≤ world.now) :
    Function.update world.files (world.now + 1) next version =
      world.files version := by
  rw [Function.update_of_ne (by omega)]

theorem knows_change
    {world : World} {next : FileState} {thread : Nat} {pc : RefreshPc}
    (knows : world.Knows thread pc) :
    World.Knows
      { world with
        files := Function.update world.files (world.now + 1) next
        now := world.now + 1 }
      thread pc := by
  cases pc <;> simp only [World.Knows, World.Saw, World.FindsMissing,
    World.Reads, World.Loads, World.Newest] at knows ⊢ <;>
    grind [files_change]

theorem orderInvariant_change
    {world : World} (order : OrderInvariant world) (next : FileState) :
    OrderInvariant
      { world with
        files := Function.update world.files (world.now + 1) next
        now := world.now + 1 } where
  exclusive := order.exclusive
  ordered :=
    { ordered := order.ordered.ordered
      corresponds := by
        intro source newest
        have past := order.past source (List.mem_of_mem_head? newest)
        simp only [files_change past]
        exact order.ordered.corresponds source newest }
  past := fun source member => Nat.le_succ_of_le (order.past source member)
  knows := fun thread => knows_change (order.knows thread)

/-! ## Steps of a thread -/

/-- The other threads know what they knew. -/
theorem knows_record_other
    {world : World} (order : OrderInvariant world) {thread other : Nat}
    (different : other ≠ thread) :
    (world.record thread).Knows other (world.process.threads other) := by
  have knows := order.knows other
  cases phase : world.process.threads thread with
  | stat =>
      simp only [World.record, phase]
      cases pc : world.process.threads other <;>
        simp_all [World.Knows, World.Saw, World.FindsMissing, World.Reads,
          World.Loads, World.Newest]
  | openFile observed previous =>
      simp only [World.record, phase]
      cases pc : world.process.threads other <;>
        simp_all [World.Knows, World.Saw, World.FindsMissing, World.Reads,
          World.Loads, World.Newest]
  | publish observed snapshot =>
      -- the publisher holds the claim, so the other thread is before its own
      have outside := order.exclusive.not_owns (by simp [phase, owns]) different
      simp only [World.record, phase]
      cases pc : world.process.threads other <;>
        simp_all [owns, World.Knows, World.Saw]
  | _ => simpa only [World.record, phase] using knows

theorem loads_of_reads
    {world : World} {thread : Nat} {data : Bytes}
    (reads : world.Reads thread fun content => data = content) :
    world.Loads thread (loadedOf data) := by
  rcases reads with ⟨newest, stat, content, file, rfl⟩
  refine ⟨newest, ?_⟩
  rw [file]
  exact Or.inl rfl

theorem loads_unreadable
    {world : World} {thread : Nat} {property : Bytes → Prop}
    (reads : world.Reads thread property) :
    world.Loads thread (chaosIoConfigRejectFile .unreadable) := by
  rcases reads with ⟨newest, stat, content, file, -⟩
  refine ⟨newest, ?_⟩
  rw [file]
  exact Or.inr rfl

/-- What a chunk of the read loop leaves the thread knowing. -/
theorem knows_readChunk
    {world : World} {thread : Nat} {observed previous : UInt64} {data : Bytes}
    {size : Nat} (present : observed ≠ chaosIoMtimeMissing)
    (reads : world.Reads thread fun content => data <+: content) :
    world.Knows thread
      (readChunk observed previous data
        (((world.files (world.opened thread)).content.drop data.length).take
          (size + 1))) := by
  rcases reads with ⟨newest, stat, content, file, read⟩
  simp only [file, FileState.content, readChunk]
  split
  · rename_i ended
    exact ⟨present, newest, stat, content, file, eq_of_readChunk_nil read ended⟩
  · split
    · rename_i full
      refine ⟨present, newest, ?_⟩
      rw [file]
      exact Or.inl
        (loadedOf_tooLarge
          (full.trans (prefix_readChunk read).length_le)).symm
    · exact ⟨present, newest, stat, content, file, prefix_readChunk read⟩

/-- A claim that is won leaves the thread knowing what it clears. -/
theorem knows_claim
    {world : World} {thread : Nat} {choice : Choice} {observed cached : UInt64}
    (saw : world.Saw thread observed)
    (phase : world.process.threads thread = .claim observed cached)
    (current : MissingIsCurrent world (.thread thread choice))
    (answers : Answers) :
    world.Knows thread
      (advance world.process.cache (.claim observed cached) answers).2 := by
  simp only [advance]
  split
  · trivial
  · rename_i free
    split
    · rename_i same
      refine ⟨saw, ?_⟩
      intro missing
      rw [missing, ← same] at phase
      rw [← same] at free
      exact ⟨saw.1, current phase free⟩
    · trivial

/-- The reload of a missing file starts from a state without the file. -/
theorem knows_clearProvisional
    {world : World} {thread : Nat} {observed previous : UInt64}
    (saw : world.Saw thread observed)
    (newest : observed = chaosIoMtimeMissing → world.Newest (world.seen thread))
    (answers : Answers) :
    world.Knows thread
      (advance world.process.cache (.clearProvisional observed previous)
        answers).2 := by
  simp only [advance]
  split
  · rename_i missing
    refine ⟨newest missing, ?_⟩
    have stamp := saw.2
    rw [missing] at stamp
    cases file : world.files (world.seen thread) with
    | missing => rfl
    | file stat content =>
        rw [file] at stamp
        exact absurd stamp.symm (chaosIoConfigHashMtime_ne_missing stat)
  · rename_i present
    exact present

/-- A thread that opens the file under its claim opens the newest state. -/
theorem knows_openFile
    {world : World} (order : OrderInvariant world) {thread : Nat}
    {choice : Choice} {observed previous : UInt64}
    (present : observed ≠ chaosIoMtimeMissing) :
    World.Knows
      { world with opened := Function.update world.opened thread world.now }
      thread
      (advance world.process.cache (.openFile observed previous)
        (world.answers thread choice)).2 := by
  have newest : ∀ other ∈ world.published, other ≤ world.now := order.past
  cases file : world.files world.now with
  | missing =>
      cases opened : choice.opened <;>
        simp [advance, World.answers, openAnswer, file, opened, World.Knows,
          present]
  | file stat content =>
      have reads : World.Reads
          { world with opened := Function.update world.opened thread world.now }
          thread fun content => [] <+: content := by
        refine ⟨⟨by simp, by simpa using newest⟩, stat, content, ?_, ?_⟩
        · simpa using file
        · exact List.nil_prefix
      cases opened : choice.opened with
      | opened =>
          simp only [advance, World.answers, openAnswer, file, opened]
          exact ⟨present, reads⟩
      | denied =>
          simp only [advance, World.answers, openAnswer, file, opened]
          exact ⟨present, loads_unreadable reads⟩
      | interrupted =>
          simp [advance, World.answers, openAnswer, file, opened, World.Knows,
            present]
      | failed =>
          simp [advance, World.answers, openAnswer, file, opened, World.Knows]

/-- The thread that takes the step knows its file after it. -/
theorem knows_record_self
    {world : World} (order : OrderInvariant world) {thread : Nat}
    {choice : Choice}
    (current : MissingIsCurrent world (.thread thread choice)) :
    (world.record thread).Knows thread
      (advance world.process.cache (world.process.threads thread)
        (world.answers thread choice)).2 := by
  have knows := order.knows thread
  cases phase : world.process.threads thread with
  | idle =>
      simp only [World.record, phase, advance]
      split <;> trivial
  | throttle =>
      simp only [World.record, phase, advance]
      split <;> trivial
  | stat =>
      simp only [World.record, phase, advance, World.Knows, World.Saw,
        World.answers, Function.update_self]
      exact ⟨le_refl _, trivial⟩
  | loadStamp observed =>
      rw [phase] at knows
      simp only [World.record, phase, advance]
      split <;> exact knows
  | testProvisional observed =>
      rw [phase] at knows
      simp only [World.record, phase, advance]
      split <;> exact knows
  | testLinks observed =>
      rw [phase] at knows
      simp only [World.record, phase, advance]
      split
      · exact knows
      · trivial
  | claim observed cached =>
      rw [phase] at knows
      simp only [World.record, phase]
      exact knows_claim knows phase current _
  | clearProvisional observed previous =>
      rw [phase] at knows
      rcases knows with ⟨saw, newest⟩
      simp only [World.record, phase]
      exact knows_clearProvisional saw newest _
  | forgetContent =>
      rw [phase] at knows
      simp only [World.record, phase, advance]
      exact Or.inl ⟨rfl, knows, rfl⟩
  | openFile observed previous =>
      rw [phase] at knows
      simp only [World.record, phase]
      exact knows_openFile order knows
  | readFile observed previous data =>
      rw [phase] at knows
      rcases knows with ⟨present, reads⟩
      simp only [World.record, phase]
      cases read : choice.read with
      | chunk size =>
          simp only [advance, World.answers, readAnswer, read, readSoFar, phase]
          exact knows_readChunk present reads
      | interrupted =>
          simp only [advance, World.answers, readAnswer, read]
          exact ⟨present, reads⟩
      | isDirectory =>
          simp only [advance, World.answers, readAnswer, read]
          exact ⟨present, loads_unreadable reads⟩
      | failed =>
          simp only [advance, World.answers, readAnswer, read]
          trivial
  | statFile observed previous data =>
      rw [phase] at knows
      simp only [World.record, phase, advance]
      split
      · trivial
      · split
        · trivial
        · exact knows
  | readClock observed previous data stat =>
      rw [phase] at knows
      simp only [World.record, phase, advance]
      exact knows
  | compare observed previous data =>
      rw [phase] at knows
      rcases knows with ⟨present, reads⟩
      simp only [World.record, phase, advance]
      split
      · exact ⟨present, reads⟩
      · exact ⟨present, loads_of_reads reads⟩
  | linksDue observed previous data =>
      rw [phase] at knows
      simp only [World.record, phase, advance]
      split
      · exact knows
      · trivial
  | linksMoved observed previous data =>
      rw [phase] at knows
      rcases knows with ⟨present, reads⟩
      simp only [World.record, phase, advance]
      split
      · exact ⟨present, loads_of_reads reads⟩
      · trivial
  | resolve observed content loaded =>
      rw [phase] at knows
      simp only [World.record, phase, advance]
      exact knows
  | storeContent observed content snapshot =>
      rw [phase] at knows
      simp only [World.record, phase, advance]
      exact Or.inr knows
  | linksKept previous => trivial
  | publish observed snapshot => trivial
  | storeStamp observed => trivial
  | keep previous => trivial
  | fail previous => trivial

/-- The file state a publication is made from is the newest one published. -/
theorem knows_publish
    {world : World} {thread : Nat} {observed : UInt64} {snapshot : Snapshot}
    (knows : world.Knows thread (.publish observed snapshot)) :
    world.Newest
        (if observed = chaosIoMtimeMissing then world.seen thread
          else world.opened thread) ∧
      LoadedFrom
        (world.files
          (if observed = chaosIoMtimeMissing then world.seen thread
            else world.opened thread))
        snapshot.loaded := by
  rcases knows with ⟨missing, finds, loaded⟩ | ⟨present, loads⟩
  · rw [if_pos missing]
    refine ⟨finds.1, ?_⟩
    rw [finds.2]
    exact loaded
  · rw [if_neg present]
    exact loads

theorem files_record (world : World) (thread : Nat) :
    (world.record thread).files = world.files := by
  unfold World.record
  split <;> rfl

theorem now_record (world : World) (thread : Nat) :
    (world.record thread).now = world.now := by
  unfold World.record
  split <;> rfl

/-- Only a publication is recorded as one. -/
theorem published_record
    {world : World} {thread : Nat}
    (silent : ∀ observed snapshot,
      world.process.threads thread ≠ .publish observed snapshot) :
    (world.record thread).published = world.published := by
  unfold World.record
  split
  · rfl
  · rfl
  · rename_i phase
    exact absurd phase (silent _ _)
  · rfl

theorem neverOlder_advance
    {world : World} (order : OrderInvariant world) (thread : Nat)
    (choice : Choice) :
    NeverOlder
      { world.record thread with
        process := world.process.advance thread (world.answers thread choice) } :=
    by
  by_cases publishes : ∃ observed snapshot,
      world.process.threads thread = .publish observed snapshot
  · rcases publishes with ⟨observed, snapshot, phase⟩
    have knows := order.knows thread
    rw [phase] at knows
    rcases knows_publish knows with ⟨newest, loaded⟩
    constructor
    · simp only [World.record, phase]
      exact List.pairwise_cons.mpr ⟨newest.2, order.ordered.ordered⟩
    · simp only [World.record, phase, Process.advance, advance]
      simpa using loaded
  · have silent : ∀ observed snapshot,
        world.process.threads thread ≠ .publish observed snapshot :=
      fun observed snapshot phase => publishes ⟨observed, snapshot, phase⟩
    have loaded :
        (world.process.advance thread
            (world.answers thread choice)).cache.active.loaded =
          world.process.cache.active.loaded :=
      loaded_advance silent
    constructor
    · simp only [published_record silent]
      exact order.ordered.ordered
    · simp only [published_record silent, files_record, loaded]
      exact order.ordered.corresponds

theorem past_record
    {world : World} (order : OrderInvariant world) (thread : Nat) :
    ∀ source ∈ (world.record thread).published, source ≤ world.now := by
  by_cases publishes : ∃ observed snapshot,
      world.process.threads thread = .publish observed snapshot
  · rcases publishes with ⟨observed, snapshot, phase⟩
    have knows := order.knows thread
    rw [phase] at knows
    simp only [World.record, phase, List.forall_mem_cons]
    exact ⟨(knows_publish knows).1.1, order.past⟩
  · rw [published_record fun observed snapshot phase =>
      publishes ⟨observed, snapshot, phase⟩]
    exact order.past

theorem orderInvariant_step
    {world next : World} {action : Action} (order : OrderInvariant world)
    (current : MissingIsCurrent world action)
    (stepped : step world action = some next) : OrderInvariant next := by
  cases action with
  | change state =>
      simp only [step, Option.some.injEq] at stepped
      subst stepped
      exact orderInvariant_change order state
  | thread thread choice =>
      simp only [step, Option.some.injEq] at stepped
      subst stepped
      refine ⟨?_, neverOlder_advance order thread choice, ?_, ?_⟩
      · exact exclusive_advance order.exclusive thread _
      · intro source member
        rw [show ({ world.record thread with
            process := world.process.advance thread
              (world.answers thread choice) } : World).now = world.now from
          now_record world thread]
        exact past_record order thread source member
      · intro other
        simp only [Process.advance, Function.update_apply]
        split
        · rename_i same
          subst same
          exact knows_record_self order current
        · rename_i different
          exact knows_record_other order different

/--
In every run in which no thread wins the claim on an observation of the
missing file that is older than a publication, no publication is made from an
older state of the file than the one before it.
-/
theorem publications_never_older
    (start : FileState) (labels : List Action)
    (current : Meets step MissingIsCurrent (initial start) labels) :
    Throughout step NeverOlder (initial start) labels := by
  have throughout : Throughout step OrderInvariant (initial start) labels :=
    throughout_of_meets
      (fun _ _ _ _ order current stepped =>
        orderInvariant_step order current stepped)
      (fun label (_ : label ∈ labels) => trivial)
      (orderInvariant_initial start) current
  intro before after middle split ran
  exact (throughout before after middle split ran).ordered

/-! ## A late observation of the missing file -/

instance decidableMissingIsCurrent (world : World) :
    ∀ action, Decidable (MissingIsCurrent world action)
  | .change _ => isTrue trivial
  | .thread thread _ =>
      inferInstanceAs
        (Decidable
          (world.process.threads thread =
              .claim chaosIoMtimeMissing world.process.cache.cached →
            world.process.cache.cached ≠ chaosIoMtimeReloading →
              ∀ source ∈ world.published, source ≤ world.seen thread))

/-- A file with one rule, written in second `sec`. -/
def ruleFile (sec : Int) : FileState :=
  .file ⟨sec, 0, 16, 7, 1⟩ (bytes "/a:open:EIO:1.0\n")

/-- A thread takes `count` steps, each answered in the plainest way. -/
def turns (thread count : Nat) : List Action :=
  List.replicate count (.thread thread {})

/-- The file is created and loaded, then removed and found missing. -/
def loadThenRemove : List Action :=
  .change (ruleFile 1000) :: turns 0 15 ++
    .change .missing :: turns 1 1 ++
    .thread 1 { monotonicNs := 5000000 } :: turns 1 7

theorem publications_never_older_loadThenRemove :
    Throughout step NeverOlder (initial .missing) loadThenRemove ∧
      (run step (initial .missing) loadThenRemove).map World.published =
        some [2, 1] :=
  ⟨publications_never_older .missing loadThenRemove (by decide +kernel),
    by decide +kernel⟩

/--
Thread 0 observes the missing file, the file is created, thread 1 loads it,
and thread 0 goes on with its call.
-/
def lateMissing : List Action :=
  turns 0 2 ++ .change (ruleFile 1000) :: turns 1 15 ++ turns 0 5

/-- The empty snapshot of file state 0 replaces the one read from state 1. -/
theorem lateMissing_publishes_older :
    ∃ final, run step (initial .missing) lateMissing = some final ∧
      final.published = [0, 1] ∧ final.files final.now = ruleFile 1000 ∧
      final.process.cache.active = Snapshot.empty ∧ ¬ NeverOlder final := by
  have ended :
      (run step (initial .missing) lateMissing).map
          (fun final =>
            (final.published, final.files final.now,
              final.process.cache.active)) =
        some ([0, 1], ruleFile 1000, Snapshot.empty) := by
    decide +kernel
  rcases Option.map_eq_some_iff.mp ended with ⟨final, ran, values⟩
  simp only [Prod.mk.injEq] at values
  rcases values with ⟨published, file, active⟩
  refine ⟨final, ran, published, file, active, ?_⟩
  intro order
  have ordered := order.ordered
  rw [published] at ordered
  simp at ordered

end ChaosLibs.Io.RefreshOrder
