import ChaosLibs.Machine.LabelledRun
import ChaosLibs.Machine.ReadProgram
import Mathlib.Logic.Function.Basic

/-!
# The two snapshots and their sequence words

The seqlock of `chaos_hits.h` as the libraries use it: two snapshots, the
inactive one rewritten by the owner of the reload claim, and any number of
threads that copy a rule out of the snapshot they found active.  What the
snapshots hold is a parameter, and so is what a reload stores.

The sequence word lies inside the snapshot, so the `memset` of a reset clears
it together with the rules and a later store restores it.  In between the word
is 0: even, and equal to itself.
-/

namespace ChaosLibs.Common.SnapshotSeqlock

open ChaosLibs.Machine

/-! ## The sequence word -/

/-- `chaos_snapshot_write_begin`. -/
def chaosSnapshotWriteBegin (sequence : UInt64) : UInt64 :=
  if sequence &&& 1 = 0 then sequence + 1 else sequence

/-- `chaos_snapshot_write_end`. -/
def chaosSnapshotWriteEnd (sequence : UInt64) : UInt64 :=
  if sequence &&& 1 ≠ 0 then sequence + 1 else sequence

/-- `chaos_snapshot_read_valid`, `begin` being what `read_begin` returned. -/
def chaosSnapshotReadValid (sequence start : UInt64) : Bool :=
  start &&& 1 = 0 && sequence = start

/--
Where a snapshot stands: how many times it has been completed, whether it is
being rewritten, and whether a `memset` has cleared the sequence word.
-/
structure Phase where
  completed : Nat
  rewriting : Bool
  zeroed : Bool
deriving DecidableEq, Repr

/-- The sequence word of a snapshot whose word is not cleared. -/
def Phase.word (phase : Phase) : UInt64 :=
  UInt64.ofNat (2 * phase.completed + phase.rewriting.toNat)

theorem and_one_eq_zero (number : Nat) :
    UInt64.ofNat number &&& 1 = 0 ↔ number % 2 = 0 := by
  rw [← UInt64.toNat_inj, UInt64.toNat_and, UInt64.toNat_ofNat']
  change number % 2 ^ 64 &&& 1 = 0 ↔ _
  rw [Nat.and_one_is_mod]
  omega

/-- The word is even when the snapshot is not being rewritten. -/
theorem Phase.word_and_one (phase : Phase) :
    phase.word &&& 1 = 0 ↔ phase.rewriting = false := by
  rw [Phase.word, and_one_eq_zero]
  cases phase.rewriting with
  | false => simp
  | true => simp [Nat.add_mod]

/-- The beginning of a rewrite leaves the word odd. -/
theorem chaosSnapshotWriteBegin_word (phase : Phase) :
    chaosSnapshotWriteBegin phase.word =
      { phase with rewriting := true }.word := by
  unfold chaosSnapshotWriteBegin
  split
  · rename_i even
    have settled := phase.word_and_one.mp even
    simp [Phase.word, settled]
  · rename_i odd
    rw [phase.word_and_one, Bool.not_eq_false] at odd
    simp [Phase.word, odd]

/-- The end of a rewrite leaves it even. -/
theorem chaosSnapshotWriteEnd_word
    {phase : Phase} (rewriting : phase.rewriting = true) :
    chaosSnapshotWriteEnd phase.word =
      { phase with
        completed := phase.completed + 1
        rewriting := false }.word := by
  have odd : phase.word &&& 1 ≠ 0 := by
    rw [Ne, phase.word_and_one, rewriting]
    exact Bool.noConfusion
  rw [chaosSnapshotWriteEnd, if_pos odd]
  simp only [Phase.word, rewriting, Bool.toNat_true, Bool.toNat_false]
  calc
    UInt64.ofNat (2 * phase.completed + 1) + 1 =
        UInt64.ofNat (2 * phase.completed + 1 + 1) :=
      (UInt64.ofNat_add _ 1).symm
    _ = UInt64.ofNat (2 * (phase.completed + 1) + 0) :=
      congrArg UInt64.ofNat (by omega)

/-- Two words that agree belong to the same rewrite, or a wrap lies between. -/
theorem Phase.completed_eq_of_word
    {early late : Phase} (later : early.completed ≤ late.completed)
    (near : late.completed < early.completed + 2 ^ 63)
    (same : early.word = late.word) (settled : early.rewriting = false) :
    late.completed = early.completed ∧ late.rewriting = false := by
  have even : late.rewriting = false := by
    rw [← late.word_and_one, ← same, early.word_and_one]
    exact settled
  refine ⟨?_, even⟩
  simp only [Phase.word, settled, even, Bool.toNat_false, Nat.add_zero,
    ← UInt64.toNat_inj, UInt64.toNat_ofNat'] at same
  change 2 * early.completed % 2 ^ 64 = 2 * late.completed % 2 ^ 64 at same
  omega

/-! ## The machine -/

/-- What a library keeps in its snapshots, and how it copies a rule out. -/
structure Layout (Cell : Type) (Value : Cell → Type) (Call Copy : Type) where
  /-- What a cell holds when all its bytes are 0. -/
  cleared : ∀ cell, Value cell
  /-- The reads of a call between the two looks at the sequence word. -/
  copyRule : Call → ReadProgram Cell Value (Option Copy)

/-- A snapshot; `phase` is its ghost part. -/
structure Snapshot (Cell : Type) (Value : Cell → Type) where
  sequence : UInt64
  memory : ∀ cell, Value cell
  phase : Phase

/-- Where the owner of the reload claim stands; `idle` when there is none. -/
inductive WriterPc where
  | idle
  | writeBegin (index : Fin 2)
  | saveSequence (index : Fin 2)
  | clear (index : Fin 2) (saved : UInt64)
  | restoreSequence (index : Fin 2) (saved : UInt64)
  | fill (index : Fin 2)
  | storeIndex (index : Fin 2)
deriving DecidableEq, Repr

/-- The step a reload takes next. -/
inductive WriterStep (Cell : Type) (Value : Cell → Type) where
  /-- The claim is won. -/
  | claim
  /-- The one step there is. -/
  | next
  /-- The `memset` clears the sequence word. -/
  | clearSequence
  /-- The `memset` clears another cell. -/
  | clear (cell : Cell)
  /-- The `memset` clears what it has not cleared yet and returns. -/
  | cleared
  /-- The reload stores into the snapshot. -/
  | store (cell : Cell) (value : Value cell)
  /-- The file is rejected: the snapshot is reset once more. -/
  | reset
  /-- The claim is released and nothing published. -/
  | abort
  /-- The publication begins: `chaos_snapshot_write_end`. -/
  | writeEnd

/-- Where a matching thread stands; `idle` between calls. -/
inductive ReaderPc
    (Cell : Type) (Value : Cell → Type) (Call Copy : Type) where
  | idle
  | readBegin (call : Call) (index : Fin 2)
  | copy (call : Call) (index : Fin 2) (start : UInt64)
      (program : ReadProgram Cell Value (Option Copy))
  | readValid (call : Call) (index : Fin 2) (start : UInt64) (copy : Copy)

/-- What can happen next. -/
inductive Action (Cell : Type) (Value : Cell → Type) (Call : Type) where
  | writer (step : WriterStep Cell Value)
  /-- A thread calls and loads the active index. -/
  | call (thread : Nat) (call : Call)
  /-- A thread inside a call takes its next step. -/
  | reader (thread : Nat)

/--
The snapshots, the reload and the matching threads.  The ghost part: `sampled`
gives the phase in which each thread sampled the sequence word, `published`
lists what the snapshots held whenever one was completed, and `accepted` lists
the copies that passed the check, with their calls.
-/
structure World (Cell : Type) (Value : Cell → Type) (Call Copy : Type) where
  snapshots : Fin 2 → Snapshot Cell Value
  active : Fin 2
  writer : WriterPc
  readers : Nat → ReaderPc Cell Value Call Copy
  sampled : Nat → Phase
  published : List (∀ cell, Value cell)
  accepted : List (Call × Copy)

variable {Cell : Type} {Value : Cell → Type}
variable {Call Copy : Type}

/-- After the init: both snapshots reset and completed once. -/
def initial (layout : Layout Cell Value Call Copy) :
    World Cell Value Call Copy where
  snapshots := fun _ => ⟨2, layout.cleared, ⟨1, false, false⟩⟩
  active := 0
  writer := .idle
  readers := fun _ => .idle
  sampled := fun _ => ⟨0, false, false⟩
  published := [layout.cleared]
  accepted := []

/-- The writer goes on to `writer`, its snapshot having become `snapshot`. -/
def World.write
    (world : World Cell Value Call Copy) (writer : WriterPc) (index : Fin 2)
    (snapshot : Snapshot Cell Value) : World Cell Value Call Copy :=
  { world with
    writer := writer
    snapshots := Function.update world.snapshots index snapshot }

/-- One step of the reload. -/
def writerStep
    [DecidableEq Cell] (layout : Layout Cell Value Call Copy)
    (world : World Cell Value Call Copy) :
    WriterPc → WriterStep Cell Value → Option (World Cell Value Call Copy)
  | .idle, .claim =>
      some { world with writer := .writeBegin (1 - world.active) }
  | .writeBegin index, .next =>
      let snapshot := world.snapshots index
      some
        (world.write (.saveSequence index) index
          { snapshot with
            sequence := chaosSnapshotWriteBegin snapshot.sequence
            phase.rewriting := true })
  | .saveSequence index, .next =>
      some
        { world with
          writer := .clear index (world.snapshots index).sequence }
  | .clear index saved, .clearSequence =>
      some
        (world.write (.clear index saved) index
          { world.snapshots index with sequence := 0, phase.zeroed := true })
  | .clear index saved, .clear cell =>
      let snapshot := world.snapshots index
      some
        (world.write (.clear index saved) index
          { snapshot with
            memory :=
              Function.update snapshot.memory cell (layout.cleared cell) })
  | .clear index saved, .cleared =>
      some
        (world.write (.restoreSequence index saved) index
          { world.snapshots index with
            sequence := 0
            memory := layout.cleared
            phase.zeroed := true })
  | .restoreSequence index saved, .next =>
      some
        (world.write (.fill index) index
          { world.snapshots index with
            sequence := saved
            phase.zeroed := false })
  | .fill index, .store cell value =>
      let snapshot := world.snapshots index
      some
        (world.write (.fill index) index
          { snapshot with
            memory := Function.update snapshot.memory cell value })
  | .fill index, .reset => some { world with writer := .writeBegin index }
  | .fill _, .abort => some { world with writer := .idle }
  | .fill index, .writeEnd =>
      let snapshot := world.snapshots index
      some
        { world.write (.storeIndex index) index
            { snapshot with
              sequence := chaosSnapshotWriteEnd snapshot.sequence
              phase.completed := snapshot.phase.completed + 1
              phase.rewriting := false } with
          published := snapshot.memory :: world.published }
  | .storeIndex index, .next =>
      some { world with writer := .idle, active := index }
  | _, _ => none

/-- A thread goes on to `reader`. -/
def World.goOn
    (world : World Cell Value Call Copy) (thread : Nat)
    (reader : ReaderPc Cell Value Call Copy) : World Cell Value Call Copy :=
  { world with readers := Function.update world.readers thread reader }

/-- One step of a thread inside a call. -/
def readerStep
    (layout : Layout Cell Value Call Copy)
    (world : World Cell Value Call Copy) (thread : Nat) :
    ReaderPc Cell Value Call Copy → Option (World Cell Value Call Copy)
  | .idle => none
  | .readBegin call index =>
      let snapshot := world.snapshots index
      some
        { world.goOn thread
            (.copy call index snapshot.sequence (layout.copyRule call)) with
          sampled := Function.update world.sampled thread snapshot.phase }
  | .copy _ _ _ (.done none) => some (world.goOn thread .idle)
  | .copy call index start (.done (some copy)) =>
      some (world.goOn thread (.readValid call index start copy))
  | .copy call index start (.read cell next) =>
      some
        (world.goOn thread
          (.copy call index start
            (next ((world.snapshots index).memory cell))))
  | .readValid call index start copy =>
      if chaosSnapshotReadValid (world.snapshots index).sequence start then
        some
          { world.goOn thread .idle with
            accepted := (call, copy) :: world.accepted }
      else
        some (world.goOn thread .idle)

/-- One step of the world. -/
def step
    [DecidableEq Cell] (layout : Layout Cell Value Call Copy)
    (world : World Cell Value Call Copy) :
    Action Cell Value Call → Option (World Cell Value Call Copy)
  | .writer choice => writerStep layout world world.writer choice
  | .call thread call =>
      match world.readers thread with
      | .idle => some (world.goOn thread (.readBegin call world.active))
      | _ => none
  | .reader thread => readerStep layout world thread (world.readers thread)

/-! ## The property and the condition -/

/-- Every accepted copy is what the call finds in one completed snapshot. -/
def AcceptsPublished
    (layout : Layout Cell Value Call Copy)
    (world : World Cell Value Call Copy) : Prop :=
  ∀ call copy, (call, copy) ∈ world.accepted →
    ∃ memory ∈ world.published,
      (layout.copyRule call).eval memory = some copy

/--
Condition on the check of a call: when the sequence word is even and what it
was, no `memset` had cleared it, at the sample or now, and the snapshot has
been completed fewer than 2^63 times in between.
-/
def TrueWord
    (snapshots : Fin 2 → Snapshot Cell Value) (sampled : Phase) :
    ReaderPc Cell Value Call Copy → Prop
  | .readValid _ index start _ =>
      start &&& 1 = 0 → (snapshots index).sequence = start →
        sampled.zeroed = false ∧ (snapshots index).phase.zeroed = false ∧
          (snapshots index).phase.completed < sampled.completed + 2 ^ 63
  | _ => True

/-- Condition on a step: a check is made on a true sequence word. -/
def WordIsTrue (world : World Cell Value Call Copy) :
    Action Cell Value Call → Prop
  | .reader thread =>
      TrueWord world.snapshots (world.sampled thread) (world.readers thread)
  | _ => True

instance decidableTrueWord
    (snapshots : Fin 2 → Snapshot Cell Value) (sampled : Phase) :
    ∀ reader : ReaderPc Cell Value Call Copy,
      Decidable (TrueWord snapshots sampled reader)
  | .readValid _ _ _ _ => inferInstanceAs (Decidable (_ → _ → _ ∧ _ ∧ _))
  | .idle | .readBegin _ _ | .copy _ _ _ _ => isTrue trivial

instance decidableWordIsTrue (world : World Cell Value Call Copy) :
    ∀ action, Decidable (WordIsTrue world action)
  | .reader thread =>
      inferInstanceAs
        (Decidable
          (TrueWord world.snapshots (world.sampled thread)
            (world.readers thread)))
  | .writer _ | .call _ _ => isTrue trivial

/-! ## The invariant -/

/-- The snapshot the reload rewrites. -/
def rewrites : WriterPc → Option (Fin 2)
  | .saveSequence index | .clear index _ | .restoreSequence index _
  | .fill index => some index
  | _ => none

/-- The snapshot the `memset` clears, and the word to restore. -/
def clears : WriterPc → Option (Fin 2 × UInt64)
  | .clear index saved | .restoreSequence index saved => some (index, saved)
  | _ => none

/-- The sequence words say how the snapshots stand. -/
structure WriterInvariant (world : World Cell Value Call Copy) : Prop where
  word : ∀ index, (world.snapshots index).phase.zeroed = false →
    (world.snapshots index).sequence = (world.snapshots index).phase.word
  rewriting : ∀ index, rewrites world.writer = some index →
    (world.snapshots index).phase.rewriting = true
  saved : ∀ index saved, clears world.writer = some (index, saved) →
    saved = (world.snapshots index).phase.word
  zeroed : ∀ index, (world.snapshots index).phase.zeroed = true →
    ∃ saved, clears world.writer = some (index, saved)
  whole : ∀ index, (world.snapshots index).phase.rewriting = false →
    (world.snapshots index).memory ∈ world.published

/-- The snapshot has not been rewritten since it was sampled in a phase. -/
structure Untouched (sampled : Phase) (snapshot : Snapshot Cell Value) :
    Prop where
  settled : sampled.rewriting = false
  still : snapshot.phase.rewriting = false
  completed : snapshot.phase.completed = sampled.completed

/-- The thread sampled the sequence word in this phase. -/
structure Sampled
    (sampled : Phase) (start : UInt64) (snapshot : Snapshot Cell Value) :
    Prop where
  earlier : sampled.completed ≤ snapshot.phase.completed
  word : sampled.zeroed = false → start = sampled.word

/-- What a thread inside a call knows. -/
def ReaderKnows
    (layout : Layout Cell Value Call Copy)
    (snapshots : Fin 2 → Snapshot Cell Value) (sampled : Phase) :
    ReaderPc Cell Value Call Copy → Prop
  | .idle | .readBegin _ _ => True
  | .copy call index start program =>
      Sampled sampled start (snapshots index) ∧
        (Untouched sampled (snapshots index) →
          program.eval (snapshots index).memory =
            (layout.copyRule call).eval (snapshots index).memory)
  | .readValid call index start copy =>
      Sampled sampled start (snapshots index) ∧
        (Untouched sampled (snapshots index) →
          (layout.copyRule call).eval (snapshots index).memory = some copy)

/-- What holds of the world in every run that meets the condition. -/
structure SeqlockInvariant
    (layout : Layout Cell Value Call Copy)
    (world : World Cell Value Call Copy) : Prop where
  writer : WriterInvariant world
  knows : ∀ thread, ReaderKnows layout world.snapshots (world.sampled thread)
    (world.readers thread)
  accepts : AcceptsPublished layout world

theorem seqlockInvariant_initial (layout : Layout Cell Value Call Copy) :
    SeqlockInvariant layout (initial layout) where
  writer :=
    { word := fun _ _ => rfl
      rewriting := by simp [initial, rewrites]
      saved := by simp [initial, clears]
      zeroed := by simp [initial]
      whole := by simp [initial] }
  knows := fun _ => trivial
  accepts := by simp [AcceptsPublished, initial]

/-! ## Steps of the reload -/

/--
What a step of the reload can do to a snapshot: it completes it once more, or
it leaves it as it is, or it stores into it and leaves it being rewritten.
-/
structure Progress (before after : Snapshot Cell Value) : Prop where
  completed : before.phase.completed ≤ after.phase.completed
  untouched : after.phase.rewriting = false →
    after.phase.completed = before.phase.completed →
      before.phase.rewriting = false ∧ after.memory = before.memory

theorem progress_refl (snapshot : Snapshot Cell Value) :
    Progress snapshot snapshot :=
  ⟨Nat.le_refl _, fun settled _ => ⟨settled, rfl⟩⟩

theorem progress_of_rewriting
    {before after : Snapshot Cell Value}
    (rewriting : after.phase.rewriting = true)
    (completed : after.phase.completed = before.phase.completed) :
    Progress before after :=
  ⟨Nat.le_of_eq completed.symm, fun settled _ =>
    absurd (rewriting.symm.trans settled) (by decide)⟩

theorem progress_update
    {snapshots : Fin 2 → Snapshot Cell Value} {target : Fin 2}
    {snapshot : Snapshot Cell Value}
    (progress : Progress (snapshots target) snapshot) (index : Fin 2) :
    Progress (snapshots index)
      (Function.update snapshots target snapshot index) := by
  by_cases same : index = target
  · subst same
    rw [Function.update_self]
    exact progress
  · rw [Function.update_of_ne same]
    exact progress_refl _

/-- A step that moves the reload on and stores into no snapshot. -/
theorem writerInvariant_move
    {world next : World Cell Value Call Copy}
    (invariant : WriterInvariant world)
    (snapshots : next.snapshots = world.snapshots)
    (published : next.published = world.published)
    (clean : clears world.writer = none)
    (rewriting : ∀ index, rewrites next.writer = some index →
      (world.snapshots index).phase.rewriting = true)
    (saved : ∀ index saved, clears next.writer = some (index, saved) →
      saved = (world.snapshots index).phase.word) :
    WriterInvariant next where
  word := snapshots ▸ invariant.word
  rewriting := snapshots ▸ rewriting
  saved := snapshots ▸ saved
  zeroed := by
    intro index zeroed
    rw [snapshots] at zeroed
    rcases invariant.zeroed index zeroed with ⟨saved, clearing⟩
    rw [clean] at clearing
    exact absurd clearing (by simp)
  whole := by
    intro index settled
    rw [snapshots] at settled ⊢
    exact published ▸ invariant.whole index settled

theorem rewrites_of_clears
    {writer : WriterPc} {index : Fin 2} {saved : UInt64}
    (clearing : clears writer = some (index, saved)) :
    rewrites writer = some index := by
  cases writer <;> simp_all [clears, rewrites]

/-- A step that stores into the snapshot the reload is about. -/
theorem writerInvariant_write
    {world next : World Cell Value Call Copy}
    (invariant : WriterInvariant world) {index : Fin 2}
    {snapshot : Snapshot Cell Value}
    (snapshots :
      next.snapshots = Function.update world.snapshots index snapshot)
    (published : world.published ⊆ next.published)
    (only : ∀ other saved, clears world.writer = some (other, saved) →
      other = index)
    (own : ∀ other, rewrites next.writer = some other →
      other = index ∧ snapshot.phase.rewriting = true)
    (word : snapshot.phase.zeroed = false →
      snapshot.sequence = snapshot.phase.word)
    (saved : ∀ saved, clears next.writer = some (index, saved) →
      saved = snapshot.phase.word)
    (zeroed : snapshot.phase.zeroed = true →
      ∃ saved, clears next.writer = some (index, saved))
    (whole : snapshot.phase.rewriting = false →
      snapshot.memory ∈ next.published) :
    WriterInvariant next where
  word := by
    intro other settled
    rw [snapshots] at settled ⊢
    by_cases same : other = index
    · subst same
      rw [Function.update_self] at settled ⊢
      exact word settled
    · rw [Function.update_of_ne same] at settled ⊢
      exact invariant.word other settled
  rewriting := by
    intro other here
    rcases own other here with ⟨rfl, rewriting⟩
    rw [snapshots, Function.update_self]
    exact rewriting
  saved := by
    intro other word clearing
    rcases own other (rewrites_of_clears clearing) with ⟨rfl, -⟩
    rw [snapshots, Function.update_self]
    exact saved word clearing
  zeroed := by
    intro other cleared
    rw [snapshots] at cleared
    by_cases same : other = index
    · subst same
      rw [Function.update_self] at cleared
      exact zeroed cleared
    · rw [Function.update_of_ne same] at cleared
      rcases invariant.zeroed other cleared with ⟨saved, clearing⟩
      exact absurd (only other saved clearing) same
  whole := by
    intro other settled
    rw [snapshots] at settled ⊢
    by_cases same : other = index
    · subst same
      rw [Function.update_self] at settled ⊢
      exact whole settled
    · rw [Function.update_of_ne same] at settled ⊢
      exact published (invariant.whole other settled)

/-- What a step of the reload keeps: the words, and how far snapshots are. -/
structure WriterKeeps (world next : World Cell Value Call Copy) : Prop where
  invariant : WriterInvariant next
  progress : ∀ index, Progress (world.snapshots index) (next.snapshots index)
  published : world.published ⊆ next.published
  readers : next.readers = world.readers
  sampled : next.sampled = world.sampled
  accepted : next.accepted = world.accepted

theorem writerKeeps_move
    {world next : World Cell Value Call Copy}
    (invariant : WriterInvariant next)
    (snapshots : next.snapshots = world.snapshots)
    (published : next.published = world.published)
    (readers : next.readers = world.readers)
    (sampled : next.sampled = world.sampled)
    (accepted : next.accepted = world.accepted) :
    WriterKeeps world next where
  invariant := invariant
  progress := fun _ => snapshots ▸ progress_refl _
  published := published ▸ List.Subset.refl _
  readers := readers
  sampled := sampled
  accepted := accepted

/-- A store into the snapshot that is being rewritten. -/
theorem writerKeeps_write
    {world : World Cell Value Call Copy} {writer : WriterPc} {index : Fin 2}
    {snapshot : Snapshot Cell Value}
    (invariant : WriterInvariant world)
    (only : ∀ other saved, clears world.writer = some (other, saved) →
      other = index)
    (own : rewrites writer = some index)
    (rewriting : snapshot.phase.rewriting = true)
    (completed :
      snapshot.phase.completed = (world.snapshots index).phase.completed)
    (word : snapshot.phase.zeroed = false →
      snapshot.sequence = snapshot.phase.word)
    (saved : ∀ saved, clears writer = some (index, saved) →
      saved = snapshot.phase.word)
    (zeroed : snapshot.phase.zeroed = true →
      ∃ saved, clears writer = some (index, saved)) :
    WriterKeeps world (world.write writer index snapshot) where
  invariant := by
    refine writerInvariant_write invariant rfl (List.Subset.refl _) only ?_
      word saved zeroed ?_
    · intro other here
      exact ⟨Option.some.inj (here.symm.trans own), rewriting⟩
    · intro settled
      exact absurd (rewriting.symm.trans settled) (by decide)
  progress := progress_update (progress_of_rewriting rewriting completed)
  published := List.Subset.refl _
  readers := rfl
  sampled := rfl
  accepted := rfl

/-- Outside a reset no sequence word is cleared. -/
theorem WriterInvariant.not_zeroed
    {world : World Cell Value Call Copy} (invariant : WriterInvariant world)
    (clean : clears world.writer = none) (index : Fin 2) :
    (world.snapshots index).phase.zeroed = false := by
  by_contra zeroed
  rw [Bool.not_eq_false] at zeroed
  rcases invariant.zeroed index zeroed with ⟨saved, clearing⟩
  exact absurd (clearing.symm.trans clean) (by simp)

/-- Every step of the reload keeps the words and moves the snapshots forward. -/
theorem writerKeeps_step
    [DecidableEq Cell] {layout : Layout Cell Value Call Copy}
    {world next : World Cell Value Call Copy} {choice : WriterStep Cell Value}
    (invariant : WriterInvariant world)
    (stepped : writerStep layout world world.writer choice = some next) :
    WriterKeeps world next := by
  cases phase : world.writer with
  | idle =>
      cases choice with
      | claim =>
          simp only [phase, writerStep, Option.some.injEq] at stepped
          subst stepped
          refine writerKeeps_move ?_ rfl rfl rfl rfl rfl
          exact writerInvariant_move invariant rfl rfl (by simp [phase, clears])
            (by simp [rewrites]) (by simp [clears])
      | _ => simp [phase, writerStep] at stepped
  | writeBegin index =>
      cases choice with
      | next =>
          simp only [phase, writerStep, Option.some.injEq] at stepped
          subst stepped
          have clean : clears world.writer = none := by simp [phase, clears]
          have settled := invariant.not_zeroed clean index
          refine writerKeeps_write invariant (by simp [clean]) rfl rfl rfl
            ?_ (by simp [clears]) ?_
          · intro _
            rw [invariant.word index settled]
            exact chaosSnapshotWriteBegin_word _
          · intro zeroed
            exact absurd (settled.symm.trans zeroed) (by decide)
      | _ => simp [phase, writerStep] at stepped
  | saveSequence index =>
      cases choice with
      | next =>
          simp only [phase, writerStep, Option.some.injEq] at stepped
          subst stepped
          have clean : clears world.writer = none := by simp [phase, clears]
          have rewriting := invariant.rewriting index (by simp [phase, rewrites])
          refine writerKeeps_move ?_ rfl rfl rfl rfl rfl
          refine writerInvariant_move invariant rfl rfl clean ?_ ?_
          · intro other here
            simp only [rewrites, Option.some.injEq] at here
            exact here ▸ rewriting
          · intro other saved here
            simp only [clears, Option.some.injEq, Prod.mk.injEq] at here
            rcases here with ⟨rfl, rfl⟩
            exact invariant.word index (invariant.not_zeroed clean index)
      | _ => simp [phase, writerStep] at stepped
  | clear index saved =>
      have rewriting := invariant.rewriting index (by simp [phase, rewrites])
      have word := invariant.saved index saved (by simp [phase, clears])
      have only : ∀ other word, clears world.writer = some (other, word) →
          other = index := by
        intro other word here
        simp only [phase, clears, Option.some.injEq, Prod.mk.injEq] at here
        exact here.1.symm
      have kept : ∀ other, some (index, saved) = some (index, other) →
          other = (world.snapshots index).phase.word := by
        intro other same
        simp only [Option.some.injEq, Prod.mk.injEq, true_and] at same
        exact same ▸ word
      cases choice with
      | clearSequence =>
          simp only [phase, writerStep, Option.some.injEq] at stepped
          subst stepped
          exact writerKeeps_write invariant only rfl rewriting rfl
            (fun cleared => absurd cleared (by simp)) kept
            (fun _ => ⟨saved, rfl⟩)
      | clear cell =>
          simp only [phase, writerStep, Option.some.injEq] at stepped
          subst stepped
          exact writerKeeps_write invariant only rfl rewriting rfl
            (invariant.word index) kept (fun _ => ⟨saved, rfl⟩)
      | cleared =>
          simp only [phase, writerStep, Option.some.injEq] at stepped
          subst stepped
          exact writerKeeps_write invariant only rfl rewriting rfl
            (fun cleared => absurd cleared (by simp)) kept
            (fun _ => ⟨saved, rfl⟩)
      | _ => simp [phase, writerStep] at stepped
  | restoreSequence index saved =>
      cases choice with
      | next =>
          simp only [phase, writerStep, Option.some.injEq] at stepped
          subst stepped
          have rewriting := invariant.rewriting index (by simp [phase, rewrites])
          have word := invariant.saved index saved (by simp [phase, clears])
          refine writerKeeps_write invariant ?_ rfl rewriting rfl
            (fun _ => word) (by simp [clears]) (by simp)
          intro other word here
          simp only [phase, clears, Option.some.injEq, Prod.mk.injEq] at here
          exact here.1.symm
      | _ => simp [phase, writerStep] at stepped
  | fill index =>
      have clean : clears world.writer = none := by simp [phase, clears]
      have rewriting := invariant.rewriting index (by simp [phase, rewrites])
      have settled := invariant.not_zeroed clean index
      cases choice with
      | store cell value =>
          simp only [phase, writerStep, Option.some.injEq] at stepped
          subst stepped
          refine writerKeeps_write invariant (by simp [clean]) rfl rewriting rfl
            (invariant.word index) (by simp [clears]) ?_
          intro zeroed
          exact absurd (settled.symm.trans zeroed) (by decide)
      | reset =>
          simp only [phase, writerStep, Option.some.injEq] at stepped
          subst stepped
          refine writerKeeps_move ?_ rfl rfl rfl rfl rfl
          exact writerInvariant_move invariant rfl rfl clean
            (by simp [rewrites]) (by simp [clears])
      | abort =>
          simp only [phase, writerStep, Option.some.injEq] at stepped
          subst stepped
          refine writerKeeps_move ?_ rfl rfl rfl rfl rfl
          exact writerInvariant_move invariant rfl rfl clean
            (by simp [rewrites]) (by simp [clears])
      | writeEnd =>
          simp only [phase, writerStep, Option.some.injEq] at stepped
          subst stepped
          refine ⟨?_, ?_, List.subset_cons_self _ _, rfl, rfl, rfl⟩
          · refine writerInvariant_write invariant rfl
              (List.subset_cons_self _ _) (by simp [clean])
              (by simp [World.write, rewrites]) ?_
              (by simp [World.write, clears]) ?_ ?_
            · intro _
              rw [invariant.word index settled]
              exact chaosSnapshotWriteEnd_word rewriting
            · intro zeroed
              exact absurd (settled.symm.trans zeroed) (by decide)
            · intro _
              exact List.mem_cons_self
          · refine progress_update ⟨Nat.le_succ _, ?_⟩
            intro _ same
            exact absurd same (Nat.succ_ne_self _)
      | _ => simp [phase, writerStep] at stepped
  | storeIndex index =>
      cases choice with
      | next =>
          simp only [phase, writerStep, Option.some.injEq] at stepped
          subst stepped
          refine writerKeeps_move ?_ rfl rfl rfl rfl rfl
          exact writerInvariant_move invariant rfl rfl (by simp [phase, clears])
            (by simp [rewrites]) (by simp [clears])
      | _ => simp [phase, writerStep] at stepped

/-! ## Steps of the matching threads -/

/-- A snapshot that is untouched after a step of the reload was so before it. -/
theorem Untouched.before
    {sampled : Phase} {before after : Snapshot Cell Value}
    (progress : Progress before after)
    (earlier : sampled.completed ≤ before.phase.completed)
    (untouched : Untouched sampled after) :
    Untouched sampled before ∧ after.memory = before.memory := by
  have completed : after.phase.completed = before.phase.completed := by
    have later := progress.completed
    have same := untouched.completed
    omega
  rcases progress.untouched untouched.still completed with ⟨still, memory⟩
  exact ⟨⟨untouched.settled, still, completed ▸ untouched.completed⟩, memory⟩

theorem Sampled.later
    {sampled : Phase} {start : UInt64} {before after : Snapshot Cell Value}
    (sample : Sampled sampled start before) (progress : Progress before after) :
    Sampled sampled start after :=
  ⟨Nat.le_trans sample.earlier progress.completed, sample.word⟩

/-- A step of the reload takes nothing from what a thread knows. -/
theorem readerKnows_progress
    {layout : Layout Cell Value Call Copy}
    {before after : Fin 2 → Snapshot Cell Value} {sampled : Phase}
    {reader : ReaderPc Cell Value Call Copy}
    (progress : ∀ index, Progress (before index) (after index))
    (knows : ReaderKnows layout before sampled reader) :
    ReaderKnows layout after sampled reader := by
  cases reader with
  | idle => trivial
  | readBegin call index => trivial
  | copy call index start program =>
      rcases knows with ⟨sample, agrees⟩
      refine ⟨sample.later (progress index), ?_⟩
      intro untouched
      rcases untouched.before (progress index) sample.earlier with
        ⟨earlier, memory⟩
      rw [memory]
      exact agrees earlier
  | readValid call index start copy =>
      rcases knows with ⟨sample, agrees⟩
      refine ⟨sample.later (progress index), ?_⟩
      intro untouched
      rcases untouched.before (progress index) sample.earlier with
        ⟨earlier, memory⟩
      rw [memory]
      exact agrees earlier

/-- An accepted copy is what the call finds in the snapshot as it is. -/
theorem published_of_accepted
    {layout : Layout Cell Value Call Copy}
    {world : World Cell Value Call Copy} {thread : Nat} {call : Call}
    {index : Fin 2} {start : UInt64} {copy : Copy}
    (invariant : SeqlockInvariant layout world)
    (phase : world.readers thread = .readValid call index start copy)
    (trueWord : WordIsTrue world (.reader thread))
    (valid :
      chaosSnapshotReadValid (world.snapshots index).sequence start = true) :
    ∃ memory ∈ world.published,
      (layout.copyRule call).eval memory = some copy := by
  have knows := invariant.knows thread
  rw [phase] at knows
  rcases knows with ⟨sample, agrees⟩
  simp only [chaosSnapshotReadValid, Bool.and_eq_true, decide_eq_true_eq]
    at valid
  rcases valid with ⟨even, same⟩
  simp only [WordIsTrue, phase, TrueWord] at trueWord
  rcases trueWord even same with ⟨trueSample, trueCheck, near⟩
  have startWord := sample.word trueSample
  have checkWord := invariant.writer.word index trueCheck
  have settled : (world.sampled thread).rewriting = false := by
    rw [← Phase.word_and_one, ← startWord]
    exact even
  have words :
      (world.sampled thread).word = (world.snapshots index).phase.word := by
    rw [← startWord, ← checkWord, same]
  rcases Phase.completed_eq_of_word sample.earlier near words settled with
    ⟨completed, still⟩
  exact ⟨_, invariant.writer.whole index still,
    agrees ⟨settled, still, completed⟩⟩

/-- Going on changes what is known of no other thread. -/
theorem SeqlockInvariant.goOn
    {layout : Layout Cell Value Call Copy}
    {world next : World Cell Value Call Copy} {thread : Nat}
    {reader : ReaderPc Cell Value Call Copy} {sampled : Phase}
    (invariant : SeqlockInvariant layout world)
    (snapshots : next.snapshots = world.snapshots)
    (writer : next.writer = world.writer)
    (published : next.published = world.published)
    (readers : next.readers = Function.update world.readers thread reader)
    (samples : next.sampled = Function.update world.sampled thread sampled)
    (knows : ReaderKnows layout world.snapshots sampled reader)
    (accepts : AcceptsPublished layout next) :
    SeqlockInvariant layout next where
  writer := by
    rcases invariant.writer with ⟨word, rewriting, saved, zeroed, whole⟩
    constructor <;> simp only [snapshots, writer, published] <;> assumption
  knows := by
    intro other
    rw [snapshots, readers, samples]
    by_cases same : other = thread
    · subst same
      rw [Function.update_self, Function.update_self]
      exact knows
    · rw [Function.update_of_ne same, Function.update_of_ne same]
      exact invariant.knows other
  accepts := accepts

theorem seqlockInvariant_readerStep
    {layout : Layout Cell Value Call Copy}
    {world next : World Cell Value Call Copy} {thread : Nat}
    (invariant : SeqlockInvariant layout world)
    (trueWord : WordIsTrue world (.reader thread))
    (stepped :
      readerStep layout world thread (world.readers thread) = some next) :
    SeqlockInvariant layout next := by
  have same : world.sampled =
      Function.update world.sampled thread (world.sampled thread) :=
    (Function.update_eq_self thread world.sampled).symm
  have knows := invariant.knows thread
  cases phase : world.readers thread with
  | idle => simp [phase, readerStep] at stepped
  | readBegin call index =>
      simp only [phase, readerStep, Option.some.injEq] at stepped
      subst stepped
      have sample : Sampled (world.snapshots index).phase
          (world.snapshots index).sequence (world.snapshots index) :=
        ⟨Nat.le_refl _, invariant.writer.word index⟩
      exact invariant.goOn rfl rfl rfl rfl rfl ⟨sample, fun _ => rfl⟩
        invariant.accepts
  | copy call index start program =>
      rw [phase] at knows
      rcases knows with ⟨sample, agrees⟩
      cases program with
      | done result =>
          cases result with
          | none =>
              simp only [phase, readerStep, Option.some.injEq] at stepped
              subst stepped
              exact invariant.goOn rfl rfl rfl rfl same trivial
                invariant.accepts
          | some copy =>
              simp only [phase, readerStep, Option.some.injEq] at stepped
              subst stepped
              exact invariant.goOn rfl rfl rfl rfl same
                ⟨sample, fun untouched => (agrees untouched).symm⟩
                invariant.accepts
      | read cell rest =>
          simp only [phase, readerStep, Option.some.injEq] at stepped
          subst stepped
          exact invariant.goOn rfl rfl rfl rfl same ⟨sample, agrees⟩
            invariant.accepts
  | readValid call index start copy =>
      simp only [phase, readerStep] at stepped
      split at stepped
      · rename_i valid
        have found := published_of_accepted invariant phase trueWord valid
        simp only [Option.some.injEq] at stepped
        subst stepped
        refine invariant.goOn rfl rfl rfl rfl same trivial ?_
        intro other copied member
        rcases List.mem_cons.mp member with here | earlier
        · simp only [Prod.mk.injEq] at here
          rcases here with ⟨rfl, rfl⟩
          exact found
        · exact invariant.accepts other copied earlier
      · simp only [Option.some.injEq] at stepped
        subst stepped
        exact invariant.goOn rfl rfl rfl rfl same trivial invariant.accepts

/-! ## Runs -/

theorem seqlockInvariant_step
    [DecidableEq Cell] {layout : Layout Cell Value Call Copy}
    {world next : World Cell Value Call Copy}
    {action : Action Cell Value Call}
    (invariant : SeqlockInvariant layout world)
    (trueWord : WordIsTrue world action)
    (stepped : step layout world action = some next) :
    SeqlockInvariant layout next := by
  cases action with
  | writer choice =>
      have keeps := writerKeeps_step invariant.writer stepped
      refine ⟨keeps.invariant, ?_, ?_⟩
      · intro thread
        rw [keeps.readers, keeps.sampled]
        exact readerKnows_progress keeps.progress (invariant.knows thread)
      · intro call copy member
        rw [keeps.accepted] at member
        rcases invariant.accepts call copy member with ⟨memory, listed, found⟩
        exact ⟨memory, keeps.published listed, found⟩
  | call thread call =>
      simp only [step] at stepped
      split at stepped
      · simp only [Option.some.injEq] at stepped
        subst stepped
        have same := (Function.update_eq_self thread world.sampled).symm
        exact invariant.goOn rfl rfl rfl rfl same trivial invariant.accepts
      · exact absurd stepped (by simp)
  | reader thread => exact seqlockInvariant_readerStep invariant trueWord stepped

/--
In every run in which no check is passed on a sequence word that a `memset`
had cleared, or that has wrapped around, every accepted copy is what the call
finds in one completed snapshot.
-/
theorem acceptsPublished_of_wordIsTrue
    [DecidableEq Cell] (layout : Layout Cell Value Call Copy)
    {labels : List (Action Cell Value Call)}
    (trueWords : Meets (step layout) WordIsTrue (initial layout) labels) :
    Throughout (step layout) (AcceptsPublished layout) (initial layout)
      labels := by
  have throughout :
      Throughout (step layout) (SeqlockInvariant layout) (initial layout)
        labels :=
    throughout_of_meets
      (fun _ _ _ _ invariant trueWord stepped =>
        seqlockInvariant_step invariant trueWord stepped)
      (fun label (_ : label ∈ labels) => trivial)
      (seqlockInvariant_initial layout) trueWords
  intro before after middle split ran
  exact (throughout before after middle split ran).accepts

end ChaosLibs.Common.SnapshotSeqlock
