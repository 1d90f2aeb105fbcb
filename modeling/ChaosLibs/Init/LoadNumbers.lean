import ChaosLibs.Init.TraceeSlots
import ChaosLibs.Io.Refresh
import ChaosLibs.Machine.LabelledRun

/-!
# Load numbers

The supervisor runs the refresh of libchaos-io by its one thread, and tells loads
apart by the active buffer and the cached stamp: `chaos_init_io_snapshot` counts a
new load when either differs from what its last call saw.  Two publications in
between put the buffer back, so a load goes unnoticed when the stamp is the same.
-/

namespace ChaosLibs.Init.LoadNumbers

open ChaosLibs.Common.CString
open ChaosLibs.Common.HitSlots
open ChaosLibs.Init.TraceeSlots
open ChaosLibs.Io.ChangeStamp
open ChaosLibs.Io.ConfigParser
open ChaosLibs.Io.Refresh
open ChaosLibs.Io.Rule
open ChaosLibs.Machine

/-- `text` of a snapshot, the first `rule_count`. -/
def textsOf : Loaded → List Bytes
  | .accepted rules => rules.map ParsedRule.text
  | .missing | .rejected _ => []

/-- A slot, and the rule text it was given out for. -/
structure OwnedSlot where
  slot : HitSlot
  owner : Bytes
deriving DecidableEq

/-- The cleared slot of a new text. -/
def freshSlot (text : Bytes) : OwnedSlot :=
  ⟨{ HitSlot.zero with report := true }, text⟩

/--
The core's words, `g_chaos_init_io_load`, `_seen_state`, `_seen_stamp`, and the slots
of every process.  History: how often a snapshot was published, the texts the last
call of `chaos_init_io_snapshot` saw, what each call returned and when, and each
synchronisation.
-/
structure State where
  cache : Cache
  pc : RefreshPc
  /-- `g_chaos_io_active_config_index`. -/
  index : Bool
  load : Nat
  seenState : Option Bool
  seenStamp : UInt64
  tracees : Fin chaosInitMaxTracees → ProcessSlots OwnedSlot
  published : Nat
  seenTexts : List Bytes
  numbers : List (Nat × Nat)
  synced : List (List Bytes × List (Row OwnedSlot))

/-- After `chaos_init_io_start`. -/
def initial : State where
  cache := Cache.initial
  pc := .idle
  index := false
  load := 0
  seenState := none
  seenStamp := 0
  tracees := fun _ => .empty
  published := 0
  seenTexts := []
  numbers := []
  synced := []

/-- The texts of the active snapshot. -/
def State.texts (state : State) : List Bytes :=
  textsOf state.cache.active.loaded

/-- Whether the next step stores the active index. -/
def publishes : RefreshPc → Bool
  | .publish _ _ => true
  | _ => false

/-- One step of a refresh; `chaos_io_config_publish` alternates the buffers. -/
def refresh (state : State) (answers : Answers) : State :=
  let next := advance state.cache state.pc answers
  { state with
    cache := next.1
    pc := next.2
    index := if publishes state.pc then !state.index else state.index
    published :=
      if publishes state.pc then state.published + 1 else state.published }

/-- Whether `chaos_init_io_snapshot` takes the snapshot for a new one. -/
def differs (state : State) : Bool :=
  state.load == 0 || some state.index != state.seenState ||
    state.cache.cached != state.seenStamp

/-- `chaos_init_io_snapshot`. -/
def chaosInitIoSnapshot (state : State) : State :=
  let load := if differs state then state.load + 1 else state.load
  { state with
    load := load
    seenState := if differs state then some state.index else state.seenState
    seenStamp := if differs state then state.cache.cached else state.seenStamp
    seenTexts := state.texts
    numbers := (state.published, load) :: state.numbers }

/-- `chaos_init_tracee_sync` of a process. -/
def sync (state : State) (tracee : Fin chaosInitMaxTracees) : State :=
  let queried := chaosInitIoSnapshot state
  let slots := chaosInitTraceeSync chaosIoMaxRules freshSlot state.texts
    queried.load (state.tracees tracee)
  { queried with
    tracees := Function.update state.tracees tracee slots
    synced := (state.texts.take chaosIoMaxRules, slots.rows) :: state.synced }

/-- A hit or a claim in a slot of a process. -/
def hit (state : State) (tracee : Fin chaosInitMaxTracees) (index : Nat)
    (change : HitSlot → HitSlot) : State :=
  let slots := state.tracees tracee
  { state with
    tracees := Function.update state.tracees tracee
      { slots with
        rows := slots.rows.modify index fun row =>
          { row with slot := { row.slot with slot := change row.slot.slot } } } }

/-- `chaos_init_tracee_drop`: an entry is freed. -/
def drop (state : State) (tracee : Fin chaosInitMaxTracees) : State :=
  { state with
    tracees := Function.update state.tracees tracee .empty }

/-- What the supervisor does next. -/
inductive Label where
  | refresh (answers : Answers)
  | query
  | sync (tracee : Fin chaosInitMaxTracees)
  | hit (tracee : Fin chaosInitMaxTracees) (index : Nat)
      (change : HitSlot → HitSlot)
  | drop (tracee : Fin chaosInitMaxTracees)

/-- One step; a refresh runs to its end before anything else is done. -/
def step (state : State) : Label → Option State
  | .refresh answers => some (refresh state answers)
  | .query =>
      if state.pc = .idle then some (chaosInitIoSnapshot state) else none
  | .sync tracee => if state.pc = .idle then some (sync state tracee) else none
  | .hit tracee index change =>
      if state.pc = .idle then some (hit state tracee index change) else none
  | .drop tracee => if state.pc = .idle then some (drop state tracee) else none

/-! ## What is asked of a run -/

/--
Equal load numbers mean that nothing was published in between, and after each
synchronisation the slots are those of the texts of the active snapshot.
-/
structure Noticed (state : State) : Prop where
  numbers : ∀ one ∈ state.numbers, ∀ other ∈ state.numbers,
    one.2 = other.2 ↔ one.1 = other.1
  slots : ∀ sync ∈ state.synced,
    sync.2.map Row.hash = sync.1.map chaosInitHash ∧
      sync.2.map (fun row => row.slot.owner) = sync.1

/--
Since the last call of `chaos_init_io_snapshot` nothing was published, or an odd
number of times, or under another stamp.
-/
def Visible (state : State) : Prop :=
  ∀ last, state.numbers.head? = some last →
    state.published = last.1 ∨ state.published % 2 ≠ last.1 % 2 ∨
      state.cache.cached ≠ state.seenStamp

/-- No text of the snapshot has the hash of another text that the process has a slot for. -/
def Apart (state : State) (tracee : Fin chaosInitMaxTracees) : Prop :=
  ∀ row ∈ (state.tracees tracee).rows, ∀ text ∈ state.texts,
    chaosInitHash row.slot.owner = chaosInitHash text → row.slot.owner = text

/-- A reload is noticed by the next call. -/
def Distinct (state : State) : Label → Prop
  | .query => Visible state
  | .sync tracee => Visible state ∧ Apart state tracee
  | .refresh _ | .hit _ _ _ | .drop _ => True

instance decidableVisible (state : State) : Decidable (Visible state) :=
  match asked : state.numbers.head? with
  | none => isTrue fun _ other => absurd (asked.symm.trans other) nofun
  | some last =>
      decidable_of_iff
        (state.published = last.1 ∨ state.published % 2 ≠ last.1 % 2 ∨
          state.cache.cached ≠ state.seenStamp)
        ⟨fun shows _ other => Option.some_inj.mp (asked.symm.trans other) ▸ shows,
          fun shows => shows last asked⟩

instance decidableApart (state : State) (tracee : Fin chaosInitMaxTracees) :
    Decidable (Apart state tracee) := by
  unfold Apart
  infer_instance

instance decidableDistinct (state : State) :
    ∀ label : Label, Decidable (Distinct state label)
  | .query => decidableVisible state
  | .sync tracee =>
      inferInstanceAs (Decidable (Visible state ∧ Apart state tracee))
  | .refresh _ | .hit _ _ _ | .drop _ => isTrue trivial

/-! ## A refresh that publishes nothing -/

/--
Where a refresh stands that has published nothing: the stamp is cached, or kept to be
put back, unless a publication is sure to follow.
-/
def Stays (cache : Cache) (stamp : UInt64) : RefreshPc → Prop
  | .idle | .throttle | .stat | .loadStamp _ | .testProvisional _
  | .testLinks _ | .claim _ _ => cache.cached = stamp
  | .clearProvisional _ previous | .openFile _ previous
  | .readFile _ previous _ | .statFile _ previous _
  | .readClock _ previous _ _ | .compare _ previous _
  | .linksDue _ previous _ | .linksMoved _ previous _
  | .linksKept previous | .keep previous | .fail previous => previous = stamp
  | .forgetContent | .resolve _ _ _ | .storeContent _ _ _ | .publish _ _ => True
  | .storeStamp _ => False

theorem stays_advance
    {cache : Cache} {stamp : UInt64} {pc : RefreshPc} {answers : Answers}
    (stays : Stays cache stamp pc) (silent : publishes pc = false) :
    Stays (advance cache pc answers).1 stamp (advance cache pc answers).2 := by
  cases pc with
  | idle =>
      simp only [advance]
      split <;> exact stays
  | throttle =>
      simp only [advance]
      split <;> exact stays
  | stat => exact stays
  | loadStamp observed =>
      simp only [advance]
      split <;> exact stays
  | testProvisional observed =>
      simp only [advance]
      split <;> exact stays
  | testLinks observed =>
      simp only [advance]
      split <;> exact stays
  | claim observed cached =>
      simp only [advance]
      split
      · exact stays
      · split
        · rename_i own
          exact own.symm.trans stays
        · exact stays
  | clearProvisional observed previous =>
      simp only [advance]
      split
      · trivial
      · exact stays
  | forgetContent => trivial
  | openFile observed previous =>
      simp only [advance]
      split
      · exact stays
      · exact stays
      · trivial
      · exact stays
  | readFile observed previous data =>
      simp only [advance]
      split
      · unfold readChunk
        split
        · exact stays
        · split
          · trivial
          · exact stays
      · exact stays
      · trivial
      · exact stays
  | statFile observed previous data =>
      simp only [advance]
      split
      · exact stays
      · split <;> exact stays
  | readClock observed previous data stat => exact stays
  | compare observed previous data =>
      simp only [advance]
      split
      · exact stays
      · trivial
  | linksDue observed previous data =>
      simp only [advance]
      split <;> exact stays
  | linksMoved observed previous data =>
      simp only [advance]
      split
      · trivial
      · exact stays
  | linksKept previous => exact stays
  | resolve observed content loaded => trivial
  | storeContent observed content snapshot => trivial
  | publish observed snapshot => cases silent
  | storeStamp observed => exact stays.elim
  | keep previous => exact stays
  | fail previous => exact stays

/-! ## The invariant -/

/-- The numbers given out, and what they say of the publications. -/
structure Numbered (state : State) : Prop where
  parity : state.index = decide (state.published % 2 = 1)
  unasked : state.numbers = [] → state.load = 0
  last : ∀ last, state.numbers.head? = some last →
    last.2 = state.load ∧ 0 < state.load ∧ last.1 ≤ state.published ∧
      state.seenState = some (decide (last.1 % 2 = 1))
  below : ∀ last, state.numbers.head? = some last →
    ∀ earlier ∈ state.numbers, earlier.1 ≤ last.1 ∧ earlier.2 ≤ last.2
  unpublished : ∀ last, state.numbers.head? = some last →
    state.published = last.1 →
      Stays state.cache state.seenStamp state.pc ∧
        state.texts = state.seenTexts

/-- The slots of a process, when they are of the last load that was noticed. -/
structure Slotted (state : State) (slots : ProcessSlots OwnedSlot) : Prop where
  generation : slots.generation ≤ state.load
  hashes : ∀ row ∈ slots.rows, row.hash = chaosInitHash row.slot.owner
  owners : slots.generation = state.load → 0 < state.load →
    slots.rows.map (fun row => row.slot.owner) =
      state.seenTexts.take chaosIoMaxRules

/-- All of it. -/
structure Kept (state : State) : Prop where
  numbered : Numbered state
  slotted : ∀ tracee, Slotted state (state.tracees tracee)
  noticed : Noticed state

theorem kept_initial : Kept initial where
  numbered := ⟨rfl, fun _ => rfl, nofun, nofun, nofun⟩
  slotted := fun _ => ⟨Nat.le_refl _, nofun, fun _ positive =>
    absurd positive (Nat.lt_irrefl _)⟩
  noticed := ⟨nofun, nofun⟩

theorem map_hash_of_slotted
    {state : State} {slots : ProcessSlots OwnedSlot}
    (slotted : Slotted state slots) :
    slots.rows.map Row.hash =
      (slots.rows.map fun row => row.slot.owner).map chaosInitHash := by
  rw [List.map_map]
  exact List.map_congr_left slotted.hashes

variable {state : State}

/-- A number that was returned is behind the last one. -/
theorem Numbered.exists_last (numbered : Numbered state) {earlier : Nat × Nat}
    (member : earlier ∈ state.numbers) :
    ∃ last, state.numbers.head? = some last ∧ earlier.1 ≤ last.1 ∧
      last.1 ≤ state.published ∧ earlier.2 ≤ state.load := by
  cases asked : state.numbers.head? with
  | none =>
      rw [List.head?_eq_none_iff.mp asked] at member
      cases member
  | some last =>
      rcases numbered.below last asked earlier member with ⟨before, number⟩
      rcases numbered.last last asked with ⟨same, -, past, -⟩
      exact ⟨last, rfl, before, past, same ▸ number⟩

/-! ## Refreshes -/

theorem numbered_refresh (numbered : Numbered state) (answers : Answers) :
    Numbered (refresh state answers) := by
  cases published : publishes state.pc with
  | false =>
      have silent : ∀ observed snapshot,
          state.pc ≠ .publish observed snapshot := by
        intro observed snapshot same
        rw [same] at published
        cases published
      have texts : (refresh state answers).texts = state.texts :=
        congrArg textsOf (loaded_advance silent)
      have count : (refresh state answers).published = state.published := by
        unfold refresh
        rw [published]
        rfl
      have index : (refresh state answers).index = state.index := by
        unfold refresh
        rw [published]
        rfl
      constructor
      · rw [index, count]
        exact numbered.parity
      · exact numbered.unasked
      · rw [count]
        exact numbered.last
      · exact numbered.below
      · intro last asked same
        rw [count] at same
        rcases numbered.unpublished last asked same with ⟨stays, seen⟩
        exact ⟨stays_advance stays published, texts.trans seen⟩
  | true =>
      have count : (refresh state answers).published =
          state.published + 1 := by
        unfold refresh
        rw [published]
        rfl
      have index : (refresh state answers).index = !state.index := by
        unfold refresh
        rw [published]
        rfl
      constructor
      · rw [index, count, numbered.parity]
        rcases Nat.mod_two_eq_zero_or_one state.published with even | odd
        · rw [even]
          have next : (state.published + 1) % 2 = 1 := by omega
          rw [next]
          rfl
        · rw [odd]
          have next : (state.published + 1) % 2 = 0 := by omega
          rw [next]
          rfl
      · exact numbered.unasked
      · intro last asked
        rcases numbered.last last asked with ⟨number, positive, past, seen⟩
        rw [count]
        exact ⟨number, positive, Nat.le_succ_of_le past, seen⟩
      · exact numbered.below
      · intro last asked same
        rcases numbered.last last asked with ⟨-, -, past, -⟩
        rw [count] at same
        omega

/-! ## Calls of `chaos_init_io_snapshot` -/

/-- A load is taken for a new one exactly when something was published. -/
theorem differs_iff
    (numbered : Numbered state) (idle : state.pc = .idle)
    (visible : Visible state) :
    differs state = true ↔ ∀ last, state.numbers.head? = some last →
      state.published ≠ last.1 := by
  unfold differs
  simp only [Bool.or_eq_true, beq_iff_eq, bne_iff_ne]
  cases asked : state.numbers.head? with
  | none =>
      have zero := numbered.unasked (List.head?_eq_none_iff.mp asked)
      exact iff_of_true (Or.inl (Or.inl zero)) nofun
  | some last =>
      rcases numbered.last last asked with ⟨-, positive, -, seen⟩
      have nonzero : state.load ≠ 0 := Nat.ne_of_gt positive
      have buffer : some state.index ≠ state.seenState ↔
          state.published % 2 ≠ last.1 % 2 := by
        rw [numbered.parity, seen, ne_eq, Option.some_inj, decide_eq_decide]
        omega
      rw [buffer]
      constructor
      · rintro differs other same
        cases same
        intro unpublished
        rcases numbered.unpublished last asked unpublished with ⟨stays, -⟩
        rw [idle] at stays
        rcases differs with (zero | parity) | stamp
        · exact nonzero zero
        · exact parity (by rw [unpublished])
        · exact stamp stays
      · intro published
        rcases visible last asked with same | parity | stamp
        · exact absurd same (published last rfl)
        · exact Or.inl (Or.inr parity)
        · exact Or.inr stamp

/-- A load that is not taken for a new one is the one last seen. -/
theorem last_of_not_differs
    (numbered : Numbered state) (idle : state.pc = .idle)
    (visible : Visible state) (same : differs state = false) :
    ∃ last, state.numbers.head? = some last ∧ state.published = last.1 ∧
      last.2 = state.load := by
  have seen : ¬ ∀ last, state.numbers.head? = some last →
      state.published ≠ last.1 := by
    intro published
    rw [(differs_iff numbered idle visible).mpr published] at same
    cases same
  push Not at seen
  rcases seen with ⟨last, asked, unpublished⟩
  exact ⟨last, asked, unpublished, (numbered.last last asked).1⟩

theorem numbered_chaosInitIoSnapshot
    (numbered : Numbered state) (idle : state.pc = .idle)
    (visible : Visible state) :
    Numbered (chaosInitIoSnapshot state) := by
  have grows : state.load ≤ (chaosInitIoSnapshot state).load := by
    unfold chaosInitIoSnapshot
    dsimp only
    split
    · exact Nat.le_succ _
    · exact Nat.le_refl _
  constructor
  · exact numbered.parity
  · exact nofun
  · intro last asked
    cases asked
    refine ⟨rfl, ?_, Nat.le_refl _, ?_⟩
    · unfold chaosInitIoSnapshot
      dsimp only
      split
      · exact Nat.succ_pos _
      · rename_i same
        rcases last_of_not_differs numbered idle visible
          (Bool.eq_false_of_not_eq_true same) with ⟨last, asked, -, -⟩
        exact (numbered.last last asked).2.1
    · unfold chaosInitIoSnapshot
      dsimp only
      split
      · rw [numbered.parity]
      · rename_i same
        rcases last_of_not_differs numbered idle visible
          (Bool.eq_false_of_not_eq_true same) with ⟨last, asked, unpublished, -⟩
        rw [(numbered.last last asked).2.2.2, unpublished]
  · intro last asked earlier member
    cases asked
    rcases List.mem_cons.mp member with rfl | member
    · exact ⟨Nat.le_refl _, Nat.le_refl _⟩
    · rcases numbered.exists_last member with ⟨last, -, before, past, number⟩
      exact ⟨Nat.le_trans before past, Nat.le_trans number grows⟩
  · intro last asked _
    cases asked
    refine ⟨?_, rfl⟩
    change Stays state.cache (chaosInitIoSnapshot state).seenStamp state.pc
    rw [idle]
    change state.cache.cached = (chaosInitIoSnapshot state).seenStamp
    unfold chaosInitIoSnapshot
    dsimp only
    split
    · rfl
    · rename_i same
      unfold differs at same
      simp only [Bool.or_eq_true, not_or, bne_iff_ne, ne_eq, not_not] at same
      exact same.2

/-- The number returned is the one returned last exactly when nothing was published. -/
theorem numbers_chaosInitIoSnapshot
    (numbered : Numbered state) (noticed : Noticed state)
    (idle : state.pc = .idle) (visible : Visible state) :
    ∀ one ∈ (chaosInitIoSnapshot state).numbers,
      ∀ other ∈ (chaosInitIoSnapshot state).numbers,
        one.2 = other.2 ↔ one.1 = other.1 := by
  -- The new entry against an earlier one.
  have new : ∀ earlier ∈ state.numbers,
      (chaosInitIoSnapshot state).load = earlier.2 ↔
        state.published = earlier.1 := by
    intro earlier member
    unfold chaosInitIoSnapshot
    dsimp only
    split
    · rename_i differ
      have published := (differs_iff numbered idle visible).mp differ
      rcases numbered.exists_last member with ⟨last, asked, before, past, number⟩
      have later := published last asked
      exact iff_of_false (by omega) (by omega)
    · rename_i same
      rcases last_of_not_differs numbered idle visible
        (Bool.eq_false_of_not_eq_true same) with
          ⟨last, asked, unpublished, number⟩
      rw [unpublished, ← number]
      exact noticed.numbers last (List.mem_of_mem_head? asked) earlier member
  intro one oneMember other otherMember
  rcases List.mem_cons.mp oneMember with rfl | oneMember
  · rcases List.mem_cons.mp otherMember with rfl | otherMember
    · exact iff_of_true rfl rfl
    · exact new other otherMember
  · rcases List.mem_cons.mp otherMember with rfl | otherMember
    · exact (eq_comm.trans (new one oneMember)).trans eq_comm
    · exact noticed.numbers one oneMember other otherMember

/-- The slots of the last load stay the slots of the last load. -/
theorem slotted_chaosInitIoSnapshot
    (numbered : Numbered state) (idle : state.pc = .idle)
    (visible : Visible state) {slots : ProcessSlots OwnedSlot}
    (slotted : Slotted state slots) :
    Slotted (chaosInitIoSnapshot state) slots := by
  cases differ : differs state with
  | true =>
      have load : (chaosInitIoSnapshot state).load = state.load + 1 := by
        unfold chaosInitIoSnapshot
        dsimp only
        rw [if_pos differ]
      refine ⟨?_, slotted.hashes, ?_⟩
      · rw [load]
        exact Nat.le_succ_of_le slotted.generation
      · intro same _
        have before := slotted.generation
        rw [load] at same
        omega
  | false =>
      have load : (chaosInitIoSnapshot state).load = state.load := by
        unfold chaosInitIoSnapshot
        dsimp only
        rw [if_neg (by rw [differ]; nofun)]
      rcases last_of_not_differs numbered idle visible differ with
        ⟨last, asked, unpublished, -⟩
      have texts := (numbered.unpublished last asked unpublished).2
      refine ⟨?_, slotted.hashes, ?_⟩
      · rw [load]
        exact slotted.generation
      · intro same positive
        rw [load] at same positive
        change _ = state.texts.take chaosIoMaxRules
        rw [texts]
        exact slotted.owners same positive

theorem kept_chaosInitIoSnapshot
    (kept : Kept state) (idle : state.pc = .idle) (visible : Visible state) :
    Kept (chaosInitIoSnapshot state) where
  numbered := numbered_chaosInitIoSnapshot kept.numbered idle visible
  slotted := fun tracee =>
    slotted_chaosInitIoSnapshot kept.numbered idle visible
      (kept.slotted tracee)
  noticed :=
    ⟨numbers_chaosInitIoSnapshot kept.numbered kept.noticed idle visible,
      kept.noticed.slots⟩

/-! ## Synchronisations -/

/-- After a synchronisation the slots are of the texts of the active snapshot. -/
theorem slotted_sync
    (kept : Kept state) (idle : state.pc = .idle) (visible : Visible state)
    {tracee : Fin chaosInitMaxTracees} (apart : Apart state tracee) :
    Slotted (chaosInitIoSnapshot state)
        (chaosInitTraceeSync chaosIoMaxRules freshSlot state.texts
          (chaosInitIoSnapshot state).load (state.tracees tracee)) ∧
      (chaosInitTraceeSync chaosIoMaxRules freshSlot state.texts
        (chaosInitIoSnapshot state).load (state.tracees tracee)).rows.map
          (fun row => row.slot.owner) =
        state.texts.take chaosIoMaxRules := by
  have before := slotted_chaosInitIoSnapshot kept.numbered idle visible
    (kept.slotted tracee)
  have positive : 0 < (chaosInitIoSnapshot state).load :=
    ((numbered_chaosInitIoSnapshot kept.numbered idle visible).last _ rfl).2.1
  by_cases current :
      (state.tracees tracee).generation = (chaosInitIoSnapshot state).load
  · have same : chaosInitTraceeSync chaosIoMaxRules freshSlot state.texts
        (chaosInitIoSnapshot state).load (state.tracees tracee) =
          state.tracees tracee := by
      unfold chaosInitTraceeSync
      rw [if_pos current]
    rw [same]
    exact ⟨before, before.owners current positive⟩
  · have owner : ∀ text ∈ state.texts.take chaosIoMaxRules,
        (rowOf freshSlot (state.tracees tracee).rows text).slot.owner = text := by
      intro text member
      rcases slot_rowOf (state.tracees tracee).rows text with
        ⟨new, -⟩ | ⟨row, inRows, hash, taken⟩
      · rw [new]
        rfl
      · rw [taken]
        apply apart row inRows text (List.mem_of_mem_take member)
        exact ((kept.slotted tracee).hashes row inRows).symm.trans hash
    have owners : (chaosInitTraceeSync chaosIoMaxRules freshSlot state.texts
        (chaosInitIoSnapshot state).load (state.tracees tracee)).rows.map
          (fun row => row.slot.owner) =
        state.texts.take chaosIoMaxRules := by
      rw [rows_chaosInitTraceeSync_of_ne current, List.map_map]
      exact (List.map_congr_left owner).trans (List.map_id _)
    refine ⟨⟨?_, ?_, fun _ _ => owners⟩, owners⟩
    · rw [generation_chaosInitTraceeSync]
    · intro row member
      rw [rows_chaosInitTraceeSync_of_ne current] at member
      rcases List.mem_map.mp member with ⟨text, inTexts, rfl⟩
      rw [hash_rowOf, owner text inTexts]

theorem kept_sync
    (kept : Kept state) (idle : state.pc = .idle) (visible : Visible state)
    {tracee : Fin chaosInitMaxTracees} (apart : Apart state tracee) :
    Kept (sync state tracee) := by
  have queried := kept_chaosInitIoSnapshot kept idle visible
  rcases slotted_sync kept idle visible apart with ⟨slotted, owners⟩
  constructor
  · exact ⟨queried.numbered.parity, queried.numbered.unasked,
      queried.numbered.last, queried.numbered.below,
      queried.numbered.unpublished⟩
  · intro other
    have here : Slotted (chaosInitIoSnapshot state)
        ((sync state tracee).tracees other) := by
      by_cases same : other = tracee
      · rw [same]
        change Slotted _ (Function.update state.tracees tracee _ tracee)
        rw [Function.update_self]
        exact slotted
      · change Slotted _ (Function.update state.tracees tracee _ other)
        rw [Function.update_of_ne same]
        exact queried.slotted other
    exact ⟨here.generation, here.hashes, here.owners⟩
  · refine ⟨queried.noticed.numbers, ?_⟩
    intro synchronised member
    rcases List.mem_cons.mp member with rfl | earlier
    · exact ⟨(map_hash_of_slotted slotted).trans (congrArg _ owners), owners⟩
    · exact queried.noticed.slots synchronised earlier

/-! ## Hits -/

/-- What happens to the slots of one process, the load staying the same. -/
theorem kept_update
    (kept : Kept state) (tracee : Fin chaosInitMaxTracees)
    {slots : ProcessSlots OwnedSlot} (slotted : Slotted state slots) :
    Kept { state with
      tracees := Function.update state.tracees tracee slots } where
  numbered := ⟨kept.numbered.parity, kept.numbered.unasked, kept.numbered.last,
    kept.numbered.below, kept.numbered.unpublished⟩
  slotted := by
    intro other
    have here : Slotted state (Function.update state.tracees tracee slots other) := by
      by_cases same : other = tracee
      · rw [same, Function.update_self]
        exact slotted
      · rw [Function.update_of_ne same]
        exact kept.slotted other
    exact ⟨here.generation, here.hashes, here.owners⟩
  noticed := ⟨kept.noticed.numbers, kept.noticed.slots⟩

/-- A hit changes neither the hash nor the owner of a slot. -/
theorem slotted_hit
    {slots : ProcessSlots OwnedSlot} (slotted : Slotted state slots) (index : Nat)
    (change : HitSlot → HitSlot) :
    Slotted state { slots with
      rows := slots.rows.modify index fun row =>
        { row with slot := { row.slot with slot := change row.slot.slot } } } := by
  have modified : ∀ rows : List (Row OwnedSlot), ∀ index : Nat,
      (rows.modify index fun row =>
        { row with slot := { row.slot with slot := change row.slot.slot } }).map
          (fun row => (row.hash, row.slot.owner)) =
        rows.map fun row => (row.hash, row.slot.owner) := by
    intro rows
    induction rows with
    | nil => intro index; cases index <;> rfl
    | cons row rest induction =>
        intro index
        cases index with
        | zero => rfl
        | succ index =>
            rw [List.modify_succ_cons, List.map_cons, List.map_cons, induction]
  have same := modified slots.rows index
  constructor
  · exact slotted.generation
  · intro row member
    have pair : (row.hash, row.slot.owner) ∈
        slots.rows.map fun row => (row.hash, row.slot.owner) := by
      rw [← same]
      exact List.mem_map.mpr ⟨row, member, rfl⟩
    rcases List.mem_map.mp pair with ⟨source, inRows, equal⟩
    have hash : source.hash = row.hash := congrArg Prod.fst equal
    have owner : source.slot.owner = row.slot.owner := congrArg Prod.snd equal
    rw [← hash, ← owner]
    exact slotted.hashes source inRows
  · intro current positive
    have owners := congrArg (List.map Prod.snd) same
    rw [List.map_map, List.map_map] at owners
    exact owners.trans (slotted.owners current positive)

/-! ## Runs -/

theorem kept_step
    (label : Label) {next : State} (kept : Kept state)
    (distinct : Distinct state label) (stepped : step state label = some next) :
    Kept next := by
  cases label with
  | refresh answers =>
      cases stepped
      have numbered := numbered_refresh kept.numbered answers
      refine ⟨numbered, ?_, ⟨kept.noticed.numbers, kept.noticed.slots⟩⟩
      intro tracee
      have slotted := kept.slotted tracee
      exact ⟨slotted.generation, slotted.hashes, slotted.owners⟩
  | query =>
      dsimp only [step] at stepped
      split at stepped
      · rename_i idle
        cases stepped
        exact kept_chaosInitIoSnapshot kept idle distinct
      · cases stepped
  | sync tracee =>
      dsimp only [step] at stepped
      split at stepped
      · rename_i idle
        cases stepped
        exact kept_sync kept idle distinct.1 distinct.2
      · cases stepped
  | hit tracee index change =>
      dsimp only [step] at stepped
      split at stepped
      · cases stepped
        exact kept_update kept tracee
          (slotted_hit (kept.slotted tracee) index change)
      · cases stepped
  | drop tracee =>
      dsimp only [step] at stepped
      split at stepped
      · cases stepped
        apply kept_update kept tracee
        refine ⟨Nat.zero_le _, nofun, ?_⟩
        intro zero positive
        exact absurd zero (Nat.ne_of_lt positive)
      · cases stepped

/--
In every run in which a publication shows at the next call of
`chaos_init_io_snapshot`, two of its calls return the same number if and only if
nothing was published in between, and every synchronisation leaves a process with
the slots of the rule texts of the active snapshot.
-/
theorem noticed_throughout_of_distinct
    {labels : List Label} (distinct : Meets step Distinct initial labels) :
    Throughout step Noticed initial labels := by
  have throughout : Throughout step Kept initial labels :=
    throughout_of_meets
      (fun _ label _ _ kept distinct stepped => kept_step label kept distinct stepped)
      (fun _ _ => trivial) kept_initial distinct
  exact fun before after middle split ran =>
    (throughout before after middle split ran).noticed

/-! ## A file that is removed and put back -/

/-- The stamp of both rule files. -/
def fileStat : FileStat :=
  ⟨1000, 5000000, 16, 7, 1⟩

/-- What a refresh that finds a file meets; the clock reads `ns` nanoseconds. -/
def loadAnswers (ns : UInt64) (content : Bytes) : List Answers :=
  [{ monotonicNs := ns }, { stat := some fileStat }, {}, {}, {},
    { opened := .opened }, { read := .bytes content }, { read := .bytes [] },
    { fstat := some fileStat }, { realtimeMs := 2000000 }, {}, {}, {}, {}, {}]

/-- The steps of such a refresh. -/
def loadFile (ns : UInt64) (content : Bytes) : List Label :=
  .refresh {} :: (loadAnswers ns content).map .refresh

/-- The first refresh does not look at the clock. -/
def firstFile (content : Bytes) : List Label :=
  (loadAnswers 0 content).map .refresh

/-- The steps of a refresh that finds none. -/
def loadNone (ns : UInt64) : List Label :=
  [.refresh {}, .refresh { monotonicNs := ns }, .refresh {}, .refresh {},
    .refresh {}, .refresh {}, .refresh {}, .refresh {}, .refresh {}]

/-- The text of the one rule of the first file, and of the second. -/
def firstText : Bytes := bytes "/a:open:EIO:1.0"

def secondText : Bytes := bytes "/b:open:EIO:1.0"

/-- A process is synchronised to the first file, and again when it was replaced. -/
def replacedRun : List Label :=
  firstFile (bytes "/a:open:EIO:1.0\n") ++ [.sync 0] ++
    loadNone 5000000 ++
    loadFile 10000000 (bytes "/b:open:EIO:1.0\n") ++ [.sync 0]

/-- What can be compared of a state. -/
def shown (state : State) :
    List (Nat × Nat) × List (List Bytes × List UInt64) :=
  (state.numbers, state.synced.map fun sync =>
    (sync.1, sync.2.map Row.hash))

theorem replaced_file_keeps_slots :
    ∃ final, run step initial replacedRun = some final ∧
      final.numbers = [(3, 1), (1, 1)] ∧
      final.synced.map (fun sync => (sync.1, sync.2.map Row.hash)) =
        [([secondText], [chaosInitHash firstText]),
          ([firstText], [chaosInitHash firstText])] ∧
      ¬ Noticed final := by
  have ended :
      (run step initial replacedRun).map shown =
        some ([(3, 1), (1, 1)],
          [([secondText], [chaosInitHash firstText]),
            ([firstText], [chaosInitHash firstText])]) := by
    decide +kernel
  rcases Option.map_eq_some_iff.mp ended with ⟨final, ran, values⟩
  simp only [shown, Prod.mk.injEq] at values
  rcases values with ⟨numbers, synced⟩
  refine ⟨final, ran, numbers, synced, ?_⟩
  intro noticed
  have same := (noticed.numbers (3, 1) (by rw [numbers]; simp) (1, 1)
    (by rw [numbers]; simp)).mp rfl
  cases same

/-- A file is loaded, looked for again and found changed, once. -/
def reloadedRun : List Label :=
  firstFile (bytes "/a:open:EIO:1.0\n") ++ [.sync 0] ++
    loadNone 5000000 ++ [.query]

theorem noticed_throughout_of_distinct_reloaded :
    Throughout step Noticed initial reloadedRun := by
  apply noticed_throughout_of_distinct
  decide +kernel

end ChaosLibs.Init.LoadNumbers
