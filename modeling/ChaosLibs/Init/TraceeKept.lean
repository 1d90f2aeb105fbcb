import ChaosLibs.Init.TraceeState

/-!
# Acts on one cell of the table

The table and its cells agree with the log of a run.  A synchronisation, a write, a hit and
a drop act on one cell; an act that keeps the agreement there keeps it everywhere, since it
changes no file but the one of its cell, or creates one.
-/

namespace ChaosLibs.Init.TraceeKept

open ChaosLibs.Common.CString
open ChaosLibs.Init.TraceeCells
open ChaosLibs.Init.TraceeSlots
open ChaosLibs.Init.TraceeState
open ChaosLibs.Init.TraceeTable

variable {Lib : Type*} [DecidableEq Lib] {known : Set Bytes} (setup : Setup Lib known)

/-! ## What holds in every state -/

/-- What was counted for a process when its entry was freed is in the file it had. -/
structure Settled (state : State Lib known) (lib : Lib) (image : Image) (number : Nat)
    (counts : List CellEvent) : Prop where
  owner : ∀ file, state.files lib number = some file → file.image = image
  saved : ∀ text, counted text counts ≤ recorded text (state.files lib number)
  present : number ≠ 0 → state.files lib number ≠ none
  released : ∀ other, (state.cells lib other).file = number → number = 0

/-- Every file has one of the numbers given so far. -/
def Named (state : State Lib known) : Prop :=
  ∀ lib number, state.files lib number ≠ none →
    ∃ count < state.created lib, number = setup.number lib count

/-- The table and the cells agree with the log. -/
structure Kept (state : State Lib known) : Prop where
  single : Single state.table.entries
  age : state.table.age = asks state.log
  ages : ∀ index, (state.table.entries index).tgid ≠ 0 →
    (state.table.entries index).age =
      lastAsked (imageOf (state.table.entries index)) state.log
  cells : ∀ lib index, (state.table.entries index).tgid ≠ 0 →
    CellKept (setup.maxRules lib) (state.snapshot lib) (imageOf (state.table.entries index))
      (state.cells lib index) (ownFile state lib index)
      (story lib index (imageOf (state.table.entries index)) state.log)
  empty : ∀ lib index, (state.table.entries index).tgid = 0 → state.cells lib index = .empty
  named : Named setup state
  distinct : ∀ lib one other, (state.cells lib one).file ≠ 0 →
    (state.cells lib one).file = (state.cells lib other).file → one = other
  freed : ∀ lib index image number older,
    .freed lib index image number :: older <:+ state.log →
      Settled state lib image number (story lib index image older)

variable {setup} {state next : State Lib known} {lib : Lib} {index : Index}
variable {event : Event Lib} {added : CellEvent}

theorem story_cons_of_some {image : Image} {log : List (Event Lib)}
    (here : event.view lib index image = some added) :
    story lib index image (event :: log) = added :: story lib index image log :=
  List.filterMap_cons_some here

theorem story_cons_of_none {image : Image} {log : List (Event Lib)}
    (elsewhere : event.view lib index image = none) :
    story lib index image (event :: log) = story lib index image log :=
  List.filterMap_cons_none elsewhere

omit [DecidableEq Lib] in
theorem Named.files_zero (named : Named setup state) (lib : Lib) :
    state.files lib 0 = none := by
  by_contra some
  obtain ⟨count, -, zero⟩ := named lib 0 some
  exact (setup.number_pos lib count).ne zero

/-- An act on one cell: it changes no file but its own, or creates one. -/
structure Acts (state next : State Lib known) (lib : Lib) (index : Index)
    (event : Event Lib) : Prop where
  table : next.table = state.table
  snapshot : next.snapshot = state.snapshot
  log : next.log = event :: state.log
  cells : ∀ library other, ¬ (library = lib ∧ other = index) →
    next.cells library other = state.cells library other
  files : ∀ library number, state.files library number ≠ none →
    ¬ (library = lib ∧ number = (state.cells lib index).file) →
      next.files library number = state.files library number
  file : (next.cells lib index).file = (state.cells lib index).file ∨
    (next.cells lib index).file = 0 ∨ state.files lib (next.cells lib index).file = none

theorem Kept.present (kept : Kept setup state) (named : (state.cells lib index).file ≠ 0) :
    state.files lib (state.cells lib index).file ≠ none := by
  by_cases free : (state.table.entries index).tgid = 0
  · rw [kept.empty lib index free] at named
    exact absurd rfl named
  · exact (kept.cells lib index free).present named

/-- A file that is not the one of the cell stays as it is. -/
theorem Kept.files_of_acts (kept : Kept setup state) (acts : Acts state next lib index event)
    (named : Named setup next) {library : Lib} {number : Nat}
    (present : number ≠ 0 → state.files library number ≠ none)
    (others : library = lib → (state.cells lib index).file = number → number = 0) :
    next.files library number = state.files library number := by
  by_cases zero : number = 0
  · rw [zero, named.files_zero, kept.named.files_zero]
  · refine acts.files library number (present zero) ?_
    rintro ⟨same, own⟩
    exact zero (others same own.symm)

theorem Settled.act (kept : Kept setup state) (acts : Acts state next lib index event)
    (named : Named setup next) {library : Lib} {image : Image} {number : Nat}
    {counts : List CellEvent} (settled : Settled state library image number counts) :
    Settled next library image number counts := by
  have files : next.files library number = state.files library number :=
    kept.files_of_acts acts named settled.present
      fun same own => settled.released index (same ▸ own)
  refine ⟨files ▸ settled.owner, files ▸ settled.saved, files ▸ settled.present, ?_⟩
  intro other own
  by_cases here : library = lib ∧ other = index
  · obtain ⟨rfl, rfl⟩ := here
    rcases acts.file with same | zero | fresh
    · exact settled.released other (same.symm.trans own)
    · exact own.symm.trans zero
    · by_contra nonzero
      exact settled.present nonzero (own ▸ fresh)
  · rw [acts.cells library other here] at own
    exact settled.released other own

theorem Kept.distinct_of_acts (kept : Kept setup state) (acts : Acts state next lib index event)
    {other : Index} (differ : other ≠ index) (some : (state.cells lib other).file ≠ 0) :
    (next.cells lib index).file ≠ (state.cells lib other).file := by
  intro same
  rcases acts.file with kept' | zero | fresh
  · exact differ (kept.distinct lib other index some (same.symm.trans kept'))
  · exact some (same.symm.trans zero)
  · exact kept.present some (same ▸ fresh)

/-- An act on the cell of a process keeps the invariant when it keeps it there. -/
theorem Kept.act (kept : Kept setup state) (acts : Acts state next lib index event)
    (plain : ∀ image, event ≠ .asked image)
    (here : event.view lib index (imageOf (state.table.entries index)) = some added)
    (elsewhere : ∀ library other, (state.table.entries other).tgid ≠ 0 →
      ¬ (library = lib ∧ other = index) →
        event.view library other (imageOf (state.table.entries other)) = none)
    (used : (state.table.entries index).tgid ≠ 0)
    (named : Named setup next)
    (cellKept : CellKept (setup.maxRules lib) (state.snapshot lib)
      (imageOf (state.table.entries index)) (next.cells lib index) (ownFile next lib index)
      (added :: story lib index (imageOf (state.table.entries index)) state.log))
    (freed : ∀ library other image number, event = .freed library other image number →
      Settled next library image number (story library other image state.log)) :
    Kept setup next where
  single := acts.table ▸ kept.single
  age := by
    rw [acts.table, acts.log, asks_cons _ plain]
    exact kept.age
  ages := by
    intro other usedOther
    rw [acts.table] at usedOther ⊢
    rw [acts.log, lastAsked_cons _ plain]
    exact kept.ages other usedOther
  cells := by
    intro library other usedOther
    rw [acts.table] at usedOther ⊢
    rw [acts.log, acts.snapshot]
    by_cases same : library = lib ∧ other = index
    · obtain ⟨rfl, rfl⟩ := same
      rw [story_cons_of_some here]
      exact cellKept
    · have before := kept.cells library other usedOther
      have files : ownFile next library other = ownFile state library other := by
        rw [ownFile, ownFile, acts.cells library other same]
        refine kept.files_of_acts acts named before.present fun sameLib own => ?_
        subst sameLib
        by_contra some
        exact same ⟨rfl, (kept.distinct library index other (own ▸ some) own).symm⟩
      rw [story_cons_of_none (elsewhere library other usedOther same),
        acts.cells library other same, files]
      exact before
  empty := by
    intro library other free
    rw [acts.table] at free
    have differ : ¬ (library = lib ∧ other = index) := by
      rintro ⟨-, rfl⟩
      exact used free
    rw [acts.cells library other differ]
    exact kept.empty library other free
  named := named
  distinct := by
    intro library one other some same
    by_cases oneHere : library = lib ∧ one = index
    · obtain ⟨rfl, rfl⟩ := oneHere
      by_contra differ
      have elsewhere' := acts.cells library other fun both => differ both.2.symm
      rw [elsewhere'] at same
      exact kept.distinct_of_acts acts (fun back => differ back.symm) (same ▸ some) same
    · rw [acts.cells library one oneHere] at some same
      by_cases otherHere : library = lib ∧ other = index
      · obtain ⟨rfl, rfl⟩ := otherHere
        exact absurd same.symm
          (kept.distinct_of_acts acts (fun back => oneHere ⟨rfl, back⟩) some)
      · rw [acts.cells library other otherHere] at same
        exact kept.distinct library one other some same
  freed := by
    intro library other image number older suffix
    rw [acts.log] at suffix
    rcases List.suffix_cons_iff.mp suffix with now | before
    · cases now
      exact freed library other image number rfl
    · exact (kept.freed library other image number older before).act kept acts named

/-! ## Acts on one cell -/

/-- An act that changes no file. -/
theorem acts_setCell {cell : Cell}
    (file : cell.file = (state.cells lib index).file ∨ cell.file = 0) :
    Acts state ((state.setCell lib index cell).record event) lib index event where
  table := rfl
  snapshot := rfl
  log := rfl
  cells := fun _ _ differ => cells_setCell_of_ne state differ cell
  files := fun _ _ _ _ => rfl
  file := by
    change ((state.setCell lib index cell).cells lib index).file = _ ∨
      ((state.setCell lib index cell).cells lib index).file = 0 ∨ _
    rw [cells_setCell_same]
    exact file.imp_right Or.inl

theorem Kept.sync (kept : Kept setup state) (lib : Lib)
    (used : (state.table.entries index).tgid ≠ 0) :
    Kept setup (traceeSync setup lib index state) := by
  refine kept.act (acts_setCell (Or.inl rfl)) (fun _ same => by cases same)
    (if_pos ⟨rfl, rfl⟩) (fun library other _ differ => if_neg ?_) used kept.named ?_
    (fun _ _ _ _ same => by cases same)
  · rintro ⟨rfl, rfl⟩
    exact differ ⟨rfl, rfl⟩
  · have synced := (kept.cells lib index used).sync setup.hash_injOn
    rw [ownFile, traceeSync, State.record]
    dsimp only
    rw [cells_setCell_same]
    exact synced

theorem generation_traceeSync (lib : Lib) (index : Index) (state : State Lib known) :
    ((traceeSync setup lib index state).cells lib index).slots.generation =
      (state.snapshot lib).load := by
  rw [traceeSync, State.record]
  dsimp only
  rw [cells_setCell_same]
  exact generation_sync _ _

omit [DecidableEq Lib] in
/-- The next number is free. -/
theorem Named.files_number (named : Named setup state) (lib : Lib) :
    state.files lib (setup.number lib (state.created lib)) = none := by
  by_contra some
  obtain ⟨count, older, same⟩ := named lib _ some
  exact older.ne (setup.number_injective lib same).symm

theorem acts_writeSynced (named : Named setup state) :
    Acts state (writeSynced setup lib index state) lib index
      (.wrote lib index (fileNumber setup lib index state)) where
  table := rfl
  snapshot := rfl
  log := rfl
  cells := fun _ _ differ => cells_setCell_of_ne state differ _
  files := by
    intro library number some other
    change Function.update state.files lib (Function.update (state.files lib) _ _) library number =
      _
    by_cases same : library = lib
    · subst same
      rw [Function.update_self, Function.update_of_ne]
      rintro rfl
      rw [fileNumber] at some other
      split at some
      · exact some (named.files_number library)
      · next named =>
          rw [if_neg named] at other
          exact other ⟨rfl, rfl⟩
    · rw [Function.update_of_ne same]
  file := by
    have file : ((writeSynced setup lib index state).cells lib index).file =
        fileNumber setup lib index state :=
      congrArg Cell.file (cells_setCell_same state lib index _)
    rw [file, fileNumber]
    split
    · exact .inr (.inr (named.files_number lib))
    · exact .inl rfl

theorem created_writeSynced (library : Lib) :
    state.created library ≤ (writeSynced setup lib index state).created library := by
  rw [writeSynced]
  dsimp only
  split
  · by_cases same : library = lib
    · rw [same, Function.update_self]
      exact Nat.le_succ _
    · rw [Function.update_of_ne same]
  · exact Nat.le_refl _

theorem Kept.named_writeSynced (kept : Kept setup state) :
    Named setup (writeSynced setup lib index state) := by
  intro library number some
  by_cases own : library = lib ∧ number = fileNumber setup lib index state
  · obtain ⟨rfl, rfl⟩ := own
    by_cases first : (state.cells library index).file = 0
    · rw [writeSynced, fileNumber, if_pos first]
      dsimp only
      rw [if_pos first, Function.update_self]
      exact ⟨_, Nat.lt_succ_self _, rfl⟩
    · obtain ⟨count, older, same⟩ := kept.named library _ (kept.present first)
      refine ⟨count, older.trans_le (created_writeSynced library), ?_⟩
      rw [fileNumber, if_neg first]
      exact same
  · have files : (writeSynced setup lib index state).files library number =
        state.files library number := by
      change Function.update state.files lib (Function.update (state.files lib) _ _) library
        number = _
      by_cases same : library = lib
      · subst same
        rw [Function.update_self, Function.update_of_ne fun here => own ⟨rfl, here⟩]
      · rw [Function.update_of_ne same]
    rw [files] at some
    obtain ⟨count, older, same⟩ := kept.named library number some
    exact ⟨count, older.trans_le (created_writeSynced library), same⟩

theorem Kept.writeSynced (kept : Kept setup state)
    (used : (state.table.entries index).tgid ≠ 0)
    (synced : (state.cells lib index).slots.generation = (state.snapshot lib).load) :
    Kept setup (writeSynced setup lib index state) := by
  refine kept.act (acts_writeSynced kept.named) (fun _ same => by cases same)
    (if_pos ⟨rfl, rfl⟩) (fun library other _ differ => if_neg ?_) used kept.named_writeSynced ?_
    (fun _ _ _ _ same => by cases same)
  · rintro ⟨rfl, rfl⟩
    exact differ ⟨rfl, rfl⟩
  · have written := (kept.cells lib index used).write synced (fileNumber setup lib index state)
    have cell : (TraceeState.writeSynced setup lib index state).cells lib index =
        { state.cells lib index with
          pending := false
          file := fileNumber setup lib index state } :=
      cells_setCell_same state lib index _
    have file : (TraceeState.writeSynced setup lib index state).files lib
        (fileNumber setup lib index state) =
          some ⟨imageOf (state.table.entries index),
            linesOf (setup.maxRules lib) (state.snapshot lib) (state.cells lib index)⟩ := by
      change Function.update state.files lib (Function.update (state.files lib) _ _) lib _ = _
      rw [Function.update_self, Function.update_self]
    rw [ownFile, cell, file]
    exact written

theorem Kept.write (kept : Kept setup state) (lib : Lib)
    (used : (state.table.entries index).tgid ≠ 0) :
    Kept setup (chaosInitTraceeWrite setup lib index state) :=
  (kept.sync lib used).writeSynced used (generation_traceeSync lib index state)

/-- A write leaves nothing pending. -/
theorem pending_write (lib : Lib) (index : Index) (state : State Lib known) :
    ((chaosInitTraceeWrite setup lib index state).cells lib index).pending = false :=
  congrArg Cell.pending (cells_setCell_same (traceeSync setup lib index state) lib index _)

theorem cells_write_of_ne (state : State Lib known) {library : Lib} {other : Index}
    (differ : ¬ (library = lib ∧ other = index)) :
    (chaosInitTraceeWrite setup lib index state).cells library other =
      state.cells library other :=
  (cells_setCell_of_ne (traceeSync setup lib index state) differ _).trans
    (cells_setCell_of_ne state differ _)

/-! ## Hits -/

/-- A hit that is still to be written. -/
def struck (lib : Lib) (index : Index) (rule : Nat) (image : Image) (text : Bytes)
    (state : State Lib known) : State Lib known :=
  (state.setCell lib index
    { (state.cells lib index).hit rule with
      total := (state.cells lib index).total + 1
      pending := true }).record (.hit lib image text)

theorem Kept.struck (kept : Kept setup state)
    (used : (state.table.entries index).tgid ≠ 0)
    (synced : (state.cells lib index).slots.generation = (state.snapshot lib).load)
    {rule : Nat} {text : Bytes}
    (listed : (slotted (setup.maxRules lib) (state.snapshot lib))[rule]? = some text) :
    Kept setup
      (struck lib index rule (imageOf (state.table.entries index)) text state) := by
  refine kept.act (acts_setCell (Or.inl rfl)) (fun _ same => by cases same)
    (if_pos ⟨rfl, rfl⟩) (fun library other usedOther differ => if_neg ?_) used kept.named ?_
    (fun _ _ _ _ same => by cases same)
  · -- No other entry is of a process with this id.
    rintro ⟨rfl, same⟩
    exact differ ⟨rfl, kept.single other index usedOther (congrArg Prod.fst same).symm⟩
  · have hit := (kept.cells lib index used).strike synced listed
    rw [ownFile, TraceeKept.struck, State.record]
    dsimp only
    rw [cells_setCell_same]
    exact hit

/-- Whether a hit is pending when its entry is written makes no difference. -/
theorem write_pending (lib : Lib) (index : Index) (cell : Cell) (event : Event Lib)
    (pending : Bool) :
    chaosInitTraceeWrite setup lib index
        ((state.setCell lib index { cell with pending := pending }).record event) =
      chaosInitTraceeWrite setup lib index ((state.setCell lib index cell).record event) := by
  simp [chaosInitTraceeWrite, writeSynced, traceeSync, State.record, State.setCell, fileNumber,
    linesOf, Cell.sync]

/-- The first hits are written at once, later ones are left pending. -/
theorem chaosHitRecord_eq (lib : Lib) (index : Index) (rule : Nat) (image : Image)
    (text : Bytes) (state : State Lib known) :
    chaosHitRecord setup lib index rule image text state =
      if (state.cells lib index).total + 1 ≤ chaosHitsEager then
        chaosInitTraceeWrite setup lib index (struck lib index rule image text state)
      else struck lib index rule image text state := by
  have cell : ((state.setCell lib index ((state.cells lib index).hit rule)).record
      (.hit lib image text)).cells lib index = (state.cells lib index).hit rule :=
    cells_setCell_same state lib index _
  have replaced (other : Cell) :
      ((state.setCell lib index ((state.cells lib index).hit rule)).record
        (.hit lib image text)).setCell lib index other =
          (state.setCell lib index other).record (.hit lib image text) :=
    congrArg (State.record · (.hit lib image text)) (setCell_setCell state lib index _ other)
  rw [chaosHitRecord, chaosInitTraceeReport, cell]
  rw [replaced, replaced]
  exact if_congr Iff.rfl (write_pending lib index _ _ true).symm rfl

theorem Kept.chaosHitRecord (kept : Kept setup state)
    (used : (state.table.entries index).tgid ≠ 0)
    (synced : (state.cells lib index).slots.generation = (state.snapshot lib).load)
    {rule : Nat} {text : Bytes}
    (listed : (slotted (setup.maxRules lib) (state.snapshot lib))[rule]? = some text) :
    Kept setup (chaosHitRecord setup lib index rule (imageOf (state.table.entries index)) text
      state) := by
  rw [chaosHitRecord_eq]
  have hit := kept.struck used synced listed
  split
  · exact hit.write lib used
  · exact hit

/-! ## Drops -/

/-- Some cells are emptied, the others stay as they are. -/
structure Empties (state next : State Lib known) : Prop where
  table : next.table = state.table
  snapshot : next.snapshot = state.snapshot
  cells : ∀ lib index, next.cells lib index = state.cells lib index ∨
    next.cells lib index = .empty

omit [DecidableEq Lib] in
theorem Empties.refl (state : State Lib known) : Empties state state :=
  ⟨rfl, rfl, fun _ _ => Or.inl rfl⟩

omit [DecidableEq Lib] in
theorem Empties.trans {last : State Lib known} (first : Empties state next)
    (second : Empties next last) : Empties state last where
  table := second.table.trans first.table
  snapshot := second.snapshot.trans first.snapshot
  cells := by
    intro lib index
    rcases second.cells lib index with same | empty
    · rw [same]
      exact first.cells lib index
    · exact Or.inr empty

omit [DecidableEq Lib] in
theorem Empties.empty (empties : Empties state next)
    (empty : state.cells lib index = .empty) : next.cells lib index = .empty :=
  (empties.cells lib index).elim (fun same => same.trans empty) id

/-- What `chaos_init_tracee_drop` writes before it frees the cell. -/
def beforeFree (setup : Setup Lib known) (lib : Lib) (index : Index) (state : State Lib known) :
    State Lib known :=
  if (state.cells lib index).pending then chaosInitTraceeWrite setup lib index state else state

theorem pending_beforeFree (lib : Lib) (index : Index) (state : State Lib known) :
    ((beforeFree setup lib index state).cells lib index).pending = false := by
  rw [beforeFree]
  split
  · exact pending_write lib index state
  · next written => exact Bool.eq_false_of_not_eq_true written

theorem Kept.beforeFree (kept : Kept setup state) (lib : Lib)
    (used : (state.table.entries index).tgid ≠ 0) :
    Kept setup (beforeFree setup lib index state) := by
  rw [TraceeKept.beforeFree]
  split
  · exact kept.write lib used
  · exact kept

theorem table_beforeFree (lib : Lib) (index : Index) (state : State Lib known) :
    (beforeFree setup lib index state).table = state.table ∧
      (beforeFree setup lib index state).snapshot = state.snapshot := by
  rw [beforeFree]
  split <;> exact ⟨rfl, rfl⟩

theorem cells_beforeFree_of_ne (state : State Lib known) {library : Lib} {other : Index}
    (differ : ¬ (library = lib ∧ other = index)) :
    (beforeFree setup lib index state).cells library other = state.cells library other := by
  rw [beforeFree]
  split
  · exact cells_write_of_ne state differ
  · rfl

/-- Freeing a cell that has nothing pending. -/
def freeCell (lib : Lib) (index : Index) (state : State Lib known) : State Lib known :=
  (state.setCell lib index .empty).record
    (.freed lib index (imageOf (state.table.entries index)) (state.cells lib index).file)

theorem dropLib_eq (lib : Lib) (index : Index) (state : State Lib known) :
    dropLib setup index state lib = freeCell lib index (beforeFree setup lib index state) := by
  have empty : { (beforeFree setup lib index state).cells lib index with
      slots := .empty, total := 0, file := 0 } = Cell.empty := by
    rw [Cell.empty, ← @pending_beforeFree Lib _ known setup lib index state]
  rw [freeCell, ← empty]
  rfl

theorem Kept.free (kept : Kept setup state) (lib : Lib)
    (used : (state.table.entries index).tgid ≠ 0)
    (written : (state.cells lib index).pending = false) :
    Kept setup (freeCell lib index state) := by
  have before := kept.cells lib index used
  refine kept.act (acts_setCell (Or.inr rfl)) (fun _ same => by cases same)
    (if_pos ⟨rfl, rfl⟩) (fun library other _ differ => if_neg ?_) used kept.named ?_ ?_
  · rintro ⟨rfl, rfl⟩
    exact differ ⟨rfl, rfl⟩
  · rw [ownFile, freeCell, State.record]
    dsimp only
    rw [cells_setCell_same]
    have none : (state.setCell lib index .empty).files lib Cell.empty.file = none :=
      kept.named.files_zero lib
    rw [none]
    exact cellKept_start _
  · rintro library other image number same
    cases same
    refine ⟨before.owner, before.saved written, before.present, ?_⟩
    intro other own
    by_contra some
    by_cases same : other = index
    · subst same
      have empty : ((freeCell lib other state).cells lib other) = .empty :=
        cells_setCell_same state lib other _
      rw [empty] at own
      exact some own.symm
    · have kept' : (freeCell lib index state).cells lib other =
          state.cells lib other :=
        cells_setCell_of_ne state (fun both => same both.2) _
      rw [kept'] at own
      exact same (kept.distinct lib other index (own ▸ some) own)

theorem dropLib_spec (kept : Kept setup state) (lib : Lib)
    (used : (state.table.entries index).tgid ≠ 0) :
    Kept setup (dropLib setup index state lib) ∧ Empties state (dropLib setup index state lib) ∧
      (dropLib setup index state lib).cells lib index = .empty := by
  obtain ⟨table, snapshot⟩ := @table_beforeFree Lib _ known setup lib index state
  have emptied : (freeCell lib index (beforeFree setup lib index state)).cells lib index = .empty :=
    cells_setCell_same _ lib index _
  have usedAfter : ((beforeFree setup lib index state).table.entries index).tgid ≠ 0 := by
    rw [table]
    exact used
  rw [dropLib_eq]
  refine ⟨(kept.beforeFree lib used).free lib usedAfter (pending_beforeFree lib index state),
    ⟨table, snapshot, fun library other => ?_⟩, emptied⟩
  by_cases same : library = lib ∧ other = index
  · obtain ⟨rfl, rfl⟩ := same
    exact Or.inr emptied
  · exact Or.inl ((cells_setCell_of_ne _ same _).trans (cells_beforeFree_of_ne state same))

/-- A log tells, after what was in another one, that a cell of a process was freed. -/
def FreedSince (lib : Lib) (index : Index) (image : Image) (log later : List (Event Lib)) :
    Prop :=
  ∃ number older, .freed lib index image number :: older <:+ later ∧ log <:+ older

omit [DecidableEq Lib] in
theorem FreedSince.mono {image : Image} {log log' later later' : List (Event Lib)}
    (freed : FreedSince lib index image log later) (before : log' <:+ log)
    (behind : later <:+ later') : FreedSince lib index image log' later' := by
  obtain ⟨number, older, suffix, earlier⟩ := freed
  exact ⟨number, older, suffix.trans behind, before.trans earlier⟩

theorem suffix_log_write (lib : Lib) (index : Index) (state : State Lib known) :
    state.log <:+ (chaosInitTraceeWrite setup lib index state).log :=
  (List.suffix_cons _ _).trans (List.suffix_cons _ _)

theorem freedSince_dropLib (lib : Lib) (index : Index) (state : State Lib known) :
    FreedSince lib index (imageOf (state.table.entries index)) state.log
      (dropLib setup index state lib).log := by
  have before : state.log <:+ (beforeFree setup lib index state).log := by
    rw [beforeFree]
    split
    · exact suffix_log_write lib index state
    · exact List.suffix_refl _
  rw [dropLib_eq, ← (@table_beforeFree Lib _ known setup lib index state).1]
  exact ⟨_, _, List.suffix_refl _, before⟩

omit [DecidableEq Lib] in
theorem FreedSince.suffix {image : Image} {log later : List (Event Lib)}
    (freed : FreedSince lib index image log later) : log <:+ later := by
  obtain ⟨number, older, suffix, earlier⟩ := freed
  exact earlier.trans ((List.suffix_cons _ _).trans suffix)

theorem table_dropLib (lib : Lib) (index : Index) (state : State Lib known) :
    (dropLib setup index state lib).table = state.table := by
  rw [dropLib_eq]
  exact (table_beforeFree lib index state).1

theorem freedSince_drop (libs : List Lib) (index : Index) (state : State Lib known) :
    (libs.foldl (dropLib setup index) state).table = state.table ∧
      state.log <:+ (libs.foldl (dropLib setup index) state).log ∧
      ∀ lib ∈ libs, FreedSince lib index (imageOf (state.table.entries index)) state.log
        (libs.foldl (dropLib setup index) state).log := by
  induction libs generalizing state with
  | nil => exact ⟨rfl, List.suffix_refl _, fun _ member => absurd member List.not_mem_nil⟩
  | cons first others induction =>
      obtain ⟨table, suffix, freed⟩ := induction (dropLib setup index state first)
      have here := @freedSince_dropLib Lib _ known setup first index state
      rw [table_dropLib] at table freed
      refine ⟨table, here.suffix.trans suffix, fun lib member => ?_⟩
      rcases List.mem_cons.mp member with rfl | later
      · exact here.mono (List.suffix_refl _) suffix
      · exact (freed lib later).mono here.suffix (List.suffix_refl _)

/-- Every library frees its cell of every entry that is dropped. -/
theorem freedSince_drops (dropped : List Index) (state : State Lib known) :
    state.log <:+ (dropped.foldl (chaosInitTraceeDrop setup) state).log ∧
      ∀ index ∈ dropped, ∀ lib,
        FreedSince lib index (imageOf (state.table.entries index)) state.log
          (dropped.foldl (chaosInitTraceeDrop setup) state).log := by
  induction dropped generalizing state with
  | nil => exact ⟨List.suffix_refl _, fun _ member => absurd member List.not_mem_nil⟩
  | cons first others induction =>
      obtain ⟨suffix, freed⟩ := induction (chaosInitTraceeDrop setup state first)
      obtain ⟨table, before, here⟩ := @freedSince_drop Lib _ known setup setup.libs first state
      refine ⟨before.trans suffix, fun index member lib => ?_⟩
      rcases List.mem_cons.mp member with rfl | later
      · exact (here lib (setup.complete lib)).mono (List.suffix_refl _) suffix
      · have dropped := freed index later lib
        rw [chaosInitTraceeDrop, table] at dropped
        exact dropped.mono before (List.suffix_refl _)

/-- A drop of entries in use empties what every library keeps for them. -/
theorem drop_spec (kept : Kept setup state) (used : (state.table.entries index).tgid ≠ 0)
    (libs : List Lib) :
    Kept setup (libs.foldl (dropLib setup index) state) ∧
      Empties state (libs.foldl (dropLib setup index) state) ∧
        ∀ lib ∈ libs, (libs.foldl (dropLib setup index) state).cells lib index = .empty := by
  induction libs generalizing state with
  | nil => exact ⟨kept, .refl state, fun _ member => absurd member List.not_mem_nil⟩
  | cons first others induction =>
      obtain ⟨keptFirst, empties, empty⟩ := dropLib_spec kept first used
      obtain ⟨keptRest, emptiesRest, emptyRest⟩ := induction keptFirst (empties.table ▸ used)
      refine ⟨keptRest, empties.trans emptiesRest, fun lib member => ?_⟩
      rcases List.mem_cons.mp member with rfl | later
      · exact emptiesRest.empty empty
      · exact emptyRest lib later

theorem drops_spec (kept : Kept setup state) {dropped : List Index}
    (used : ∀ index ∈ dropped, (state.table.entries index).tgid ≠ 0) :
    Kept setup (dropped.foldl (chaosInitTraceeDrop setup) state) ∧
      Empties state (dropped.foldl (chaosInitTraceeDrop setup) state) ∧
        ∀ index ∈ dropped, ∀ lib,
          (dropped.foldl (chaosInitTraceeDrop setup) state).cells lib index = .empty := by
  induction dropped generalizing state with
  | nil => exact ⟨kept, .refl state, fun _ member => absurd member List.not_mem_nil⟩
  | cons first others induction =>
      obtain ⟨keptFirst, empties, empty⟩ :=
        drop_spec kept (used first List.mem_cons_self) setup.libs
      obtain ⟨keptRest, emptiesRest, emptyRest⟩ := induction keptFirst fun index member =>
        empties.table ▸ used index (List.mem_cons_of_mem first member)
      refine ⟨keptRest, empties.trans emptiesRest, fun index member lib => ?_⟩
      rcases List.mem_cons.mp member with rfl | later
      · exact emptiesRest.empty (empty lib (setup.complete lib))
      · exact emptyRest index later lib

end ChaosLibs.Init.TraceeKept
