import ChaosLibs.Init.TraceeKept

/-!
# What the supervisor counts for each process

In every state that a run of the table reaches, what a library keeps for an entry is what
the log tells of the process that holds it; what was counted for a process is in its hits
file after a flush, and since its entry was dropped; and a living process loses its entry
only when it is the least recently used one of a full table.
-/

namespace ChaosLibs.Init.TraceeAccounts

open ChaosLibs.Common.CString
open ChaosLibs.Init.TraceeCells
open ChaosLibs.Init.TraceeKept
open ChaosLibs.Init.TraceeSlots
open ChaosLibs.Init.TraceeState
open ChaosLibs.Init.TraceeTable

variable {Lib : Type*} [DecidableEq Lib] {known : Set Bytes} {setup : Setup Lib known}
variable {state next : State Lib known} {lib : Lib} {index : Index}

/-! ## A process is looked up -/

/-- A log that says at most that an entry was given to another process. -/
def Gives (index : Index) (log given : List (Event Lib)) : Prop :=
  given = log ∨ given = .got index :: log

omit [DecidableEq Lib] in
theorem Gives.asks {log given : List (Event Lib)} (gives : Gives index log given) :
    asks given = asks log := by
  rcases gives with rfl | rfl <;> rfl

omit [DecidableEq Lib] in
theorem Gives.lastAsked {log given : List (Event Lib)} (gives : Gives index log given)
    (image : Image) : lastAsked image given = lastAsked image log := by
  rcases gives with rfl | rfl <;> rfl

theorem Gives.story {log given : List (Event Lib)} (gives : Gives index log given)
    {other : Index} (differ : other ≠ index) (image : Image) :
    story lib other image given = story lib other image log := by
  rcases gives with rfl | rfl
  · rfl
  · exact story_cons_of_none (if_neg differ.symm)

omit [DecidableEq Lib] in
theorem Gives.suffix {log given older : List (Event Lib)} (gives : Gives index log given)
    {library : Lib} {other : Index} {image : Image} {number : Nat}
    (suffix : .freed library other image number :: older <:+ given) :
    .freed library other image number :: older <:+ log := by
  rcases gives with rfl | rfl
  · exact suffix
  · rcases List.suffix_cons_iff.mp suffix with same | before
    · cases same
    · exact before

/-- The table after a process was looked up, once the entries that go are empty. -/
theorem kept_asked (kept : Kept setup state) {table : Table} {image : Image}
    {given : List (Event Lib)} (gives : Gives index state.log given)
    (single : Single table.entries) (age : table.age = state.table.age + 1)
    (here : imageOf (table.entries index) = image) (last : (table.entries index).age = table.age)
    (others : ∀ other, other ≠ index → (table.entries other).tgid ≠ 0 →
      table.entries other = state.table.entries other)
    (gone : ∀ lib other, (table.entries other).tgid = 0 → state.cells lib other = .empty)
    (cells : ∀ lib, CellKept (setup.maxRules lib) (state.snapshot lib) image
      (state.cells lib index) (ownFile state lib index) (story lib index image given)) :
    Kept setup { state with table := table, log := .asked image :: given } where
  single := single
  age := by
    change table.age = asks given + 1
    rw [age, gives.asks, kept.age]
  ages := by
    intro other used
    change (table.entries other).age =
      if image = imageOf (table.entries other) then asks given + 1
      else lastAsked (imageOf (table.entries other)) given
    by_cases same : other = index
    · rw [same, here, if_pos rfl, last, age, gives.asks, kept.age]
    · have differ : image ≠ imageOf (table.entries other) := by
        intro equal
        rw [← here] at equal
        exact same (single other index used (congrArg Prod.fst equal).symm)
      rw [if_neg differ, gives.lastAsked, others other same used]
      exact kept.ages other (others other same used ▸ used)
  cells := by
    intro lib other used
    change CellKept _ (state.snapshot lib) (imageOf (table.entries other)) (state.cells lib other)
      (ownFile state lib other) (story lib other (imageOf (table.entries other)) (_ :: given))
    rw [story_cons_of_none rfl]
    by_cases same : other = index
    · rw [same, here]
      exact cells lib
    · rw [gives.story same, others other same used]
      exact kept.cells lib other (others other same used ▸ used)
  empty := gone
  named := kept.named
  distinct := kept.distinct
  freed := by
    intro lib other image' number older suffix
    rcases List.suffix_cons_iff.mp suffix with same | before
    · cases same
    · have settled := kept.freed lib other image' number older (gives.suffix before)
      exact ⟨settled.owner, settled.saved, settled.present, settled.released⟩

/-- What `chaos_init_tracee_of` returns is the entry of the process. -/
theorem kept_enter (kept : Kept setup state) {population : Population} {tid : Nat}
    {image : Image} (identity : population.lookup tid = some image)
    (entered : traceeOf setup population tid image state = some (index, next)) :
    Kept setup next ∧ imageOf (next.table.entries index) = image ∧
      (next.table.entries index).tgid ≠ 0 ∧ next.snapshot = state.snapshot := by
  obtain ⟨tgid, start⟩ := image
  have process : tgid ≠ 0 := population.positive identity
  obtain ⟨⟨found, table, dropped⟩, result, same⟩ := Option.map_eq_some_iff.mp entered
  have used := used_of_dropped kept.single process identity result
  have single := single_chaosInitTraceeOf kept.single process identity result
  obtain ⟨keptDrop, empties, empty⟩ := drops_spec kept used
  have spec := chaosInitTraceeOf_spec kept.single process identity result
  dsimp only at same
  generalize dropped.foldl (chaosInitTraceeDrop setup) state = after at same keptDrop empties empty
  cases same
  have sameTable := empties.table
  have gives : Gives index after.log
      (if table.serial = state.table.serial then after.log else .got index :: after.log) := by
    split
    · exact Or.inl rfl
    · exact Or.inr rfl
  rcases spec with finds | allocates
  · have here : imageOf (table.entries index) = (tgid, start) := by
      rw [finds.here]
      exact Prod.ext finds.own.1 finds.own.2
    have others : ∀ other, other ≠ index → table.entries other = after.table.entries other := by
      rw [sameTable]
      exact finds.others
    have was : imageOf (after.table.entries index) = (tgid, start) := by
      rw [sameTable]
      exact Prod.ext finds.own.1 finds.own.2
    refine ⟨kept_asked keptDrop gives single (sameTable ▸ finds.age) here ?_
      (fun other differ _ => others other differ) ?_ ?_, here, ?_, empties.snapshot⟩
    · rw [finds.here, finds.age]
    · intro lib other free
      by_cases same : other = index
      · rw [same] at free
        exact absurd ((congrArg Prod.fst here).symm.trans free) process
      · rw [others other same] at free
        exact keptDrop.empty lib other free
    · intro lib
      rw [if_pos finds.serial, ← was]
      exact keptDrop.cells lib index fun zero =>
        process ((congrArg Prod.fst was).symm.trans zero)
    · exact fun zero => process ((congrArg Prod.fst here).symm.trans zero)
  · have here : imageOf (table.entries index) = (tgid, start) := by
      rw [allocates.here]
      rfl
    have others : ∀ other, other ≠ index → other ∉ dropped →
        table.entries other = after.table.entries other := by
      rw [sameTable]
      exact allocates.kept
    have emptyHere (lib : Lib) : after.cells lib index = .empty := by
      rcases allocates.room with member | free
      · exact empty index member lib
      · rw [← sameTable] at free
        exact keptDrop.empty lib index free
    refine ⟨kept_asked keptDrop gives single (sameTable ▸ allocates.age) here ?_ ?_ ?_ ?_, here, ?_,
      empties.snapshot⟩
    · rw [allocates.here, allocates.age]
    · intro other differ usedOther
      refine others other differ fun member => usedOther ?_
      rw [allocates.freed other differ member]
    · intro lib other free
      by_cases same : other = index
      · rw [same] at free
        exact absurd ((congrArg Prod.fst here).symm.trans free) process
      · by_cases member : other ∈ dropped
        · exact empty other member lib
        · rw [others other same member] at free
          exact keptDrop.empty lib other free
    · intro lib
      have serial : table.serial ≠ state.table.serial := by
        rw [allocates.serial]
        exact Nat.succ_ne_self _
      have start : story lib index (tgid, start) (.got index :: after.log) =
          .start :: story lib index (tgid, start) after.log :=
        story_cons_of_some (if_pos rfl)
      have none : ownFile after lib index = none := by
        rw [ownFile, emptyHere lib]
        exact keptDrop.named.files_zero lib
      rw [if_neg serial, start, none, emptyHere lib]
      exact cellKept_start _
    · exact fun zero => process ((congrArg Prod.fst here).symm.trans zero)

/-! ## Every step -/

theorem kept_hit (kept : Kept setup state) (population : Population) (lib : Lib)
    (tid rule : Nat) (fires : Bool) :
    Kept setup (chaosInitTraceeHit setup population lib tid rule fires state) := by
  rw [chaosInitTraceeHit]
  cases listed : (state.snapshot lib).texts[rule]? with
  | none => exact kept
  | some text =>
      cases identity : population.lookup tid with
      | none => exact kept
      | some image =>
          dsimp only
          cases found : traceeOf setup population tid image state with
          | none => exact kept
          | some result =>
              obtain ⟨index, entered⟩ := result
              obtain ⟨keptEntered, here, used, snapshot⟩ := kept_enter kept identity found
              have keptSynced := keptEntered.sync lib used
              have synced := @generation_traceeSync Lib _ known setup lib index entered
              dsimp only
              split
              · next counts =>
                  have cell := keptSynced.cells lib index used
                  have length := congrArg List.length (cell.rows.trans
                    (congrArg (List.map _) (cell.current synced)))
                  rw [List.length_map] at length
                  have slot : (slotted (setup.maxRules lib)
                      ((traceeSync setup lib index entered).snapshot lib))[rule]? = some text := by
                    have inside := length ▸ counts.1
                    have short := inside.trans_le (List.length_take_le _ _)
                    rw [slotted, List.getElem?_take_of_lt short]
                    exact (congrArg (fun snapshot => (snapshot lib).texts[rule]?) snapshot).trans
                      listed
                  have counted := keptSynced.chaosHitRecord used synced slot
                  rw [← here]
                  exact counted
              · exact keptSynced

theorem kept_flushCell (kept : Kept setup state) (all : Bool) (place : Lib × Index) :
    Kept setup (flushCell setup all state place) := by
  rw [flushCell]
  split
  · next used => exact kept.write place.1 used.1
  · exact kept

theorem kept_flush (kept : Kept setup state) (all : Bool) :
    Kept setup (chaosInitTraceeFlush setup all state) := by
  rw [chaosInitTraceeFlush]
  generalize setup.libs ×ˢ List.finRange chaosInitMaxTracees = places
  induction places generalizing state with
  | nil => exact kept
  | cons place places induction => exact induction (kept_flushCell kept all place)

theorem kept_reload (kept : Kept setup state) (lib : Lib) (loaded : Snapshot known)
    (later : (state.snapshot lib).load < loaded.load) :
    Kept setup { state with snapshot := Function.update state.snapshot lib loaded } :=
  { kept with
    cells := by
      intro library index used
      have before := kept.cells library index used
      change CellKept _ (Function.update state.snapshot lib loaded library) _ _
        (ownFile state library index) _
      by_cases same : library = lib
      · subst same
        rw [Function.update_self]
        exact before.reload later
      · rw [Function.update_of_ne same]
        exact before
    freed := by
      intro library index image number older suffix
      have settled := kept.freed library index image number older suffix
      exact ⟨settled.owner, settled.saved, settled.present, settled.released⟩ }

theorem kept_step (kept : Kept setup state) (label : Label Lib known) :
    Kept setup (step setup state label) := by
  cases label with
  | enter population tid =>
      rw [step]
      cases identity : population.lookup tid with
      | none => exact kept
      | some image =>
          dsimp only
          cases found : traceeOf setup population tid image state with
          | none => exact kept
          | some result => exact (kept_enter kept identity found).1
  | hit population lib tid rule fires => exact kept_hit kept population lib tid rule fires
  | flush all => exact kept_flush kept all
  | reload lib texts skipped =>
      exact kept_reload kept lib _ (Nat.lt_succ_of_le (Nat.le_add_right _ _))

theorem kept_initial (snapshot : Lib → Snapshot known) : Kept setup (initial snapshot) where
  single := fun _ _ used => absurd rfl used
  age := rfl
  ages := fun _ used => absurd rfl used
  cells := fun _ _ used => absurd rfl used
  empty := fun _ _ _ => rfl
  named := fun _ _ some => absurd rfl some
  distinct := fun _ _ _ some => absurd rfl some
  freed := fun _ _ _ _ _ suffix =>
    absurd (List.suffix_nil.mp suffix) (List.cons_ne_nil _ _)

theorem kept_after (snapshot : Lib → Snapshot known) (labels : List (Label Lib known)) :
    Kept setup (after setup snapshot labels) := by
  rw [after]
  generalize start : initial snapshot = state
  have kept : Kept setup state := start ▸ kept_initial snapshot
  clear start
  induction labels generalizing state with
  | nil => exact kept
  | cons label labels induction => exact induction _ (kept_step kept label)

/-! ## Flushes -/

/-- A round of a flush writes what is pending in its place, and marks nothing pending. -/
theorem flushCell_spec (all : Bool) (state : State Lib known) (place : Lib × Index) :
    (flushCell setup all state place).table = state.table ∧
      (∀ lib index, (state.cells lib index).pending = false →
        ((flushCell setup all state place).cells lib index).pending = false) ∧
      ((state.table.entries place.2).tgid ≠ 0 →
        ((flushCell setup all state place).cells place.1 place.2).pending = false) := by
  rw [flushCell]
  split
  · have written := @pending_write Lib _ known setup place.1 place.2 state
    refine ⟨rfl, fun lib index before => ?_, fun _ => written⟩
    by_cases same : lib = place.1 ∧ index = place.2
    · rw [same.1, same.2]
      exact written
    · rw [cells_write_of_ne state same]
      exact before
  · next quiet =>
      refine ⟨rfl, fun _ _ before => before, fun used => ?_⟩
      exact Bool.eq_false_of_not_eq_true fun pending => quiet ⟨used, Or.inl pending⟩

theorem flush_places (all : Bool) (places : List (Lib × Index)) (state : State Lib known) :
    (places.foldl (flushCell setup all) state).table = state.table ∧
      (∀ lib index, (state.cells lib index).pending = false →
        ((places.foldl (flushCell setup all) state).cells lib index).pending = false) ∧
      ∀ place ∈ places, (state.table.entries place.2).tgid ≠ 0 →
        ((places.foldl (flushCell setup all) state).cells place.1 place.2).pending = false := by
  induction places generalizing state with
  | nil => exact ⟨rfl, fun _ _ before => before, fun _ member => absurd member List.not_mem_nil⟩
  | cons first others induction =>
      obtain ⟨table, kept, written⟩ := @flushCell_spec Lib _ known setup all state first
      obtain ⟨tableRest, keptRest, writtenRest⟩ := induction (flushCell setup all state first)
      refine ⟨tableRest.trans table, fun lib index before => keptRest _ _ (kept _ _ before), ?_⟩
      intro place member used
      rcases List.mem_cons.mp member with rfl | later
      · exact keptRest _ _ (written used)
      · exact writtenRest place later (by rw [table]; exact used)

/-- A flush leaves nothing pending. -/
theorem pending_flush (all : Bool) (state : State Lib known) (lib : Lib) (index : Index)
    (used : ((chaosInitTraceeFlush setup all state).table.entries index).tgid ≠ 0) :
    ((chaosInitTraceeFlush setup all state).cells lib index).pending = false := by
  rw [chaosInitTraceeFlush] at used ⊢
  obtain ⟨table, -, written⟩ := @flush_places Lib _ known setup all
    (setup.libs ×ˢ List.finRange chaosInitMaxTracees) state
  rw [table] at used
  exact written (lib, index)
    (List.pair_mem_product.mpr ⟨setup.complete lib, List.mem_finRange index⟩) used

/-! ## Evictions -/

/-- The same process holds an entry. -/
def SameHolder (entry other : Tracee) : Prop :=
  imageOf entry = imageOf other ∧ entry.serial = other.serial

/-- The process of an entry has ended, or has another image. -/
def Gone (population : Population) (entry : Tracee) : Prop :=
  population.lookup entry.tgid ≠ some (imageOf entry)

/--
The table is full, no process in it has ended or changed its image, and the process of this
entry is the one whose last call is the longest ago.
-/
def LeastRecentlyUsed (population : Population) (state : State Lib known) (index : Index) :
    Prop :=
  (∀ other, (state.table.entries other).tgid ≠ 0 ∧
    ¬ Gone population (state.table.entries other)) ∧
  ∀ other, lastAsked (imageOf (state.table.entries index)) state.log ≤
    lastAsked (imageOf (state.table.entries other)) state.log

theorem unchanged_iff (population : Population) (entry : Tracee) :
    unchanged population.lookup entry = true ↔ ¬ Gone population entry := by
  rw [unchanged, beq_iff_eq, Gone, not_not]
  rfl

/-- An entry that a call of `chaos_init_tracee_of` takes from its process. -/
theorem taken_of_kept (kept : Kept setup state) {population : Population} {tid : Nat}
    {image : Image} (identity : population.lookup tid = some image)
    {found : Index} (entered : traceeOf setup population tid image state = some (found, next))
    (used : (state.table.entries index).tgid ≠ 0)
    (taken : ¬ SameHolder (state.table.entries index) (next.table.entries index)) :
    (Gone population (state.table.entries index) ∨
        LeastRecentlyUsed population state index) ∧
      ∀ lib, FreedSince lib index (imageOf (state.table.entries index)) state.log next.log := by
  obtain ⟨tgid, start⟩ := image
  have process : tgid ≠ 0 := population.positive identity
  obtain ⟨⟨other, table, dropped⟩, result, same⟩ := Option.map_eq_some_iff.mp entered
  cases same
  dsimp only at taken
  rcases chaosInitTraceeOf_spec kept.single process identity result with finds | allocates
  · by_cases here : index = found
    · rw [here, finds.here] at taken
      exact absurd ⟨rfl, rfl⟩ taken
    · rw [finds.others index here] at taken
      exact absurd ⟨rfl, rfl⟩ taken
  · have member : index ∈ dropped := by
      by_contra stays
      by_cases here : index = found
      · rw [here] at stays used
        exact allocates.room.elim stays used
      · rw [allocates.kept index here stays] at taken
        exact taken ⟨rfl, rfl⟩
    have freed := (@freedSince_drops Lib _ known setup dropped state).2 index member
    have later : (dropped.foldl (chaosInitTraceeDrop setup) state).log <:+
        .asked (tgid, start) ::
          if table.serial = state.table.serial then
            (dropped.foldl (chaosInitTraceeDrop setup) state).log
          else .got found :: (dropped.foldl (chaosInitTraceeDrop setup) state).log := by
      split
      · exact List.suffix_cons _ _
      · exact (List.suffix_cons _ _).trans (List.suffix_cons _ _)
    refine ⟨?_, fun lib => (freed lib).mono (List.suffix_refl _) later⟩
    rcases allocates.reason index member with sameId | changed | evicts
    · -- The process of this id has another identity now.
      refine Or.inl fun alive => allocates.absent index ⟨sameId, ?_⟩
      rw [sameId, population.leader identity] at alive
      exact (congrArg Prod.snd (Option.some.inj alive)).symm
    · refine Or.inl ?_
      by_contra alive
      rw [(unchanged_iff population _).mpr alive] at changed
      exact Bool.noConfusion changed
    · refine Or.inr ⟨fun other => ⟨(evicts.1 other).1, ?_⟩, fun other => ?_⟩
      · exact (unchanged_iff population _).mp (evicts.1 other).2
      · rw [← kept.ages index used, ← kept.ages other (evicts.1 other).1]
        exact evicts.2 other

/-- The steps of the table go through `chaos_init_tracee_of`. -/
theorem table_step (state : State Lib known) (label : Label Lib known) :
    (step setup state label).table = state.table ∨
      ∃ population tid image found next, label.population = some population ∧
        population.lookup tid = some image ∧
        traceeOf setup population tid image state = some (found, next) ∧
        (step setup state label).table = next.table ∧
        next.log <:+ (step setup state label).log := by
  cases label with
  | enter population tid =>
      rw [step]
      cases identity : population.lookup tid with
      | none => exact Or.inl rfl
      | some image =>
          dsimp only
          cases entered : traceeOf setup population tid image state with
          | none => exact Or.inl rfl
          | some result =>
              exact Or.inr ⟨population, tid, image, result.1, result.2, rfl, identity, entered,
                rfl, List.suffix_refl _⟩
  | hit population lib tid rule fires =>
      rw [step, chaosInitTraceeHit]
      cases (state.snapshot lib).texts[rule]? with
      | none => exact Or.inl rfl
      | some text =>
          cases identity : population.lookup tid with
          | none => exact Or.inl rfl
          | some image =>
              dsimp only
              cases entered : traceeOf setup population tid image state with
              | none => exact Or.inl rfl
              | some result =>
                  refine Or.inr ⟨population, tid, image, result.1, result.2, rfl, identity,
                    entered, ?_⟩
                  have synced : result.2.log <:+ (traceeSync setup lib result.1 result.2).log :=
                    List.suffix_cons _ _
                  dsimp only
                  split
                  · rw [chaosHitRecord_eq]
                    have hit := synced.trans (List.suffix_cons (.hit lib image text) _)
                    split
                    · exact ⟨rfl, hit.trans (suffix_log_write lib result.1
                        (struck lib result.1 rule image text
                          (traceeSync setup lib result.1 result.2)))⟩
                    · exact ⟨rfl, hit⟩
                  · exact ⟨rfl, synced⟩
  | flush all => exact Or.inl (flush_places all _ state).1
  | reload lib texts skipped => exact Or.inl rfl

/-! ## The whole table -/

/-- What a library keeps for the holder of an entry, and for no one else. -/
structure Accounts (setup : Setup Lib known) (state : State Lib known) (lib : Lib)
    (index : Index) (story : List CellEvent) : Prop where
  total : (state.cells lib index).total = hitsOf story
  pending : (state.cells lib index).pending = unwritten story
  file : (state.cells lib index).file = lastWrote story
  owner : ∀ file, ownFile state lib index = some file →
    file.image = imageOf (state.table.entries index)
  /-- The slots are those of the last synchronisation, with the hits of their texts. -/
  counts : (state.cells lib index).slots.rows.map Row.slot =
    (lastSynced story).map fun text => counted text story
  current : (state.cells lib index).slots.generation = (state.snapshot lib).load →
    lastSynced story = slotted (setup.maxRules lib) (state.snapshot lib)

/-- What is true of the table in a state, and of every step from there. -/
structure Sound (setup : Setup Lib known) (state : State Lib known) : Prop where
  single : Single state.table.entries
  holder : ∀ lib index, (state.table.entries index).tgid ≠ 0 →
    Accounts setup state lib index
      (story lib index (imageOf (state.table.entries index)) state.log)
  free : ∀ lib index, (state.table.entries index).tgid = 0 → state.cells lib index = .empty
  /-- After a flush the hits of every holder are in the holder's file. -/
  flushed : ∀ all lib index, ((step setup state (.flush all)).table.entries index).tgid ≠ 0 →
    ∀ text,
      counted text (story lib index
          (imageOf ((step setup state (.flush all)).table.entries index))
          (step setup state (.flush all)).log) ≤
        recorded text (ownFile (step setup state (.flush all)) lib index)
  /-- Those of a process are in its file since its entry was freed. -/
  settled : ∀ lib index image number older,
    .freed lib index image number :: older <:+ state.log →
      Settled state lib image number (story lib index image older)
  /-- An entry that a step takes from its process is freed by every library, for a reason. -/
  dropped : ∀ label index, (state.table.entries index).tgid ≠ 0 →
    ¬ SameHolder (state.table.entries index) ((step setup state label).table.entries index) →
      (∀ lib, FreedSince lib index (imageOf (state.table.entries index)) state.log
        (step setup state label).log) ∧
      ∃ population, label.population = some population ∧
        (Gone population (state.table.entries index) ∨
          LeastRecentlyUsed population state index)

theorem accounts_of_kept (kept : Kept setup state) (lib : Lib)
    (used : (state.table.entries index).tgid ≠ 0) :
    Accounts setup state lib index
      (story lib index (imageOf (state.table.entries index)) state.log) := by
  have cell := kept.cells lib index used
  refine ⟨cell.total, cell.pending, cell.file, cell.owner, ?_, cell.current⟩
  rw [cell.rows, List.map_map]
  rfl

end ChaosLibs.Init.TraceeAccounts
