import ChaosLibs.Init.ForkInvariant

/-!
# A decided call keeps the books

Before a process call is decided the counters of its entry are made those of its
process; what is decided is what the library decides from the counters that the
process started with.
-/

namespace ChaosLibs.Init.ForkTree

open ChaosLibs.Common.HitSlots
open ChaosLibs.Init.TraceeSlots
open ChaosLibs.Init.TraceeTable
open ChaosLibs.Process.CallSequence
open ChaosLibs.Process.Rule

variable {loading : Loading} {state next : State} {index : Index}
variable {call : ProcessCall}

/-! ## Whose counters they are -/

theorem tgid_of_chaosInitTraceeFind
    {table : Table} {tgid : Nat} (found : chaosInitTraceeFind table tgid = some index) :
    tgid ≠ 0 ∧ (table.entries index).tgid = tgid := by
  unfold chaosInitTraceeFind at found
  split at found
  · cases found
  · rename_i used
    have same := List.find?_some found
    exact ⟨used, beq_iff_eq.mp same⟩

/-- A snapshot is the parent's, under the serial it has. -/
theorem of_snapshot
    {parent : Index} (found : state.snapshot loading index = some parent) :
    (state.table.entries parent).tgid =
        state.parentOf (state.table.entries index).tgid ∧
      (state.table.entries parent).tgid ≠ 0 ∧
      (state.books.forked parent).owner =
        (state.table.entries parent).serial := by
  rcases Option.filter_eq_some_iff.mp found with ⟨place, owned⟩
  rcases tgid_of_chaosInitTraceeFind place with ⟨used, same⟩
  rw [Bool.and_eq_true, beq_iff_eq, beq_iff_eq] at owned
  refine ⟨same, ?_, owned.1⟩
  rw [same]
  exact used

/-- The books once the counters of an entry are its process's. -/
structure Taken (loading : Loading) (state : State) (index : Index)
    (books : Books) : Prop where
  others : ∀ other, other ≠ index →
    books.counters other = state.books.counters other
  owner : (books.counters index).owner = (state.table.entries index).serial
  load : (books.counters index).load = loading.load
  counters : (books.counters index).counters =
    if state.isNew index then
      (state.snapshot loading index).elim (fun _ => 0) fun parent =>
        (state.books.forked parent).counters
    else (state.books.counters index).counters
  forked : ∀ other, books.forked other = state.books.forked other ∨
    (books.forked other).owner = 0

theorem taken_of_update
    {mine : Kept} {forked : Index → Kept}
    (owner : mine.owner = (state.table.entries index).serial)
    (load : mine.load = loading.load)
    (counters : mine.counters =
      if state.isNew index then
        (state.snapshot loading index).elim (fun _ => 0) fun parent =>
          (state.books.forked parent).counters
      else (state.books.counters index).counters)
    (kept : ∀ other, forked other = state.books.forked other ∨
      (forked other).owner = 0) :
    Taken loading state index
      ⟨Function.update state.books.counters index mine, forked⟩ where
  others := fun _ different => Function.update_of_ne different _ _
  owner := by
    dsimp only
    rw [Function.update_self, owner]
  load := by
    dsimp only
    rw [Function.update_self, load]
  counters := by
    dsimp only
    rw [Function.update_self, counters]
  forked := kept

theorem taken_chaosInitProcessCountersOf
    (booked : Booked loading state)
    (used : (state.table.entries index).tgid ≠ 0) :
    Taken loading state index
      (chaosInitProcessCountersOf state.table state.parentOf index loading.load
        state.books) := by
  unfold chaosInitProcessCountersOf
  dsimp only
  cases new : state.isNew index with
  | false =>
      have owner := new
      unfold State.isNew at owner
      rw [bne_eq_false_iff_eq] at owner
      have load := (booked.counted index used new).1
      rw [if_pos ⟨owner, load⟩]
      refine ⟨fun _ _ => rfl, owner, load, ?_, fun _ => Or.inl rfl⟩
      rw [new]
      rfl
  | true =>
      have owner := new
      unfold State.isNew at owner
      rw [bne_iff_ne] at owner
      rw [if_neg fun same => owner same.1, if_pos owner]
      have asked : snapshotOf state.table state.parentOf index loading.load state.books =
          state.snapshot loading index := rfl
      rw [asked]
      cases found : state.snapshot loading index with
      | none =>
          refine taken_of_update rfl rfl ?_ fun _ => Or.inl rfl
          rw [new, found]
          rfl
      | some parent =>
          refine taken_of_update rfl rfl ?_ fun other => ?_
          · rw [new, found]
            rfl
          · by_cases same : other = parent
            · rw [same, Function.update_self]
              exact Or.inr rfl
            · rw [Function.update_of_ne same]
              exact Or.inl rfl

/-! ## What is decided -/

/-- A new process finds a snapshot just when it is the child of the last fork. -/
def HeirTakes (loading : Loading) (state : State) (index : Index) : Prop :=
  state.isNew index = true →
    (state.snapshot loading index).isSome = state.isHeir index

instance (loading : Loading) (state : State) (index : Index) :
    Decidable (HeirTakes loading state index) :=
  inferInstanceAs (Decidable (_ → _))

theorem Runs.used
    (sound : Sound loading state) (runs : state.Runs index) :
    (state.table.entries index).tgid ≠ 0 := by
  rcases runs with ⟨process, running, -⟩
  exact (sound.rooted.process _ process running).1

/-- An heir is the child of the last fork of its parent. -/
theorem of_isHeir (isHeir : state.isHeir index = true) :
    ∃ parent,
      state.processes (state.parentOf (state.table.entries index).tgid) =
          some parent ∧
        parent.heir = some (state.table.entries index).start := by
  unfold State.isHeir at isHeir
  cases running :
      state.processes (state.parentOf (state.table.entries index).tgid) with
  | none =>
      rw [running] at isHeir
      cases isHeir
  | some parent =>
      rw [running] at isHeir
      exact ⟨parent, rfl, beq_iff_eq.mp isHeir⟩

/-- The process starts with what its fork left it, or with nothing. -/
theorem startOf_lifeAfter
    (sound : Sound loading state) (runs : state.Runs index)
    (takes : HeirTakes loading state index) (new : state.isNew index = true) :
    ((chaosInitProcessCountersOf state.table state.parentOf index loading.load
        state.books).counters index).counters =
      if state.isHeir index then
        (state.lives (state.table.entries index).start).inherited
      else fun _ => 0 := by
  rw [(taken_chaosInitProcessCountersOf sound.booked
    (Runs.used sound runs)).counters, if_pos new, ← takes new]
  cases found : state.snapshot loading index with
  | none => rfl
  | some parent =>
      have isHeir := takes new
      rw [found] at isHeir
      rcases of_isHeir isHeir.symm with ⟨process, running, heir⟩
      rcases of_snapshot found with ⟨same, used, owner⟩
      rw [← same] at running
      rw [Option.isSome_some, if_pos rfl]
      exact (sound.linked.snapshot parent used owner process running _
        heir).symm

/-- What is decided on is what the calls so far come to. -/
theorem counted_of_sound
    (sound : Sound loading state) (runs : state.Runs index) :
    (⟨state.pools index,
        ((chaosInitProcessCountersOf state.table state.parentOf index
          loading.load state.books).counters index).counters⟩ : Counted) =
      (decisions loading.process.state
        (loading.counted (state.lifeAfter loading index call).startOf)
        (state.lives (state.table.entries index).start).calls).2 := by
  have used := Runs.used sound runs
  unfold State.lifeAfter Life.startOf
  dsimp only
  cases new : state.isNew index with
  | true =>
      have silent := (sound.booked.recorded _).silent
        (sound.booked.new index used new)
      rw [silent, sound.booked.idle index (Or.inr new)]
      rfl
  | false =>
      have taken := (taken_chaosInitProcessCountersOf sound.booked
        used).counters
      rw [new] at taken
      rw [taken]
      exact (sound.booked.counted index used new).2.2

/-- The supervisor decides what the library decides from the same counters. -/
theorem verdict_eq
    (sound : Sound loading state) (runs : state.Runs index) :
    state.verdict loading index call =
      libraryCall loading.process.state call
        (decisions loading.process.state
          (loading.counted (state.lifeAfter loading index call).startOf)
          (state.lives (state.table.entries index).start).calls).2 := by
  unfold State.verdict
  rw [@counted_of_sound loading state index call sound runs]
  apply supervisedCall_eq
  exact Worn.slotsHeld (worn_decisions (Worn.refl loading.fresh))
    loading.isFresh.held

theorem recorded_lifeAfter
    (sound : Sound loading state) (runs : state.Runs index)
    (takes : HeirTakes loading state index) :
    Recorded loading (state.lifeAfter loading index call)
      (libraryCall loading.process.state call
        (state.library (state.table.entries index).start)).2 := by
  have recorded := sound.booked.recorded (state.table.entries index).start
  have used := Runs.used sound runs
  -- The decisions so far are those from the counters it starts with now.
  have earlier : (state.lives (state.table.entries index).start).supervised =
      (decisions loading.process.state
        (loading.counted (state.lifeAfter loading index call).startOf)
        (state.lives (state.table.entries index).start).calls).1 := by
    rw [recorded.supervised]
    cases new : state.isNew index with
    | true =>
        rw [recorded.silent (sound.booked.new index used new)]
        rfl
    | false =>
        unfold State.lifeAfter Life.startOf
        rw [new]
        rfl
  constructor
  · change (state.lives (state.table.entries index).start).supervised ++
      [failsAfter (state.verdict loading index call).1] =
        (decisions _ _
          ((state.lives (state.table.entries index).start).calls ++ [call])).1
    rw [decisions_concat, earlier, verdict_eq sound runs]
  · change (state.lives (state.table.entries index).start).preloaded ++ _ =
      (decisions _ _
        ((state.lives (state.table.entries index).start).calls ++ [call])).1
    rw [decisions_concat, recorded.preloaded, recorded.library]
  · change _ =
      (decisions _ _
        ((state.lives (state.table.entries index).start).calls ++ [call])).2
    rw [decisions_concat, recorded.library]
  · intro unstarted
    change (if state.isNew index then _ else _) = none at unstarted
    split at unstarted
    · cases unstarted
    · rename_i known
      refine absurd unstarted ?_
      exact (sound.booked.counted index used
        (Bool.eq_false_of_not_eq_true known)).2.1
  · intro counters started
    change (if state.isNew index then some _ else _) = some counters at started
    change counters =
      if (if state.isNew index then state.isHeir index else _) then
        (state.lives (state.table.entries index).start).inherited
      else fun _ => 0
    cases new : state.isNew index with
    | true =>
        rw [new, if_pos rfl] at started
        cases started
        rw [if_pos rfl]
        exact startOf_lifeAfter sound runs takes new
    | false =>
        rw [new] at started
        exact recorded.started counters started
  · intro image
    change (if state.isNew index then state.isHeir index else _) = false
    split
    · -- Only a forked process is an heir.
      by_contra isHeir
      have isHeir := Bool.eq_true_of_not_eq_false isHeir
      rcases of_isHeir isHeir with ⟨parent, running, heir⟩
      have forked := (sound.rooted.heir _ parent _ running heir).2
      change (state.lives (state.table.entries index).start).image = true at image
      rw [forked] at image
      cases image
    · exact recorded.image image

/-! ## The books afterwards -/

theorem counters_booksAfter_of_ne
    (taken : Taken loading state index
      (chaosInitProcessCountersOf state.table state.parentOf index loading.load
        state.books))
    {other : Index} (different : other ≠ index) :
    (state.booksAfter loading index call).counters other =
      state.books.counters other := by
  unfold State.booksAfter
  dsimp only
  rw [Function.update_of_ne different]
  exact taken.others other different

theorem counters_booksAfter
    (taken : Taken loading state index
      (chaosInitProcessCountersOf state.table state.parentOf index loading.load
        state.books)) :
    (state.booksAfter loading index call).counters index =
      ⟨(state.verdict loading index call).2.counters,
        (state.table.entries index).serial, loading.load⟩ := by
  unfold State.booksAfter
  dsimp only
  rw [Function.update_self, taken.owner, taken.load]

/-- A snapshot is as it was, taken, or that of the fork. -/
theorem forked_booksAfter
    (taken : Taken loading state index
      (chaosInitProcessCountersOf state.table state.parentOf index loading.load
        state.books))
    (other : Index) :
    (state.forks loading index call ∧ other = index ∧
      (state.booksAfter loading index call).forked other =
        (state.booksAfter loading index call).counters index) ∨
    (¬ (state.forks loading index call ∧ other = index) ∧
      ((state.booksAfter loading index call).forked other =
          state.books.forked other ∨
        ((state.booksAfter loading index call).forked other).owner = 0)) := by
  by_cases here : state.forks loading index call ∧ other = index
  · refine Or.inl ⟨here.1, here.2, ?_⟩
    rw [counters_booksAfter taken, here.2]
    unfold State.booksAfter
    dsimp only
    rw [if_pos here.1, Function.update_self]
  · refine Or.inr ⟨here, ?_⟩
    have same : (state.booksAfter loading index call).forked other =
        (chaosInitProcessCountersOf state.table state.parentOf index
          loading.load state.books).forked other := by
      unfold State.booksAfter
      dsimp only
      split
      · rename_i forks
        exact Function.update_of_ne (fun same => here ⟨forks, same⟩) _ _
      · rfl
    rw [same]
    exact taken.forked other

/-- A call changes a process only in that a fork leaves it without an heir. -/
theorem of_processesAfter
    {pid : Nat} {process : Process}
    (found : state.processesAfter loading index call pid = some process) :
    ∃ before, state.processes pid = some before ∧
      before.identity = process.identity ∧
      (process.heir = none ∨
        (process.heir = before.heir ∧
          ¬ (state.forks loading index call ∧
            pid = (state.table.entries index).tgid))) := by
  unfold State.processesAfter at found
  split at found
  · by_cases same : pid = (state.table.entries index).tgid
    · rw [same, Function.update_self] at found
      rcases Option.map_eq_some_iff.mp found with ⟨before, running, rfl⟩
      rw [same]
      exact ⟨before, running, rfl, Or.inl rfl⟩
    · rw [Function.update_of_ne same] at found
      exact ⟨process, found, rfl, Or.inr ⟨rfl, fun here => same here.2⟩⟩
  · rename_i stays
    exact ⟨process, found, rfl, Or.inr ⟨rfl, fun here => stays here.1⟩⟩

/-- What a decided call records leaves whose record it is. -/
theorem lives_decide (identity : Nat) :
    ((state.decide loading index call).lives identity).pid =
        (state.lives identity).pid ∧
      ((state.decide loading index call).lives identity).image =
        (state.lives identity).image ∧
      ((state.decide loading index call).lives identity).inherited =
        (state.lives identity).inherited := by
  by_cases same : identity = (state.table.entries index).start
  · have here : (state.decide loading index call).lives identity =
        state.lifeAfter loading index call := by
      rw [same]
      exact Function.update_self _ _ _
    rw [here, same]
    exact ⟨rfl, rfl, rfl⟩
  · have here : (state.decide loading index call).lives identity =
        state.lives identity :=
      Function.update_of_ne same _ _
    rw [here]
    exact ⟨rfl, rfl, rfl⟩

/-- The books know no serial that was not given. -/
theorem bounded_booksAfter
    (sound : Sound loading state) (runs : state.Runs index) (other : Index) :
    ((state.booksAfter loading index call).counters other).owner ≤
        state.table.serial ∧
      ((state.booksAfter loading index call).forked other).owner ≤
        state.table.serial := by
  have taken := taken_chaosInitProcessCountersOf sound.booked
    (Runs.used sound runs)
  have bounded := sound.booked.bounded other
  constructor
  · by_cases same : other = index
    · rw [same, counters_booksAfter taken]
      exact (sound.booked.bounded index).1
    · rw [counters_booksAfter_of_ne taken same]
      exact bounded.2.1
  · rcases forked_booksAfter taken other with
      ⟨-, -, here⟩ | ⟨-, same | gone⟩
    · rw [here, counters_booksAfter taken]
      exact (sound.booked.bounded index).1
    · rw [same]
      exact bounded.2.2
    · rw [gone]
      exact Nat.zero_le _

/-- A call starts the counting of its image. -/
theorem start_lifeAfter_ne_none
    (sound : Sound loading state) (runs : state.Runs index) :
    (state.lifeAfter loading index call).start ≠ none := by
  intro unstarted
  change (if state.isNew index then some _ else _) = none at unstarted
  split at unstarted
  · cases unstarted
  · rename_i before
    exact (sound.booked.counted index (Runs.used sound runs)
      (Bool.eq_false_of_not_eq_true before)).2.1 unstarted

theorem booked_decide
    (sound : Sound loading state) (runs : state.Runs index)
    (takes : HeirTakes loading state index) :
    Booked loading (state.decide loading index call) := by
  have used := Runs.used sound runs
  have taken := taken_chaosInitProcessCountersOf sound.booked used
  have own : (state.decide loading index call).lives
      (state.table.entries index).start = state.lifeAfter loading index call :=
    Function.update_self _ _ _
  have others : ∀ other, other ≠ index →
      (state.table.entries other).tgid ≠ 0 →
      (state.decide loading index call).lives (state.table.entries other).start =
        state.lives (state.table.entries other).start := by
    intro other different usedOther
    exact Function.update_of_ne
      (fun same => different (sound.booked.eq_of_start_eq used usedOther same))
      _ _
  have pools : ∀ other, other ≠ index →
      (state.decide loading index call).pools other = state.pools other :=
    fun other different => Function.update_of_ne different _ _
  have isNew : ∀ other, other ≠ index →
      (state.decide loading index call).isNew other = state.isNew other := by
    intro other different
    change (((state.booksAfter loading index call).counters other).owner != _) =
      _
    rw [counters_booksAfter_of_ne taken different]
    rfl
  have known : (state.decide loading index call).isNew index = false := by
    change (((state.booksAfter loading index call).counters index).owner !=
      (state.table.entries index).serial) = false
    rw [counters_booksAfter taken, bne_eq_false_iff_eq]
  constructor
  · exact sound.booked.single
  · exact sound.booked.serial
  · exact fun other =>
      ⟨(sound.booked.bounded other).1, bounded_booksAfter sound runs other⟩
  · intro other usedOther
    rcases sound.booked.given other usedOther with ⟨given, owner⟩
    exact ⟨given, (lives_decide _).1.trans owner⟩
  · intro other usedOther before
    by_cases same : other = index
    · subst same
      refine ⟨?_, ?_, ?_⟩
      · change ((state.booksAfter loading other call).counters other).load = _
        rw [counters_booksAfter taken]
      · change ((state.decide loading other call).lives
          (state.table.entries other).start).start ≠ none
        rw [own]
        exact start_lifeAfter_ne_none sound runs
      · change (⟨Function.update state.pools other _ other,
            ((state.booksAfter loading other call).counters other).counters⟩ :
            Counted) =
          (decisions _ (loading.counted
            ((state.decide loading other call).lives
              (state.table.entries other).start).startOf)
            ((state.decide loading other call).lives
              (state.table.entries other).start).calls).2
        rw [own, counters_booksAfter taken, Function.update_self]
        change (state.verdict loading other call).2 = (decisions _ _
          ((state.lives (state.table.entries other).start).calls ++ [call])).2
        rw [decisions_concat, verdict_eq sound runs]
    · rw [isNew other same] at before
      change ((state.booksAfter loading index call).counters other).load = _ ∧
        ((state.decide loading index call).lives
          (state.table.entries other).start).start ≠ none ∧
        (⟨(state.decide loading index call).pools other,
          ((state.booksAfter loading index call).counters other).counters⟩ :
          Counted) =
          (decisions _ (loading.counted
            ((state.decide loading index call).lives
              (state.table.entries other).start).startOf)
            ((state.decide loading index call).lives
              (state.table.entries other).start).calls).2
      rw [counters_booksAfter_of_ne taken same, others other same usedOther,
        pools other same]
      exact sound.booked.counted other usedOther before
  · intro other usedOther new
    by_cases same : other = index
    · rw [same, known] at new
      cases new
    · rw [isNew other same] at new
      change ((state.decide loading index call).lives
        (state.table.entries other).start).start = none
      rw [others other same usedOther]
      exact sound.booked.new other usedOther new
  · intro other idle
    by_cases same : other = index
    · rw [same, known] at idle
      rcases idle with free | new
      · exact absurd free used
      · cases new
    · rw [isNew other same] at idle
      rw [pools other same]
      exact sound.booked.idle other idle
  · intro identity
    by_cases same : identity = (state.table.entries index).start
    · rw [same, own]
      change Recorded loading _ (Function.update state.library _ _ _)
      rw [Function.update_self]
      exact recorded_lifeAfter sound runs takes
    · change Recorded loading (Function.update state.lives _ _ identity)
        (Function.update state.library _ _ identity)
      rw [Function.update_of_ne same, Function.update_of_ne same]
      exact sound.booked.recorded identity

/-- A decided call keeps the invariant. -/
theorem sound_decide
    (sound : Sound loading state) (runs : state.Runs index)
    (takes : HeirTakes loading state index) :
    Sound loading (state.decide loading index call) := by
  have used := Runs.used sound runs
  have taken := taken_chaosInitProcessCountersOf sound.booked used
  constructor
  · exact booked_decide sound runs takes
  · constructor
    · intro pid process found
      rcases of_processesAfter found with ⟨before, running, identity, -⟩
      rcases sound.rooted.process pid before running with
        ⟨nonzero, leader, given, owner⟩
      rw [identity] at given owner
      exact ⟨nonzero, leader, given, (lives_decide _).1.trans owner⟩
    · intro pid process child found heir
      rcases of_processesAfter found with ⟨before, running, -, gone | ⟨same, -⟩⟩
      · rw [gone] at heir
        cases heir
      · rw [same] at heir
        rcases sound.rooted.heir pid before child running heir with
          ⟨given, image⟩
        exact ⟨given, (lives_decide _).2.1.trans image⟩
  · constructor
    · intro pid process found started
      rcases of_processesAfter found with ⟨before, running, identity, -⟩
      by_cases same : process.identity = (state.table.entries index).start
      · refine ⟨index, ?_, same.symm⟩
        change (state.table.entries index).tgid = pid
        rw [← (sound.booked.given index used).2, ← same, ← identity]
        exact (sound.rooted.process pid before running).2.2.2
      · have kept : (state.decide loading index call).lives process.identity =
            state.lives process.identity :=
          Function.update_of_ne same _ _
        rw [kept, ← identity] at started
        rw [← identity]
        exact sound.linked.seen pid before running started
    · intro other usedOther owned process found child heir
      rw [(lives_decide child).2.2]
      rcases of_processesAfter found with
        ⟨before, running, -, gone | ⟨same, elsewhere⟩⟩
      · rw [gone] at heir
        cases heir
      · rw [same] at heir
        change ((state.booksAfter loading index call).forked other).owner =
          (state.table.entries other).serial at owned
        change _ = ((state.booksAfter loading index call).forked other).counters
        rcases forked_booksAfter taken other with
          ⟨forks, here, -⟩ | ⟨-, kept | zero⟩
        · refine absurd ⟨forks, ?_⟩ elsewhere
          rw [here]
          rfl
        · rw [kept] at owned ⊢
          exact sound.linked.snapshot other usedOther owned before running child
            heir
        · rw [zero] at owned
          exact absurd owned.symm (sound.booked.serial other usedOther)

end ChaosLibs.Init.ForkTree
