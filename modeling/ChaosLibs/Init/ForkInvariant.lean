import ChaosLibs.Init.ForkTree

/-!
# What the supervisor keeps of a tree of processes

As long as no entry of a living process is dropped, and a new process finds a
snapshot just when it is the child of its parent's last fork, an entry holds what
the calls of its process come to from the counters the process started with.
-/

namespace ChaosLibs.Init.ForkTree

open ChaosLibs.Common.HitSlots
open ChaosLibs.Init.TraceeSlots
open ChaosLibs.Init.TraceeTable
open ChaosLibs.Process.CallSequence
open ChaosLibs.Process.Rule

variable {loading : Loading} {state next : State} {index : Index}
variable {call : ProcessCall}

/-! ## The invariant -/

/-- The counters an image has started with, or would start with from nothing. -/
def Life.startOf (life : Life) : FailAfterCounters :=
  life.start.getD fun _ => 0

/-- The record of an image is that of the library, from its own counters. -/
structure Recorded (loading : Loading) (life : Life) (library : Counted) :
    Prop where
  supervised : life.supervised =
    (decisions loading.process.state (loading.counted life.startOf)
      life.calls).1
  preloaded : life.preloaded =
    (decisions loading.process.state (loading.counted fun _ => 0)
      life.calls).1
  library : library =
    (decisions loading.process.state (loading.counted fun _ => 0)
      life.calls).2
  silent : life.start = none → life.calls = []
  started : ∀ counters, life.start = some counters →
    counters = if life.first then life.inherited else fun _ => 0
  image : life.image = true → life.first = false

/-- What the entries hold. -/
structure Booked (loading : Loading) (state : State) : Prop where
  single : Single state.table.entries
  serial : ∀ other, (state.table.entries other).tgid ≠ 0 →
    (state.table.entries other).serial ≠ 0
  bounded : ∀ other,
    (state.table.entries other).serial ≤ state.table.serial ∧
      (state.books.counters other).owner ≤ state.table.serial ∧
        (state.books.forked other).owner ≤ state.table.serial
  given : ∀ other, (state.table.entries other).tgid ≠ 0 →
    (state.table.entries other).start < state.identities ∧
      (state.lives (state.table.entries other).start).pid =
        (state.table.entries other).tgid
  counted : ∀ other, (state.table.entries other).tgid ≠ 0 →
    state.isNew other = false →
      (state.books.counters other).load = loading.load ∧
      (state.lives (state.table.entries other).start).start ≠ none ∧
      (⟨state.pools other, (state.books.counters other).counters⟩ : Counted) =
        (decisions loading.process.state
          (loading.counted
            (state.lives (state.table.entries other).start).startOf)
          (state.lives (state.table.entries other).start).calls).2
  new : ∀ other, (state.table.entries other).tgid ≠ 0 →
    state.isNew other = true →
      (state.lives (state.table.entries other).start).start = none
  idle : ∀ other,
    (state.table.entries other).tgid = 0 ∨ state.isNew other = true →
      state.pools other = loading.fresh
  recorded : ∀ identity,
    Recorded loading (state.lives identity) (state.library identity)

/-- What the processes are. -/
structure Rooted (state : State) : Prop where
  process : ∀ pid process, state.processes pid = some process →
    pid ≠ 0 ∧ state.threads pid = some pid ∧
      process.identity < state.identities ∧
        (state.lives process.identity).pid = pid
  heir : ∀ pid process child, state.processes pid = some process →
    process.heir = some child →
      child < state.identities ∧ (state.lives child).image = false

/-- What the entries know of the processes. -/
structure Linked (loading : Loading) (state : State) : Prop where
  seen : ∀ pid process, state.processes pid = some process →
    (state.lives process.identity).start ≠ none →
      ∃ other, (state.table.entries other).tgid = pid ∧
        (state.table.entries other).start = process.identity
  snapshot : ∀ other, (state.table.entries other).tgid ≠ 0 →
    (state.books.forked other).owner = (state.table.entries other).serial →
      ∀ process, state.processes (state.table.entries other).tgid =
        some process →
      ∀ child, process.heir = some child →
        (state.lives child).inherited = (state.books.forked other).counters

/-- The invariant of a run. -/
structure Sound (loading : Loading) (state : State) : Prop where
  booked : Booked loading state
  rooted : Rooted state
  linked : Linked loading state

theorem recorded_blank (pid : Nat) (image : Bool) (inherited : FailAfterCounters) :
    Recorded loading (.blank pid image inherited)
      (loading.counted fun _ => 0) where
  supervised := rfl
  preloaded := rfl
  library := rfl
  silent := fun _ => rfl
  started := nofun
  image := fun _ => rfl

theorem sound_initial : Sound loading (initial loading) where
  booked := {
    single := fun _ _ used _ => absurd rfl used
    serial := fun _ used => absurd rfl used
    bounded := fun _ => ⟨Nat.le_refl _, Nat.le_refl _, Nat.le_refl _⟩
    given := fun _ used => absurd rfl used
    counted := fun _ used => absurd rfl used
    new := fun _ used => absurd rfl used
    idle := fun _ _ => rfl
    recorded := fun _ => recorded_blank 0 false fun _ => 0 }
  rooted := ⟨nofun, nofun⟩
  linked := ⟨nofun, fun _ used => absurd rfl used⟩

/-- Two entries are not of one image. -/
theorem Booked.eq_of_start_eq
    (booked : Booked loading state) {other : Index}
    (used : (state.table.entries index).tgid ≠ 0)
    (usedOther : (state.table.entries other).tgid ≠ 0)
    (same : (state.table.entries other).start =
      (state.table.entries index).start) :
    other = index := by
  apply booked.single other index usedOther
  rw [← (booked.given other usedOther).2, ← (booked.given index used).2, same]

/-! ## A new identity -/

/-- An identity that was not given before changes no entry. -/
theorem Booked.give
    (booked : Booked loading state) (pid : Nat) (image : Bool)
    (inherited : FailAfterCounters)
    (table : next.table = state.table) (pools : next.pools = state.pools)
    (books : next.books = state.books)
    (identities : next.identities = state.identities + 1)
    (library : next.library = Function.update state.library state.identities
      (loading.counted fun _ => 0))
    (lives : next.lives = Function.update state.lives state.identities
      (.blank pid image inherited)) :
    Booked loading next := by
  have kept : ∀ other, (state.table.entries other).tgid ≠ 0 →
      next.lives (state.table.entries other).start =
        state.lives (state.table.entries other).start := by
    intro other used
    rw [lives, Function.update_of_ne]
    exact Nat.ne_of_lt (booked.given other used).1
  have isNew : ∀ other, next.isNew other = state.isNew other := by
    intro other
    unfold State.isNew
    rw [books, table]
  constructor
  · rw [table]
    exact booked.single
  · rw [table]
    exact booked.serial
  · rw [table, books]
    exact booked.bounded
  · rw [table, identities]
    intro other used
    rw [kept other used]
    exact ⟨Nat.lt_succ_of_lt (booked.given other used).1,
      (booked.given other used).2⟩
  · rw [table]
    intro other used known
    rw [isNew] at known
    rw [kept other used, books, pools]
    exact booked.counted other used known
  · rw [table]
    intro other used new
    rw [isNew] at new
    rw [kept other used]
    exact booked.new other used new
  · rw [table, pools]
    intro other idle
    rw [isNew] at idle
    exact booked.idle other idle
  · intro identity
    rw [lives, library]
    by_cases same : identity = state.identities
    · rw [same, Function.update_self, Function.update_self]
      exact recorded_blank pid image inherited
    · rw [Function.update_of_ne same, Function.update_of_ne same]
      exact booked.recorded identity

/-- The processes that were there still are what they were. -/
theorem lives_of_given
    {life : Life}
    (lives : next.lives = Function.update state.lives state.identities life)
    {identity : Nat} (given : identity < state.identities) :
    next.lives identity = state.lives identity := by
  rw [lives, Function.update_of_ne (Nat.ne_of_lt given)]

theorem lives_of_new
    {life : Life}
    (lives : next.lives = Function.update state.lives state.identities life) :
    next.lives state.identities = life := by
  rw [lives, Function.update_self]

/-! ## Processes come and go -/

theorem sound_born
    (sound : Sound loading state) {pid parent : Nat} (unused : state.Unused pid)
    (inherited : FailAfterCounters) {counted : Counted}
    (nothing : counted = loading.counted fun _ => 0) :
    Sound loading (state.born pid parent inherited counted) := by
  have kept : ∀ identity, identity < state.identities →
      (state.born pid parent inherited counted).lives identity =
        state.lives identity :=
    fun identity given => lives_of_given rfl given
  have new : (state.born pid parent inherited counted).lives
      state.identities = .blank pid false inherited :=
    lives_of_new rfl
  have old : ∀ other process,
      (state.born pid parent inherited counted).processes other = some process →
        other ≠ pid → state.processes other = some process := by
    intro other process found different
    rw [← found]
    exact (Function.update_of_ne different _ _).symm
  have here : ∀ process,
      (state.born pid parent inherited counted).processes pid = some process →
        process = ⟨parent, state.identities, none⟩ := by
    intro process found
    have same := (Function.update_self pid _ _).symm.trans found
    cases same
    rfl
  constructor
  · exact sound.booked.give pid false inherited rfl rfl rfl rfl
      (by rw [← nothing]; rfl) rfl
  · constructor
    · intro other process found
      by_cases same : other = pid
      · rw [same] at found ⊢
        rw [here process found]
        refine ⟨unused.1, Function.update_self _ _ _, Nat.lt_succ_self _, ?_⟩
        exact congrArg Life.pid new
      · rcases sound.rooted.process other process (old other process found same)
          with ⟨used, leader, given, owner⟩
        refine ⟨used, ?_, Nat.lt_succ_of_lt given, ?_⟩
        · exact (Function.update_of_ne same _ _).trans leader
        · rw [kept _ given]
          exact owner
    · intro other process child found heir
      by_cases same : other = pid
      · rw [same] at found
        rw [here process found] at heir
        cases heir
      · rcases sound.rooted.heir other process child
          (old other process found same) heir with ⟨given, image⟩
        refine ⟨Nat.lt_succ_of_lt given, ?_⟩
        rw [kept child given]
        exact image
  · constructor
    · intro other process found started
      by_cases same : other = pid
      · rw [same] at found
        rw [here process found] at started
        refine absurd ?_ started
        exact congrArg Life.start new
      · have before := old other process found same
        have given := (sound.rooted.process other process before).2.2.1
        rw [kept _ given] at started
        exact sound.linked.seen other process before started
    · intro entry used owner process found child heir
      by_cases same : (state.table.entries entry).tgid = pid
      · have found' : (state.born pid parent inherited counted).processes pid =
            some process := same ▸ found
        rw [here process found'] at heir
        cases heir
      · have before := old _ process found same
        have given := (sound.rooted.heir _ process child before heir).1
        rw [kept child given]
        exact sound.linked.snapshot entry used owner process before child heir

/-- A new image starts over. -/
theorem sound_newImage
    (sound : Sound loading state) {pid : Nat} {process : Process}
    (running : state.processes pid = some process) :
    Sound loading (state.newImage loading pid process) := by
  have kept : ∀ identity, identity < state.identities →
      (state.newImage loading pid process).lives identity =
        state.lives identity :=
    fun identity given => lives_of_given rfl given
  have new : (state.newImage loading pid process).lives state.identities =
      .blank pid true fun _ => 0 :=
    lives_of_new rfl
  have old : ∀ other found,
      (state.newImage loading pid process).processes other = some found →
        other ≠ pid → state.processes other = some found := by
    intro other found here different
    rw [← here]
    exact (Function.update_of_ne different _ _).symm
  have renewed : ∀ found,
      (state.newImage loading pid process).processes pid = some found →
        found = { process with identity := state.identities } := by
    intro found here
    have same := (Function.update_self pid _ _).symm.trans here
    cases same
    rfl
  constructor
  · exact sound.booked.give pid true (fun _ => 0) rfl rfl rfl rfl rfl rfl
  · constructor
    · intro other found here
      by_cases same : other = pid
      · rw [same] at here ⊢
        rw [renewed found here]
        refine ⟨(sound.rooted.process pid process running).1, ?_,
          Nat.lt_succ_self _, ?_⟩
        · exact (if_neg fun gone => gone.2 rfl).trans
            (sound.rooted.process pid process running).2.1
        · exact congrArg Life.pid new
      · rcases sound.rooted.process other found (old other found here same)
          with ⟨used, leader, given, owner⟩
        refine ⟨used, ?_, Nat.lt_succ_of_lt given, ?_⟩
        · refine (if_neg fun gone => same ?_).trans leader
          exact Option.some_inj.mp (leader.symm.trans gone.1)
        · rw [kept _ given]
          exact owner
    · intro other found child here heir
      have before : ∃ earlier, state.processes other = some earlier ∧
          earlier.heir = some child := by
        by_cases same : other = pid
        · rw [same] at here ⊢
          rw [renewed found here] at heir
          exact ⟨process, running, heir⟩
        · exact ⟨found, old other found here same, heir⟩
      rcases before with ⟨earlier, before, heir⟩
      rcases sound.rooted.heir other earlier child before heir with
        ⟨given, image⟩
      refine ⟨Nat.lt_succ_of_lt given, ?_⟩
      rw [kept child given]
      exact image
  · constructor
    · intro other found here started
      by_cases same : other = pid
      · rw [same] at here
        rw [renewed found here] at started
        refine absurd ?_ started
        exact congrArg Life.start new
      · have before := old other found here same
        have given := (sound.rooted.process other found before).2.2.1
        rw [kept _ given] at started
        exact sound.linked.seen other found before started
    · intro entry used owner found here child heir
      have before : ∃ earlier,
          state.processes (state.table.entries entry).tgid = some earlier ∧
            earlier.heir = some child := by
        by_cases same : (state.table.entries entry).tgid = pid
        · have here' : (state.newImage loading pid process).processes pid =
              some found := same ▸ here
          rw [renewed found here'] at heir
          exact ⟨process, same.symm ▸ running, heir⟩
        · exact ⟨found, old _ found here same, heir⟩
      rcases before with ⟨earlier, before, heir⟩
      have given := (sound.rooted.heir _ earlier child before heir).1
      rw [kept child given]
      exact sound.linked.snapshot entry used owner earlier before child heir

/-- The threads of the living processes stay. -/
theorem sound_of_threads
    (sound : Sound loading state) {threads : Nat → Option Nat}
    (leaders : ∀ pid process, state.processes pid = some process →
      threads pid = some pid) :
    Sound loading { state with threads := threads } where
  booked := ⟨sound.booked.single, sound.booked.serial, sound.booked.bounded,
    sound.booked.given, sound.booked.counted, sound.booked.new,
    sound.booked.idle, sound.booked.recorded⟩
  rooted := by
    refine ⟨fun pid process found => ?_, sound.rooted.heir⟩
    rcases sound.rooted.process pid process found with ⟨used, -, rest⟩
    exact ⟨used, leaders pid process found, rest⟩
  linked := ⟨sound.linked.seen, sound.linked.snapshot⟩

theorem sound_exited (sound : Sound loading state) (pid : Nat) :
    Sound loading (state.exited pid) := by
  have before : ∀ other found,
      (state.exited pid).processes other = some found →
        other ≠ pid ∧ ∃ earlier, state.processes other = some earlier ∧
          earlier.identity = found.identity ∧ earlier.heir = found.heir := by
    intro other found here
    change (if other = pid then none else _) = _ at here
    split at here
    · cases here
    · rename_i different
      rcases Option.map_eq_some_iff.mp here with ⟨earlier, running, rfl⟩
      exact ⟨different, earlier, running, rfl, rfl⟩
  constructor
  · exact ⟨sound.booked.single, sound.booked.serial, sound.booked.bounded,
      sound.booked.given, sound.booked.counted, sound.booked.new,
      sound.booked.idle, sound.booked.recorded⟩
  · constructor
    · intro other found here
      rcases before other found here with
        ⟨different, earlier, running, identity, -⟩
      rcases sound.rooted.process other earlier running with
        ⟨used, leader, rest⟩
      rw [identity] at rest
      refine ⟨used, ?_, rest⟩
      refine (if_neg fun gone => different ?_).trans leader
      exact Option.some_inj.mp (leader.symm.trans gone)
    · intro other found child here heir
      rcases before other found here with ⟨-, earlier, running, -, same⟩
      exact sound.rooted.heir other earlier child running (same.trans heir)
  · constructor
    · intro other found here started
      rcases before other found here with ⟨-, earlier, running, identity, -⟩
      rw [← identity] at started ⊢
      exact sound.linked.seen other earlier running started
    · intro entry used owner found here child heir
      rcases before _ found here with ⟨-, earlier, running, -, same⟩
      exact sound.linked.snapshot entry used owner earlier running child
        (same.trans heir)

/-- What the child of the last fork was left by it is in the snapshot. -/
theorem sound_withHeir
    (sound : Sound loading state) {pid child : Nat} {process : Process}
    (running : state.processes pid = some process)
    (given : child < state.identities) (forked : (state.lives child).image = false)
    (left : ∀ other, (state.table.entries other).tgid = pid →
      (state.lives child).inherited = (state.books.forked other).counters) :
    Sound loading (state.withHeir pid process child) := by
  have before : ∀ other found,
      (state.withHeir pid process child).processes other = some found →
        (other = pid ∧ found = { process with heir := some child }) ∨
          (other ≠ pid ∧ state.processes other = some found) := by
    intro other found here
    by_cases same : other = pid
    · rw [same] at here
      have found' := (Function.update_self pid _ _).symm.trans here
      cases found'
      exact Or.inl ⟨same, rfl⟩
    · exact Or.inr ⟨same, (Function.update_of_ne same _ _).symm.trans here⟩
  constructor
  · exact ⟨sound.booked.single, sound.booked.serial, sound.booked.bounded,
      sound.booked.given, sound.booked.counted, sound.booked.new,
      sound.booked.idle, sound.booked.recorded⟩
  · constructor
    · intro other found here
      rcases before other found here with ⟨rfl, rfl⟩ | ⟨-, here⟩
      · exact sound.rooted.process other process running
      · exact sound.rooted.process other found here
    · intro other found heir here isHeir
      rcases before other found here with ⟨-, rfl⟩ | ⟨-, here⟩
      · cases isHeir
        exact ⟨given, forked⟩
      · exact sound.rooted.heir other found heir here isHeir
  · constructor
    · intro other found here started
      rcases before other found here with ⟨rfl, rfl⟩ | ⟨-, here⟩
      · exact sound.linked.seen other process running started
      · exact sound.linked.seen other found here started
    · intro entry used owner found here heir isHeir
      rcases before _ found here with ⟨same, rfl⟩ | ⟨-, here⟩
      · cases isHeir
        exact left entry same
      · exact sound.linked.snapshot entry used owner found here heir isHeir

/-! ## The entry of a process -/

/-- The process of an entry lives, with the image it has there. -/
def State.Runs (state : State) (index : Index) : Prop :=
  ∃ process, state.processes (state.table.entries index).tgid = some process ∧
    process.identity = (state.table.entries index).start

/-- No process that lives with its image loses its entry to the one of a thread. -/
def Spared (state : State) (tid : Nat) : Prop :=
  ∀ index table dropped,
    chaosInitTraceeOf state.lookup tid state.table =
      some (index, table, dropped) →
    ∀ other ∈ dropped, unchanged state.lookup (state.table.entries other) = false

/-- A living process is found by its own number. -/
theorem lookup_of_process
    (rooted : Rooted state) {pid : Nat} {process : Process}
    (running : state.processes pid = some process) :
    state.lookup pid = some (pid, process.identity) := by
  unfold State.lookup
  rw [(rooted.process pid process running).2.1, Option.bind_some, running]
  rfl

/-- The table after a lookup, with fresh rule state for what it dropped. -/
def State.withTable
    (state : State) (loading : Loading) (table : Table) (dropped : List Index) : State :=
  { state with
    table := table
    pools := fun other =>
      if other ∈ dropped then loading.fresh else state.pools other }

/-- A process that has an entry keeps it as it is. -/
theorem sound_finds
    (sound : Sound loading state) {pid : Nat} {process : Process}
    (running : state.processes pid = some process)
    {table : Table} {dropped : List Index}
    (finds : Finds state.table pid process.identity index table dropped)
    (single : Single table.entries) :
    Sound loading (state.withTable loading table dropped) ∧
      (state.withTable loading table dropped).Runs index := by
  have pools : (fun other =>
      if other ∈ dropped then loading.fresh else state.pools other) =
        state.pools := by
    funext other
    exact if_neg (finds.dropped other)
  rw [State.withTable, pools]
  have same : ∀ other,
      (table.entries other).tgid = (state.table.entries other).tgid ∧
      (table.entries other).start = (state.table.entries other).start ∧
      (table.entries other).serial = (state.table.entries other).serial := by
    intro other
    by_cases here : other = index
    · rw [here, finds.here]
      exact ⟨rfl, rfl, rfl⟩
    · rw [finds.others other here]
      exact ⟨rfl, rfl, rfl⟩
  have isNew : ∀ other,
      State.isNew { state with table := table, pools := state.pools } other =
        state.isNew other := by
    intro other
    unfold State.isNew
    dsimp only
    rw [(same other).2.2]
  have tgid := fun other => (same other).1
  have start := fun other => (same other).2.1
  have serial := fun other => (same other).2.2
  constructor
  · constructor
    · constructor
      · exact single
      · simp only [tgid, serial]
        exact sound.booked.serial
      · simp only [serial, finds.serial]
        exact sound.booked.bounded
      · simp only [tgid, start]
        exact sound.booked.given
      · simp only [tgid, start, isNew]
        exact sound.booked.counted
      · simp only [tgid, start, isNew]
        exact sound.booked.new
      · simp only [tgid, isNew]
        exact sound.booked.idle
      · exact sound.booked.recorded
    · exact ⟨sound.rooted.process, sound.rooted.heir⟩
    · constructor
      · simp only [tgid, start]
        exact sound.linked.seen
      · simp only [tgid, serial]
        exact sound.linked.snapshot
  · refine ⟨process, ?_, ?_⟩
    · change state.processes (table.entries index).tgid = _
      rw [tgid, finds.own.1]
      exact running
    · change process.identity = (table.entries index).start
      rw [start, finds.own.2]

theorem Booked.ne_next_serial (booked : Booked loading state) (other : Index) :
    (state.books.counters other).owner ≠ state.table.serial + 1 ∧
      (state.books.forked other).owner ≠ state.table.serial + 1 := by
  have bounded := booked.bounded other
  exact ⟨Nat.ne_of_lt (Nat.lt_succ_of_le bounded.2.1),
    Nat.ne_of_lt (Nat.lt_succ_of_le bounded.2.2)⟩

/-- An image without an entry has not started counting. -/
theorem Linked.start_of_absent
    (linked : Linked loading state) {pid : Nat} {process : Process}
    (running : state.processes pid = some process)
    (absent : ∀ other, ¬((state.table.entries other).tgid = pid ∧
      (state.table.entries other).start = process.identity)) :
    (state.lives process.identity).start = none := by
  by_contra started
  rcases linked.seen pid process running started with ⟨other, sameId, sameStart⟩
  exact absent other ⟨sameId, sameStart⟩

section Allocates

variable {pid : Nat} {process : Process} {table : Table} {dropped : List Index}

theorem booked_allocates
    (sound : Sound loading state) (running : state.processes pid = some process)
    (allocates : Allocates state.lookup state.table pid process.identity index
      table dropped)
    (single : Single table.entries) :
    Booked loading (state.withTable loading table dropped) := by
  rcases sound.rooted.process pid process running with ⟨-, -, given, owner⟩
  have here : table.entries index =
      ⟨pid, process.identity, state.table.age + 1, state.table.serial + 1⟩ :=
    allocates.here
  have isNew : ∀ other, other ≠ index → (table.entries other).tgid ≠ 0 →
      ((state.books.counters other).owner != (table.entries other).serial) =
        state.isNew other := by
    intro other different used
    rw [(allocates.kept_of_used different used).2]
    rfl
  rw [State.withTable]
  constructor
  · exact single
  · intro other used
    by_cases same : other = index
    · rw [same, here]
      exact Nat.succ_ne_zero _
    · change (table.entries other).serial ≠ 0
      change (table.entries other).tgid ≠ 0 at used
      have stays := (allocates.kept_of_used same used).2
      rw [stays] at used ⊢
      exact sound.booked.serial other used
  · intro other
    have bounded := sound.booked.bounded other
    change (table.entries other).serial ≤ table.serial ∧ _ ≤ table.serial ∧
      _ ≤ table.serial
    rw [allocates.serial]
    refine ⟨?_, Nat.le_succ_of_le bounded.2.1,
      Nat.le_succ_of_le bounded.2.2⟩
    by_cases same : other = index
    · rw [same, here]
    · by_cases member : other ∈ dropped
      · rw [allocates.freed other same member]
        exact Nat.le_succ_of_le bounded.1
      · rw [allocates.kept other same member]
        exact Nat.le_succ_of_le bounded.1
  · intro other used
    by_cases same : other = index
    · rw [same, here]
      exact ⟨given, owner⟩
    · change (table.entries other).tgid ≠ 0 at used
      change (table.entries other).start < state.identities ∧
        (state.lives (table.entries other).start).pid =
          (table.entries other).tgid
      have stays := (allocates.kept_of_used same used).2
      rw [stays] at used ⊢
      exact sound.booked.given other used
  · intro other used known
    change ((state.books.counters other).owner !=
      (table.entries other).serial) = false at known
    by_cases same : other = index
    · rw [same, here] at known
      rw [bne_eq_false_iff_eq] at known
      exact absurd known (sound.booked.ne_next_serial index).1
    · change (table.entries other).tgid ≠ 0 at used
      have stays := allocates.kept_of_used same used
      rw [isNew other same used] at known
      change (state.books.counters other).load = loading.load ∧
        (state.lives (table.entries other).start).start ≠ none ∧
        (⟨if other ∈ dropped then loading.fresh else state.pools other,
          _⟩ : Counted) =
          (decisions _ (loading.counted
            (state.lives (table.entries other).start).startOf)
            (state.lives (table.entries other).start).calls).2
      rw [stays.2] at used ⊢
      rw [if_neg stays.1]
      exact sound.booked.counted other used known
  · intro other used new
    change ((state.books.counters other).owner !=
      (table.entries other).serial) = true at new
    change (state.lives (table.entries other).start).start = none
    by_cases same : other = index
    · rw [same, here]
      exact sound.linked.start_of_absent running allocates.absent
    · change (table.entries other).tgid ≠ 0 at used
      rw [isNew other same used] at new
      have stays := (allocates.kept_of_used same used).2
      rw [stays] at used ⊢
      exact sound.booked.new other used new
  · intro other idle
    change (if other ∈ dropped then loading.fresh else state.pools other) =
      loading.fresh
    split
    · rfl
    · rename_i stays
      by_cases same : other = index
      · rw [same] at stays ⊢
        exact sound.booked.idle index (Or.inl (allocates.room.resolve_left stays))
      · apply sound.booked.idle
        change (table.entries other).tgid = 0 ∨
          ((state.books.counters other).owner !=
            (table.entries other).serial) = true at idle
        rw [allocates.kept other same stays] at idle
        exact idle
  · exact sound.booked.recorded

theorem linked_allocates
    (sound : Sound loading state) (running : state.processes pid = some process)
    (allocates : Allocates state.lookup state.table pid process.identity index
      table dropped)
    (spared : ∀ other ∈ dropped,
      unchanged state.lookup (state.table.entries other) = false) :
    Linked loading (state.withTable loading table dropped) := by
  have here : table.entries index =
      ⟨pid, process.identity, state.table.age + 1, state.table.serial + 1⟩ :=
    allocates.here
  rw [State.withTable]
  constructor
  · intro other found running' started
    by_cases own : other = pid
    · rw [own, running] at running'
      cases running'
      exact absurd (sound.linked.start_of_absent running allocates.absent) started
    · rcases sound.linked.seen other found running' started with
        ⟨entry, sameId, sameStart⟩
      have used : (state.table.entries entry).tgid ≠ 0 := by
        rw [sameId]
        exact (sound.rooted.process other found running').1
      -- It lives with its image, so it was spared.
      have stays : entry ∉ dropped := by
        intro member
        have gone := spared entry member
        unfold unchanged at gone
        rw [sameId, lookup_of_process sound.rooted running', sameStart,
          beq_self_eq_true] at gone
        cases gone
      have different : entry ≠ index := by
        rintro rfl
        rcases allocates.room with member | free
        · exact stays member
        · exact used free
      refine ⟨entry, ?_, ?_⟩
      · change (table.entries entry).tgid = other
        rw [allocates.kept entry different stays]
        exact sameId
      · change (table.entries entry).start = found.identity
        rw [allocates.kept entry different stays]
        exact sameStart
  · intro other used owned
    change (state.books.forked other).owner =
      (table.entries other).serial at owned
    change (table.entries other).tgid ≠ 0 at used
    change ∀ process, state.processes (table.entries other).tgid =
      some process → _
    by_cases same : other = index
    · rw [same, here] at owned
      exact absurd owned (sound.booked.ne_next_serial index).2
    · have stays := (allocates.kept_of_used same used).2
      rw [stays] at used owned ⊢
      exact sound.linked.snapshot other used owned

/-- A process without an entry has made no process call, and starts over. -/
theorem sound_allocates
    (sound : Sound loading state) (running : state.processes pid = some process)
    (allocates : Allocates state.lookup state.table pid process.identity index
      table dropped)
    (single : Single table.entries)
    (spared : ∀ other ∈ dropped,
      unchanged state.lookup (state.table.entries other) = false) :
    Sound loading (state.withTable loading table dropped) ∧
      (state.withTable loading table dropped).Runs index := by
  constructor
  · exact ⟨booked_allocates sound running allocates single,
      ⟨sound.rooted.process, sound.rooted.heir⟩,
      linked_allocates sound running allocates spared⟩
  · refine ⟨process, ?_, ?_⟩
    · change state.processes (table.entries index).tgid = _
      rw [allocates.here]
      exact running
    · change process.identity = (table.entries index).start
      rw [allocates.here]

end Allocates

/-- An entry keeps what it is of, and a process that had none has one. -/
theorem sound_enter
    (sound : Sound loading state) {tid : Nat} (spared : Spared state tid)
    (entered : state.enter loading tid = some (index, next)) :
    Sound loading next ∧ next.Runs index := by
  rcases Option.map_eq_some_iff.mp entered with
    ⟨⟨place, table, dropped⟩, found, same⟩
  cases same
  have spared := spared index table dropped found
  cases identified : state.lookup tid with
  | none =>
      unfold chaosInitTraceeOf at found
      rw [identified] at found
      cases found
  | some identity =>
      rcases identity with ⟨pid, start⟩
      rcases Option.bind_eq_some_iff.mp identified with ⟨group, -, named⟩
      rcases Option.map_eq_some_iff.mp named with ⟨process, running, same⟩
      cases same
      have rooted := sound.rooted.process pid process running
      have single := single_chaosInitTraceeOf sound.booked.single rooted.1
        identified found
      rcases chaosInitTraceeOf_spec sound.booked.single rooted.1 identified
        found with finds | allocates
      · exact sound_finds sound running finds single
      · exact sound_allocates sound running allocates single spared

end ChaosLibs.Init.ForkTree
