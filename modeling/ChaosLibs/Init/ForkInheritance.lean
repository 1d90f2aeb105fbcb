import ChaosLibs.Init.ForkDecision

/-!
# What a forked process starts with

Over a whole run: an image starts with the counters its parent had at the fork that
made it, or with nothing.  The supervisor then decides as the library would with
these counters; the library itself starts every process with nothing.
-/

namespace ChaosLibs.Init.ForkTree

open ChaosLibs.Common.HitSlots
open ChaosLibs.Init.TraceeSlots
open ChaosLibs.Init.TraceeTable
open ChaosLibs.Machine
open ChaosLibs.Process.CallSequence
open ChaosLibs.Process.Rule

variable {loading : Loading} {state next : State} {index : Index}
variable {call : ProcessCall}

/-! ## One step -/

/-- No process that lives with its image loses its entry. -/
def Quiet (state : State) : Label → Prop
  | .call tid _ _ => Spared state tid
  | .touch tid => Spared state tid
  | .start _ | .ended _ | .exit _ => True

/--
A process that is new to its entry when it makes a process call finds a snapshot of
its parent just when it is the child of the parent's last fork, with its first image.
-/
def Orderly (loading : Loading) (state : State) : Label → Prop
  | .call tid _ _ =>
      ∀ index entered, state.enter loading tid = some (index, entered) →
        HeirTakes loading entered index
  | .start _ | .touch _ | .ended _ | .exit _ => True

instance (state : State) (tid : Nat) : Decidable (Spared state tid) :=
  match found : chaosInitTraceeOf state.lookup tid state.table with
  | none => isTrue fun _ _ _ other => absurd (found.symm.trans other) nofun
  | some (index, table, dropped) =>
      decidable_of_iff
        (∀ other ∈ dropped,
          unchanged state.lookup (state.table.entries other) = false)
        ⟨fun spared _ _ _ same => by
            cases found.symm.trans same
            exact spared,
          fun spared => spared index table dropped found⟩

instance (state : State) : DecidablePred (Quiet state)
  | .call tid _ _ => inferInstanceAs (Decidable (Spared state tid))
  | .touch tid => inferInstanceAs (Decidable (Spared state tid))
  | .start _ | .ended _ | .exit _ => isTrue trivial

instance (loading : Loading) (state : State) :
    DecidablePred (Orderly loading state)
  | .call tid _ _ =>
      match found : state.enter loading tid with
      | none => isTrue fun _ _ other => absurd (found.symm.trans other) nofun
      | some (index, entered) =>
          decidable_of_iff (HeirTakes loading entered index)
            ⟨fun takes _ _ same => by
                cases found.symm.trans same
                exact takes,
              fun takes => takes index entered found⟩
  | .start _ | .touch _ | .ended _ | .exit _ => isTrue trivial

/-- The child of a fork is left what the snapshot holds. -/
theorem sound_forkChild
    (sound : Sound loading state) {pid : Nat} {process : Process}
    (running : state.processes (state.table.entries index).tgid = some process)
    (unused : state.Unused pid)
    (snapshot : (state.books.forked index).counters =
      (state.books.counters index).counters) :
    Sound loading (state.forkChild loading index
      (state.table.entries index).tgid process pid) := by
  have recorded := sound.booked.recorded process.identity
  have worn : Worn loading.fresh (state.library process.identity).pool := by
    rw [recorded.library]
    exact worn_decisions (Worn.refl loading.fresh)
  have nothing := chaosProcessConfigAfterFork_eq loading.isFresh worn
  have different : (state.table.entries index).tgid ≠ pid := by
    intro same
    have free := unused.2.2
    rw [← same, running] at free
    cases free
  have born := @sound_born loading state sound pid
    (state.table.entries index).tgid unused
    (state.books.counters index).counters _ nothing
  have used := (sound.rooted.process _ process running).1
  have child : ∀ parent inherited counted,
      (state.born pid parent inherited counted).lives state.identities =
        .blank pid false inherited :=
    fun _ _ _ => lives_of_new rfl
  refine sound_withHeir born ?_ (Nat.lt_succ_self _) ?_ ?_
  · exact (Function.update_of_ne different _ _).trans running
  · rw [child]
    rfl
  · intro other same
    have alone : other = index := by
      change (state.table.entries other).tgid = _ at same
      apply sound.booked.single other index
      · rw [same]
        exact used
      · exact same
    rw [child, alone]
    exact snapshot.symm

/-- What comes of a call. -/
theorem sound_carryOut
    (sound : Sound loading state) {effect : CallEffect}
    (snapshot : ∀ pid, effect = .child pid →
      (state.books.forked index).counters =
        (state.books.counters index).counters)
    (carried : state.carryOut loading index effect = some next) :
    Sound loading next := by
  cases effect with
  | returns =>
      cases carried
      exact sound
  | thread tid =>
      dsimp only [State.carryOut] at carried
      split at carried
      · rename_i unused
        cases carried
        apply sound_of_threads sound
        intro pid process running
        have leader := (sound.rooted.process pid process running).2.1
        rw [Function.update_of_ne]
        · exact leader
        · rintro rfl
          have free := unused.2.1
          rw [leader] at free
          cases free
      · cases carried
  | child pid =>
      dsimp only [State.carryOut] at carried
      split at carried
      · rename_i unused
        rcases Option.map_eq_some_iff.mp carried with ⟨process, running, rfl⟩
        exact sound_forkChild sound running unused (snapshot pid rfl)
      · cases carried
  | image =>
      rcases Option.map_eq_some_iff.mp carried with ⟨process, running, rfl⟩
      exact sound_newImage sound running

theorem sound_callOf
    (sound : Sound loading state) (runs : state.Runs index)
    (takes : HeirTakes loading state index) {effect : CallEffect}
    (called : state.callOf loading index call effect = some next) :
    Sound loading next := by
  unfold State.callOf at called
  split at called
  · rename_i goes
    apply sound_carryOut (sound_decide sound runs takes) ?_ called
    rintro pid rfl
    -- The child of a fork that goes ahead, whose snapshot was just made.
    have forks : state.forks loading index call :=
      ⟨goes.1, goes.2.resolve_left nofun⟩
    have taken := taken_chaosInitProcessCountersOf sound.booked
      (Runs.used sound runs)
    rcases @forked_booksAfter loading state index call taken index with
      ⟨-, -, same⟩ | ⟨elsewhere, -⟩
    · exact congrArg Kept.counters same
    · exact absurd ⟨forks, rfl⟩ elsewhere
  · cases called

/-- What one step preserves. -/
theorem sound_step
    (sound : Sound loading state) {label : Label}
    (meets : Quiet state label ∧ Orderly loading state label)
    (stepped : step loading state label = some next) : Sound loading next := by
  cases label with
  | start pid =>
      unfold step at stepped
      dsimp only at stepped
      split at stepped
      · rename_i unused
        cases stepped
        exact sound_born sound unused _ rfl
      · cases stepped
  | call tid call effect =>
      rcases Option.bind_eq_some_iff.mp stepped with
        ⟨⟨index, entered⟩, found, called⟩
      rcases sound_enter sound meets.1 found with ⟨sound, runs⟩
      exact sound_callOf sound runs (meets.2 index entered found) called
  | touch tid =>
      rcases Option.map_eq_some_iff.mp stepped with
        ⟨⟨index, entered⟩, found, rfl⟩
      exact (sound_enter sound meets.1 found).1
  | ended tid =>
      unfold step at stepped
      dsimp only at stepped
      split at stepped
      · rename_i free
        cases stepped
        apply sound_of_threads sound
        intro pid process running
        rw [Function.update_of_ne]
        · exact (sound.rooted.process pid process running).2.1
        · rintro rfl
          rw [running] at free
          cases free
      · cases stepped
  | exit pid =>
      rcases Option.map_eq_some_iff.mp stepped with ⟨process, -, rfl⟩
      exact sound_exited sound pid

/-- What a whole run preserves. -/
theorem sound_throughout
    {labels : List Label}
    (meets : Meets (step loading)
      (fun state label => Quiet state label ∧ Orderly loading state label)
      (initial loading) labels) :
    Throughout (step loading) (Sound loading) (initial loading) labels :=
  throughout_of_meets
    (fun _ _ _ _ sound meets stepped => sound_step sound meets stepped)
    (fun _ _ => trivial) sound_initial meets

/-! ## What an image starts with -/

/--
A new image starts from nothing, and the child of a fork whose first process call
comes before its parent's next fork with what its parent had counted at that fork.
-/
def Starts (state : State) : Prop :=
  ∀ identity counters, (state.lives identity).start = some counters →
    ((state.lives identity).image = true → counters = fun _ => 0) ∧
    ((state.lives identity).first = true →
      counters = (state.lives identity).inherited)

theorem starts_of_sound (sound : Sound loading state) : Starts state := by
  intro identity counters started
  have recorded := sound.booked.recorded identity
  have same := recorded.started counters started
  constructor
  · intro image
    rw [recorded.image image] at same
    exact same
  · intro first
    rw [first] at same
    exact same

/--
In every run in which no living process loses its entry, and a process that is new
to its entry finds a snapshot of its parent just when it is the child of the parent's
last fork: new images start from nothing, and children with what their parents had
counted when they forked.
-/
theorem starts_of_heirsTake
    (loading : Loading) (labels : List Label)
    (meets : Meets (step loading)
      (fun state label => Quiet state label ∧ Orderly loading state label)
      (initial loading) labels) :
    Throughout (step loading) Starts (initial loading) labels :=
  fun before after middle split ran =>
    starts_of_sound (sound_throughout meets before after middle split ran)

/-! ### The snapshot that a new image takes -/

/-- `waitpid:FAIL_AFTER:ECHILD,1`. -/
def waitpidFailAfter : ChaosProcessRule where
  probability := ⟨1, 1⟩
  policy := {}
  callSize := 2 ^ 64 - 1
  hit := some 0
  hitGeneration := 0
  selector := ⟨.operation .waitpid, 7⟩
  effect := .failAfter
  errnum := 10
  latencyMs := 0
  failAfterCount := 1

/-- The rule, loaded once. -/
def waitpidLoading : Loading where
  process := {
    state := ⟨true, [waitpidFailAfter]⟩
    loaded := by
      intro rule member
      cases List.mem_singleton.mp member
      exact ⟨fun _ => by decide⟩ }
  fresh := fun slot => { HitSlot.zero with used := decide (slot = 0) }
  isFresh := {
    held := by
      intro rule member
      cases List.mem_singleton.mp member
      exact ⟨0, rfl, rfl⟩
    count := fun _ => rfl
    claimed := fun _ => by
      show 0 = chaosHitClaimsNone 0
      decide
    state := fun _ => rfl
    used := fun slot used => by
      rw [of_decide_eq_true used]
      exact List.mem_singleton_self _ }
  load := 1

/-- A call with nothing drawn, at time 0. -/
def callOf (operation : ChaosProcessOperation) : ProcessCall :=
  ⟨operation, 0, 0, fun _ => 0⟩

/-- Process 2 forks 3, which makes a call. -/
def forkedCall : List Label :=
  [.start 2, .call 2 (callOf .fork) (.child 3),
    .call 3 (callOf .waitpid) .returns]

theorem starts_of_heirsTake_forkedCall :
    Throughout (step waitpidLoading) Starts (initial waitpidLoading)
      forkedCall :=
  starts_of_heirsTake waitpidLoading forkedCall (by decide +kernel)

/--
Process 2 forks 3, which makes a call and loads a new image; 2 makes a call and forks
4, and then 3 makes a call.
-/
def imageAfterFork : List Label :=
  forkedCall ++
    [.call 3 (callOf .execve) .image, .call 2 (callOf .waitpid) .returns,
      .call 2 (callOf .fork) (.child 4), .call 3 (callOf .waitpid) .returns]

/--
The new image of process 3 takes the snapshot that was made for 4: it starts with
one `waitpid` counted.
-/
theorem newImage_takes_snapshot :
    Meets (step waitpidLoading) Quiet (initial waitpidLoading) imageAfterFork ∧
      ∃ final,
        run (step waitpidLoading) (initial waitpidLoading) imageAfterFork =
          some final ∧
        (final.lives 2).image = true ∧
        (final.lives 2).start.map (fun counters => counters .waitpid) =
          some 1 ∧
        ¬ Starts final := by
  refine ⟨by decide +kernel, ?_⟩
  have observed :
      (run (step waitpidLoading) (initial waitpidLoading) imageAfterFork).map
        (fun final => ((final.lives 2).image,
          (final.lives 2).start.map fun counters => counters .waitpid)) =
        some (true, some 1) := by
    decide +kernel
  rcases Option.map_eq_some_iff.mp observed with ⟨final, ran, seen⟩
  rcases Prod.mk.inj seen with ⟨image, started⟩
  refine ⟨final, ran, image, started, fun starts => ?_⟩
  rcases Option.map_eq_some_iff.mp started with ⟨counters, found, one⟩
  rw [(starts 2 counters found).1 image] at one
  cases one

/-! ## What the two modes decide -/

/--
The supervisor decides for each image as the library does with what the image is left
by its fork; the library itself starts with nothing.
-/
def Agrees (loading : Loading) (state : State) : Prop :=
  ∀ identity,
    (state.lives identity).supervised =
      (decisions loading.process.state
        (loading.counted
          (if (state.lives identity).first then (state.lives identity).inherited
          else fun _ => 0))
        (state.lives identity).calls).1 ∧
    (state.lives identity).preloaded =
      (decisions loading.process.state (loading.counted fun _ => 0)
        (state.lives identity).calls).1

theorem agrees_of_sound (sound : Sound loading state) : Agrees loading state := by
  intro identity
  have recorded := sound.booked.recorded identity
  refine ⟨?_, recorded.preloaded⟩
  cases started : (state.lives identity).start with
  | none =>
      rw [recorded.supervised, recorded.silent started]
      rfl
  | some counters =>
      rw [recorded.supervised, ← recorded.started counters started]
      unfold Life.startOf
      rw [started]
      rfl

/--
In every run in which no living process loses its entry, and a process that is new
to its entry finds a snapshot of its parent just when it is the child of the parent's
last fork: the supervisor's decisions for each image are those of the library, but
that a forked child goes on from what its parent had counted.
-/
theorem decisions_of_heirsTake
    (loading : Loading) (labels : List Label)
    (meets : Meets (step loading)
      (fun state label => Quiet state label ∧ Orderly loading state label)
      (initial loading) labels) :
    Throughout (step loading) (Agrees loading) (initial loading) labels :=
  fun before after middle split ran =>
    agrees_of_sound (sound_throughout meets before after middle split ran)

/-- Process 2 makes a call and forks 3, which makes the same call. -/
def callAfterFork : List Label :=
  [.start 2, .call 2 (callOf .waitpid) .returns,
    .call 2 (callOf .fork) (.child 3), .call 3 (callOf .waitpid) .returns]

theorem decisions_of_heirsTake_callAfterFork :
    Throughout (step waitpidLoading) (Agrees waitpidLoading)
      (initial waitpidLoading) callAfterFork :=
  decisions_of_heirsTake waitpidLoading callAfterFork (by decide +kernel)

/-- The child's first call fails in the supervisor, and passes in the library. -/
theorem firstCall_differs :
    (run (step waitpidLoading) (initial waitpidLoading) callAfterFork).map
        (fun final =>
          ((final.lives 1).supervised, (final.lives 1).preloaded)) =
      some ([true], [false]) := by
  decide +kernel

end ChaosLibs.Init.ForkTree
