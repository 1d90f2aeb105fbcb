import ChaosLibs.Machine.LabelledRun
import ChaosLibs.Machine.WordMixing
import Mathlib.Data.Fintype.EquivFin

/-!
# The draws of the libraries

The generator that each library keeps a state of for each thread: `chaos_<lib>_prng_mix`
makes the first state, `chaos_<lib>_prng_next_u32` the next one and a sample of it.  A
signal handler may draw while the thread it interrupts is anywhere in a draw.  The one
state that must never be drawn from is 0: the generator does not leave it.
-/

namespace ChaosLibs.Common.DrawGenerator

open ChaosLibs.Machine
open ChaosLibs.Machine.WordMixing

/-- `uint64_t`. -/
abbrev Word := BitVec 64

/-- `chaos_<lib>_prng_mix`. -/
def prngMix (value : Word) : Word :=
  let value := value + 0x9e3779b97f4a7c15#64
  let value := (value ^^^ (value >>> 30)) * 0xbf58476d1ce4e5b9#64
  let value := (value ^^^ (value >>> 27)) * 0x94d049bb133111eb#64
  value ^^^ (value >>> 31)

/-- The state that `chaos_<lib>_prng_ensure_seeded` stores; `material` is the process seed,
the thread id and an address, taken together. -/
def lazyState (material : Word) : Word :=
  prngMix material ||| 1#64

/-- `chaos_<lib>_prng_ensure_seeded`. -/
def prngEnsureSeeded (material state : Word) : Word :=
  if state ≠ 0 then state else lazyState material

/-- The state that `chaos_<lib>_prng_seed_thread` stores. -/
def prngSeedThread (seed : Word) : Word :=
  prngMix (if seed = 0 then 1#64 else seed)

/-- The update of a state. -/
def nextState (state : Word) : Word :=
  let state := state ^^^ (state >>> 12)
  let state := state ^^^ (state <<< 25)
  state ^^^ (state >>> 27)

/-- `chaos_<lib>_prng_next_u32`: the state that it stores, and the sample. -/
def prngNextU32 (material state : Word) : Word × BitVec 32 :=
  let state := nextState (prngEnsureSeeded material state)
  (state, ((state * 0x2545f4914f6cdd1d#64) >>> 32).setWidth 32)

/-! ## Steps that can be undone -/

theorem prngMix_injective : Function.Injective prngMix := by
  have first := mul_injective
    (show 0xbf58476d1ce4e5b9#64 * 0x96de1b173f119089#64 = 1#64 by decide)
  have second := mul_injective
    (show 0x94d049bb133111eb#64 * 0x319642b2d24d8ec3#64 = 1#64 by decide)
  have added : Function.Injective fun value : Word => value + 0x9e3779b97f4a7c15#64 :=
    fun _ _ same => (BitVec.add_left_inj _).mp same
  exact (xor_ushiftRight_injective (by decide)).comp
    (second.comp ((xor_ushiftRight_injective (by decide)).comp
      (first.comp ((xor_ushiftRight_injective (by decide)).comp added))))

theorem nextState_injective : Function.Injective nextState :=
  (@xor_ushiftRight_injective 64 27 (by decide)).comp
    ((@xor_shiftLeft_injective 64 25 (by decide)).comp
      (@xor_ushiftRight_injective 64 12 (by decide)))

theorem nextState_ne_zero {state : Word} (live : state ≠ 0) : nextState state ≠ 0 := by
  have still : nextState 0 = 0 := by decide
  intro dead
  exact live (nextState_injective (dead.trans still.symm))

theorem lazyState_ne_zero (material : Word) : lazyState material ≠ 0 := by
  intro dead
  have low := congrArg (fun word : Word => word.getLsbD 0) dead
  simp [lazyState] at low

/-! ## Draws of different threads -/

/--
Of all seeds a thread may take its state from, each shares its draws with one other; with
every further one it never has a state in common after equally many draws.
-/
theorem seeds_share_draws_in_pairs (seed : Word) :
    ∃ twin, twin ≠ seed ∧ ∀ other, other ≠ seed → ∀ draws,
      nextState^[draws] (lazyState other) = nextState^[draws] (lazyState seed) ↔
        other = twin := by
  have finite : Finite Word := Finite.of_injective BitVec.toFin BitVec.toFin_injective
  have onto : Function.Surjective prngMix :=
    Finite.injective_iff_surjective.mp prngMix_injective
  rcases onto (prngMix seed ^^^ 1#64) with ⟨twin, mixed⟩
  have apart : prngMix seed ^^^ 1#64 ≠ prngMix seed := by
    intro same
    have low := congrArg (fun word : Word => word.getLsbD 0) same
    simp at low
  refine ⟨twin, ?_, ?_⟩
  · rintro rfl
    exact apart mixed.symm
  · intro other different draws
    rw [(nextState_injective.iterate draws).eq_iff, lazyState, lazyState, or_one_eq_iff,
      ← mixed, prngMix_injective.eq_iff, prngMix_injective.eq_iff, or_iff_right different]

/-! ## Draws that are interrupted -/

/-- Where a draw is. -/
inductive DrawPc where
  /-- At the test of `chaos_<lib>_prng_ensure_seeded`. -/
  | check
  | reseed (state : Word)
  | load
  | store (state : Word)
deriving DecidableEq

/-- A thread's state, and the draws under way: each has interrupted the one behind it. -/
structure Thread where
  state : Word
  frames : List DrawPc
  /-- The states that samples were taken of. -/
  drawn : List Word

inductive Label where
  /-- The thread, or a handler that interrupts it, starts a draw. -/
  | draw
  /-- The innermost draw goes on; `material` is what it would be seeded from. -/
  | advance (material : Word)
  /-- The fork handler of the child takes the state away. -/
  | forked
  /-- The constructor seeds its thread. -/
  | seeded (seed : Word)

/-- One step of a thread. -/
def step (thread : Thread) : Label → Option Thread
  | .draw => some { thread with frames := .check :: thread.frames }
  | .forked => some { thread with state := 0 }
  | .seeded seed => some { thread with state := prngSeedThread seed }
  | .advance material =>
      match thread.frames with
      | [] => none
      | .check :: outer =>
          if thread.state ≠ 0 then some { thread with frames := .load :: outer }
          else some { thread with frames := .reseed (lazyState material) :: outer }
      | .reseed state :: outer => some { thread with state := state, frames := .load :: outer }
      | .load :: outer =>
          some { thread with frames := .store (nextState thread.state) :: outer }
      | .store state :: outer =>
          some { state := state, frames := outer, drawn := thread.drawn ++ [state] }

/-- A draw that nothing interrupts is `chaos_<lib>_prng_next_u32`. -/
theorem run_draw (material state : Word) (frames : List DrawPc) (drawn : List Word) :
    run step ⟨state, frames, drawn⟩
        (.draw :: List.replicate (if state ≠ 0 then 3 else 4) (.advance material)) =
      some ⟨(prngNextU32 material state).1, frames,
        drawn ++ [(prngNextU32 material state).1]⟩ := by
  by_cases dead : state = 0#64
  · subst dead
    rfl
  · simp [run, step, dead, List.replicate, prngNextU32, prngEnsureSeeded]

/-- No sample was taken of 0, and no draw that has passed its test is about to. -/
structure Live (thread : Thread) : Prop where
  drawn : 0 ∉ thread.drawn
  loads : .load ∈ thread.frames → thread.state ≠ 0

/-- The state becomes 0 only while no draw stands between its test and its load. -/
def TakenBetween (thread : Thread) : Label → Prop
  | .forked => .load ∉ thread.frames
  | .seeded seed => .load ∈ thread.frames → prngSeedThread seed ≠ 0
  | .draw | .advance _ => True

/-- Nothing that a draw under way has read or is about to store is 0. -/
def Nonzero (state : Word) : DrawPc → Prop
  | .check => True
  | .load => state ≠ 0
  | .reseed seeded => seeded ≠ 0
  | .store stored => stored ≠ 0

structure Invariant (thread : Thread) : Prop where
  drawn : 0 ∉ thread.drawn
  frames : ∀ frame ∈ thread.frames, Nonzero thread.state frame

theorem Invariant.live {thread : Thread} (invariant : Invariant thread) : Live thread :=
  ⟨invariant.drawn, fun at_load => invariant.frames .load at_load⟩

/-- A state other than 0 does for every draw. -/
theorem Nonzero.of_ne_zero {state next : Word} {frame : DrawPc} (live : next ≠ 0)
    (nonzero : Nonzero state frame) : Nonzero next frame := by
  cases frame with
  | load => exact live
  | check => trivial
  | reseed seeded => exact nonzero
  | store stored => exact nonzero

theorem invariant_advance {thread next : Thread} {material : Word}
    (invariant : Invariant thread) (stepped : step thread (.advance material) = some next) :
    Invariant next := by
  rcases thread with ⟨state, frames, drawn⟩
  rcases invariant with ⟨clean, nonzero⟩
  cases frames with
  | nil => nomatch stepped
  | cons frame outer =>
      rcases List.forall_mem_cons.mp nonzero with ⟨inner, nonzero⟩
      cases frame with
      | check =>
          dsimp only [step] at stepped
          split at stepped
          · case _ live =>
            cases stepped
            exact ⟨clean, List.forall_mem_cons.mpr ⟨live, nonzero⟩⟩
          · cases stepped
            exact ⟨clean, List.forall_mem_cons.mpr ⟨lazyState_ne_zero material, nonzero⟩⟩
      | reseed seeded =>
          cases stepped
          exact ⟨clean, List.forall_mem_cons.mpr
            ⟨inner, fun frame under => (nonzero frame under).of_ne_zero inner⟩⟩
      | load =>
          cases stepped
          exact ⟨clean, List.forall_mem_cons.mpr ⟨nextState_ne_zero inner, nonzero⟩⟩
      | store stored =>
          cases stepped
          refine ⟨?_, fun frame under => (nonzero frame under).of_ne_zero inner⟩
          intro taken
          rcases List.mem_append.mp taken with earlier | last
          · exact clean earlier
          · exact inner (List.mem_singleton.mp last).symm

/-- A state put in from elsewhere. -/
theorem Invariant.put {thread : Thread} {state : Word} (invariant : Invariant thread)
    (taken : .load ∈ thread.frames → state ≠ 0) : Invariant { thread with state := state } := by
  refine ⟨invariant.drawn, fun frame under => ?_⟩
  cases frame with
  | load => exact taken under
  | check => trivial
  | reseed seeded => exact invariant.frames _ under
  | store stored => exact invariant.frames _ under

theorem invariant_step {thread next : Thread} {label : Label} (invariant : Invariant thread)
    (taken : TakenBetween thread label) (stepped : step thread label = some next) :
    Invariant next := by
  cases label with
  | advance material => exact invariant_advance invariant stepped
  | draw =>
      cases stepped
      exact ⟨invariant.drawn, List.forall_mem_cons.mpr ⟨trivial, invariant.frames⟩⟩
  | forked =>
      cases stepped
      exact invariant.put fun at_load => absurd at_load taken
  | seeded seed =>
      cases stepped
      exact invariant.put taken

/--
In every run of a thread and of the handlers that interrupt it, no sample is ever taken of
the state 0, or about to be, exactly if the state never becomes 0 under a draw that has
passed its test.
-/
theorem draws_stay_live_iff (state : Word) (labels : List Label) :
    Throughout step Live ⟨state, [], []⟩ labels ↔
      Meets step TakenBetween ⟨state, [], []⟩ labels := by
  refine @throughout_iff_meets _ _ step (fun _ => True) TakenBetween Invariant Live ?_ ?_ ?_
    _ _ (fun _ _ => trivial) ?_
  · intro thread label next _ invariant taken stepped
    exact invariant_step invariant taken stepped
  · intro thread invariant
    exact invariant.live
  · intro thread label next _ _ untaken stepped live
    cases label with
    | draw => exact untaken trivial
    | advance material => exact untaken trivial
    | forked =>
        cases stepped
        exact untaken fun at_load => live.loads at_load rfl
    | seeded seed =>
        cases stepped
        exact untaken live.loads
  · exact ⟨List.not_mem_nil, nofun⟩

end ChaosLibs.Common.DrawGenerator
