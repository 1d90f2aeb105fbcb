import ChaosLibs.Common.HitSlots
import ChaosLibs.Machine.LabelledRun

/-!
# The REGRESS state of a slot

Any number of threads in `chaos_time_rule_apply_regress`, one access at a time, with
copies of any generation of one slot, against reloads that release the slot and assign
it to another REGRESS rule.  The generation is compared once, at the top; none of the
later accesses to the state looks at it again.
-/

namespace ChaosLibs.Time.RegressState

open ChaosLibs.Common.HitSlots
open ChaosLibs.Machine

/-! ## The machine -/

/-- Where a thread is, with the `hit_generation` of its copy of the rule. -/
inductive Stage where
  /-- In no call. -/
  | idle
  /-- Before `chaos_hit_slot_current`. -/
  | called (generation : Nat)
  /-- Before `chaos_policy_window_open`. -/
  | checked (generation : Nat)
  /-- Before the first load of the state. -/
  | opened (generation : Nat)
  /-- It has loaded 0: before the compare-and-swap of 0 and 1. -/
  | arming (generation : Nat)
  /-- It has loaded something else: before the second load. -/
  | loaded (generation : Nat)
  /-- It has not loaded 2: before the compare-and-swap of 1 and 3. -/
  | claiming (generation : Nat)
  /-- In `chaos_time_rule_should_trigger`. -/
  | deciding (generation : Nat)
  /-- Before the store of 2, when the rule fires, or of 1. -/
  | storing (generation : Nat) (fires : Bool)
deriving DecidableEq, Repr

/-- The slot and the threads, with what is recorded of the rule that has the slot. -/
structure State where
  slot : HitSlot
  threads : Nat → Stage
  /-- The reads that came to the state under the rule, with whether they were shifted. -/
  reads : List Bool
  /-- The stores of 2 under the rule. -/
  jumps : Nat
  /-- The changes of the state of a rule by threads with a copy of another. -/
  strangers : Nat

/-- A slot of static storage, and threads that are in no call. -/
def initial : State where
  slot := .zero
  threads := fun _ => .idle
  reads := []
  jumps := 0
  strangers := 0

/-- The rule that has the slot is the one of this generation. -/
def State.Owns (state : State) (generation : Nat) : Prop :=
  state.slot.used = true ∧ generation = state.slot.generation

instance (state : State) (generation : Nat) : Decidable (state.Owns generation) :=
  inferInstanceAs (Decidable (_ ∧ _))

/-- A thread goes on to a stage. -/
def State.goto (state : State) (thread : Nat) (stage : Stage) : State :=
  { state with threads := Function.update state.threads thread stage }

/-- A store into the state by a thread with a copy of this generation. -/
def State.store (state : State) (generation value : Nat) : State :=
  { state with
    slot := { state.slot with state := value }
    jumps :=
      if state.Owns generation ∧ value = 2 then state.jumps + 1 else state.jumps
    strangers :=
      if state.slot.used = true ∧ generation ≠ state.slot.generation ∧
          value ≠ state.slot.state then
        state.strangers + 1
      else state.strangers }

/-- The call returns, the value shifted or left real. -/
def State.finish (state : State) (thread generation : Nat) (shifted : Bool) : State :=
  { state.goto thread .idle with
    reads :=
      if state.Owns generation then state.reads ++ [shifted] else state.reads }

/-- One access of `chaos_time_rule_apply_regress`. -/
def State.advance (state : State) (thread : Nat) : Stage → Option State
  | .idle | .checked _ | .deciding _ => none
  | .called generation =>
      if chaosHitSlotCurrent state.slot generation then
        some (state.goto thread (.checked generation))
      else some (state.goto thread .idle)
  | .opened generation =>
      if state.slot.state = 0 then some (state.goto thread (.arming generation))
      else some (state.goto thread (.loaded generation))
  | .arming generation =>
      if state.slot.state = 0 then
        some ((state.store generation 1).finish thread generation false)
      else some (state.finish thread generation false)
  | .loaded generation =>
      if state.slot.state ≠ 2 then some (state.goto thread (.claiming generation))
      else some (state.finish thread generation true)
  | .claiming generation =>
      if state.slot.state = 1 then
        some ((state.store generation 3).goto thread (.deciding generation))
      else some (state.finish thread generation false)
  | .storing generation fires =>
      some
        ((state.store generation (if fires then 2 else 1)).finish thread
          generation fires)

/-- A step of a thread or of the reload owner. -/
inductive Label where
  /-- A thread calls, with a copy of a generation the slot has been assigned under. -/
  | call (thread generation : Nat)
  | advance (thread : Nat)
  /-- What `chaos_policy_window_open` answers. -/
  | window (thread : Nat) (isOpen : Bool)
  /-- What the gates and the draw of `chaos_time_rule_should_trigger` come to. -/
  | decide (thread : Nat) (willing : Bool)
  /-- `chaos_hits_assign` gives the slot to a rule that had none. -/
  | assign
  /-- `chaos_hits_release`, when the rule has left the file. -/
  | release
deriving DecidableEq, Repr

/-- One step. -/
def step (state : State) : Label → Option State
  | .call thread generation =>
      if state.threads thread = .idle ∧
          (generation < state.slot.generation ∨ state.Owns generation) then
        some (state.goto thread (.called generation))
      else none
  | .advance thread => state.advance thread (state.threads thread)
  | .window thread isOpen =>
      match state.threads thread with
      | .checked generation =>
          some (state.goto thread (if isOpen then .opened generation else .idle))
      | _ => none
  | .decide thread willing =>
      match state.threads thread with
      | .deciding generation =>
          -- `chaos_policy_fire` compares the generation once more.
          some
            (state.goto thread
              (.storing generation
                (willing && chaosHitSlotCurrent state.slot generation)))
      | _ => none
  | .assign =>
      if state.slot.used then none
      else
        some
          { state with
            slot :=
              { state.slot with
                count := 0
                claimed := chaosHitClaimsNone state.slot.generation
                state := 0
                used := true }
            reads := []
            jumps := 0 }
  | .release =>
      if state.slot.used then
        some
          { state with
            slot :=
              { state.slot with
                used := false
                generation := state.slot.generation + 1 } }
      else none

/-! ## What a rule is promised, and when it gets it -/

/-- The REGRESS state machine of the rule that has the slot is its own. -/
structure Unleaked (state : State) : Prop where
  /-- No thread with a copy of another rule changed the state of a rule. -/
  strangers : state.strangers = 0
  /-- The first read of the rule is real. -/
  firstReal : state.reads.head? ≠ some true
  /-- It jumps at most once. -/
  jumps : state.jumps ≤ 1
  /-- A read is shifted only after the one jump. -/
  shifted : true ∈ state.reads → state.jumps = 1
  /-- The state says whether it has jumped. -/
  jumped : state.slot.used = true → (state.slot.state = 2 ↔ state.jumps = 1)

/-- The generation of a thread that comes to an access, and what the access stores. -/
def Stage.stores (stage : Stage) (state : Nat) : Option (Nat × Nat) :=
  match stage with
  | .idle | .called _ | .checked _ | .opened _ | .loaded _ | .deciding _ => none
  | .arming generation => if state = 0 then some (generation, 1) else none
  | .claiming generation => if state = 1 then some (generation, 3) else none
  | .storing generation fires => some (generation, if fires then 2 else 1)

/--
A thread that comes to change the state of a slot that a rule has, has the copy of that
rule: the generation it compared at the top is still the slot's.
-/
def StillCurrent (state : State) : Label → Prop
  | .advance thread =>
      ∀ generation value,
        (state.threads thread).stores state.slot.state = some (generation, value) →
          state.slot.used = true → value ≠ state.slot.state →
            generation = state.slot.generation
  | .call _ _ | .window _ _ | .decide _ _ | .assign | .release => True

/-! ## The invariant -/

/-- The generation of the copy of a thread that is in a call. -/
def Stage.generation : Stage → Option Nat
  | .idle => none
  | .called generation | .checked generation | .opened generation
  | .arming generation | .loaded generation | .claiming generation
  | .deciding generation | .storing generation _ => some generation

/-- The thread decides the jump of the rule of this generation. -/
def Stage.Decides (generation : Nat) : Stage → Prop
  | .deciding own | .storing own _ => own = generation
  | .idle | .called _ | .checked _ | .opened _ | .arming _ | .loaded _
  | .claiming _ => False

/-- What every step keeps, when threads change the state under their own rule only. -/
structure Invariant (state : State) : Prop extends Unleaked state where
  /-- The state of a rule is left 0 by a read that stays real. -/
  armed : state.slot.used = true → state.slot.state ≠ 0 → state.reads ≠ []
  /-- A thread that decides the jump of the rule has stored 3. -/
  claimed : ∀ thread generation, state.Owns generation →
    (state.threads thread).Decides generation → state.slot.state = 3
  /-- One thread decides at a time. -/
  alone : ∀ left right generation, state.Owns generation →
    (state.threads left).Decides generation →
      (state.threads right).Decides generation → left = right
  /-- A copy is of the rule that has the slot, or of one that had it. -/
  taken : ∀ thread generation,
    (state.threads thread).generation = some generation →
      generation < state.slot.generation ∨ state.Owns generation

variable {state next : State} {label : Label} {thread generation : Nat}

theorem invariant_initial : Invariant initial where
  strangers := rfl
  firstReal := nofun
  jumps := Nat.zero_le 1
  shifted := nofun
  jumped := nofun
  armed := nofun
  claimed := nofun
  alone := nofun
  taken := nofun

theorem Invariant.jumps_eq_zero
    (ok : Invariant state) (used : state.slot.used = true)
    (other : state.slot.state ≠ 2) : state.jumps = 0 := by
  have different : state.jumps ≠ 1 := fun same => other ((ok.jumped used).mpr same)
  have bounded := ok.jumps
  omega

theorem Invariant.unshifted
    (ok : Invariant state) (used : state.slot.used = true)
    (other : state.slot.state ≠ 2) : true ∉ state.reads := fun member =>
  other ((ok.jumped used).mpr (ok.shifted member))

/-- A read that stays real leaves the first one real; a shifted one is not the first. -/
theorem firstReal_append
    {reads : List Bool} {shifted : Bool} (first : reads.head? ≠ some true)
    (later : shifted = true → reads ≠ []) :
    (reads ++ [shifted]).head? ≠ some true := by
  cases reads with
  | nil =>
      intro head
      exact later (Option.some.inj head) rfl
  | cons read rest => exact first

/-- A thread goes on without a change of the slot, to decide only if it does already. -/
theorem Invariant.goto
    (ok : Invariant state) {stage : Stage}
    (decides : ∀ generation, state.Owns generation → stage.Decides generation →
      (state.threads thread).Decides generation)
    (taken : ∀ generation, stage.generation = some generation →
      generation < state.slot.generation ∨ state.Owns generation) :
    Invariant (state.goto thread stage) := by
  have before : ∀ other generation, state.Owns generation →
      ((state.goto thread stage).threads other).Decides generation →
        (state.threads other).Decides generation := by
    intro other generation owns now
    change (Function.update state.threads thread stage other).Decides generation
      at now
    by_cases same : other = thread
    · rw [same, Function.update_self] at now
      rw [same]
      exact decides generation owns now
    · rwa [Function.update_of_ne same] at now
  exact
    { ok with
      claimed := fun other generation owns now =>
        ok.claimed other generation owns (before other generation owns now)
      alone := fun left right generation owns leftNow rightNow =>
        ok.alone left right generation owns (before left generation owns leftNow)
          (before right generation owns rightNow)
      taken := by
        intro other generation found
        change (Function.update state.threads thread stage other).generation =
          some generation at found
        by_cases same : other = thread
        · rw [same, Function.update_self] at found
          exact taken generation found
        · rw [Function.update_of_ne same] at found
          exact ok.taken other generation found }

/-- A read that ends without a change of the slot. -/
theorem Invariant.finish
    (ok : Invariant state) {shifted : Bool}
    (jumped : state.Owns generation → shifted = true → state.slot.state = 2) :
    Invariant (state.finish thread generation shifted) := by
  have there : Invariant (state.goto thread .idle) :=
    ok.goto (fun _ _ => False.elim) nofun
  by_cases owns : state.Owns generation
  · have reads : (state.finish thread generation shifted).reads =
        state.reads ++ [shifted] := if_pos owns
    have late : shifted = true → state.reads ≠ [] := by
      intro isShifted
      have two := jumped owns isShifted
      exact ok.armed owns.1 (by rw [two]; decide)
    exact
      { there with
        firstReal := by
          rw [reads]
          exact firstReal_append ok.firstReal late
        shifted := by
          rw [reads]
          intro member
          rcases List.mem_append.mp member with before | here
          · exact ok.shifted before
          · have isShifted := List.mem_singleton.mp here
            exact (ok.jumped owns.1).mp (jumped owns isShifted.symm)
        armed := by
          rw [reads]
          exact fun _ _ =>
            List.append_ne_nil_of_right_ne_nil _ (List.cons_ne_nil _ _) }
  · have reads : (state.finish thread generation shifted).reads = state.reads :=
      if_neg owns
    exact
      { there with
        firstReal := by
          rw [reads]
          exact ok.firstReal
        shifted := by
          rw [reads]
          exact ok.shifted
        armed := by
          rw [reads]
          exact ok.armed }

/-! ## The changes of the state -/

theorem not_decides_of_ne
    (ok : Invariant state) (owns : state.Owns generation)
    (other : state.slot.state ≠ 3) (thread : Nat) :
    ¬ (state.threads thread).Decides generation := fun decides =>
  other (ok.claimed thread generation owns decides)

/-- A thread with a copy of another rule changes the state of no rule. -/
theorem Invariant.store_of_not_owns
    (ok : Invariant state) (stranger : ¬ state.Owns generation) {value : Nat}
    (same : state.slot.used = true → value = state.slot.state) :
    Invariant (state.store generation value) := by
  have jumps : (state.store generation value).jumps = state.jumps :=
    if_neg fun both => stranger both.1
  have strangers : (state.store generation value).strangers = state.strangers :=
    if_neg fun ⟨used, _, different⟩ => different (same used)
  by_cases used : state.slot.used = true
  · have kept : (state.store generation value).slot = state.slot := by
      change { state.slot with state := value } = state.slot
      rw [same used]
    have whole : state.store generation value = state := by
      change State.mk (state.store generation value).slot state.threads state.reads
        (state.store generation value).jumps
        (state.store generation value).strangers = state
      rw [kept, jumps, strangers]
    rw [whole]
    exact ok
  · exact
      { strangers := strangers.trans ok.strangers
        firstReal := ok.firstReal
        jumps := jumps.trans_le ok.jumps
        shifted := fun member => jumps.trans (ok.shifted member)
        jumped := fun now => absurd now used
        armed := fun now => absurd now used
        claimed := fun _ _ owns => absurd owns.1 used
        alone := fun _ _ _ owns => absurd owns.1 used
        taken := ok.taken }

/-- The rule's own thread arms it, gives the claim back, or makes the jump. -/
theorem Invariant.settle
    (ok : Invariant state) (owns : state.Owns generation) {fires : Bool}
    (unjumped : state.slot.state ≠ 2)
    (others : ∀ other, other ≠ thread →
      ¬ (state.threads other).Decides generation)
    (late : fires = true → state.reads ≠ []) :
    Invariant
      ((state.store generation (if fires then 2 else 1)).finish thread generation
        fires) := by
  have none := ok.jumps_eq_zero owns.1 unjumped
  have idle : Invariant (state.goto thread .idle) :=
    ok.goto (fun _ _ => False.elim) nofun
  have reads : ((state.store generation (if fires then 2 else 1)).finish thread
      generation fires).reads = state.reads ++ [fires] := if_pos owns
  have strangers : ((state.store generation (if fires then 2 else 1)).finish thread
      generation fires).strangers = state.strangers :=
    if_neg fun both => both.2.1 owns.2
  have jumps : ((state.store generation (if fires then 2 else 1)).finish thread
      generation fires).jumps = if fires then 1 else 0 := by
    change (if state.Owns generation ∧ (if fires then 2 else 1) = 2 then
      state.jumps + 1 else state.jumps) = _
    rw [none]
    cases fires with
    | false => exact if_neg fun both => absurd both.2 (by decide)
    | true => exact if_pos ⟨owns, rfl⟩
  have nobody : ∀ other own, state.Owns own →
      ¬ ((state.goto thread .idle).threads other).Decides own := by
    intro other own ownsOwn decides
    cases owns.2.trans ownsOwn.2.symm
    change (Function.update state.threads thread Stage.idle other).Decides generation
      at decides
    by_cases same : other = thread
    · rw [same, Function.update_self] at decides
      exact decides
    · rw [Function.update_of_ne same] at decides
      exact others other same decides
  exact
    { strangers := strangers.trans ok.strangers
      firstReal := by
        rw [reads]
        exact firstReal_append ok.firstReal late
      jumps := by
        rw [jumps]
        cases fires with
        | false => exact Nat.zero_le 1
        | true => exact Nat.le_refl 1
      shifted := by
        rw [reads, jumps]
        intro member
        rcases List.mem_append.mp member with before | here
        · exact absurd before (ok.unshifted owns.1 unjumped)
        · rw [← List.mem_singleton.mp here]
          rfl
      jumped := by
        rw [jumps]
        intro _
        cases fires with
        | false =>
            refine iff_of_false (fun two => ?_) (by decide)
            change 1 = 2 at two
            exact absurd two (by decide)
        | true => exact iff_of_true rfl rfl
      armed := by
        rw [reads]
        exact fun _ _ =>
          List.append_ne_nil_of_right_ne_nil _ (List.cons_ne_nil _ _)
      claimed := fun other own ownsOwn decides =>
        absurd decides (nobody other own ownsOwn)
      alone := fun left _ own ownsOwn decides =>
        absurd decides (nobody left own ownsOwn)
      taken := idle.taken }

/-- The rule's own thread claims the decision. -/
theorem Invariant.claim
    (ok : Invariant state) (owns : state.Owns generation)
    (one : state.slot.state = 1) :
    Invariant ((state.store generation 3).goto thread (.deciding generation)) := by
  have none := ok.jumps_eq_zero owns.1 (by rw [one]; decide)
  have nobody := not_decides_of_ne ok owns (by rw [one]; decide)
  have strangers : (state.store generation 3).strangers = state.strangers :=
    if_neg fun both => both.2.1 owns.2
  have jumps : (state.store generation 3).jumps = state.jumps :=
    if_neg fun both => absurd both.2 (by decide)
  have only : ∀ other own, state.Owns own →
      (((state.store generation 3).goto thread (.deciding generation)).threads
        other).Decides own → other = thread := by
    intro other own ownsOwn decides
    cases owns.2.trans ownsOwn.2.symm
    by_contra different
    change (Function.update state.threads thread (Stage.deciding generation)
      other).Decides generation at decides
    rw [Function.update_of_ne different] at decides
    exact nobody other decides
  exact
    { strangers := strangers.trans ok.strangers
      firstReal := ok.firstReal
      jumps := jumps.trans_le ok.jumps
      shifted := fun member => jumps.trans (ok.shifted member)
      jumped := by
        intro _
        change 3 = 2 ↔ (state.store generation 3).jumps = 1
        rw [jumps, none]
        exact iff_of_false (by decide) (by decide)
      armed := fun _ _ => ok.armed owns.1 (by rw [one]; decide)
      claimed := fun _ _ _ _ => rfl
      alone := fun left right own ownsOwn leftDecides rightDecides =>
        (only left own ownsOwn leftDecides).trans
          (only right own ownsOwn rightDecides).symm
      taken := by
        intro other own found
        change (Function.update state.threads thread (Stage.deciding generation)
          other).generation = some own at found
        by_cases same : other = thread
        · rw [same, Function.update_self] at found
          cases found
          exact Or.inr owns
        · rw [Function.update_of_ne same] at found
          exact ok.taken other own found }

/-! ## The steps -/

/-- The copy of a thread stays what it was while the thread goes on in the call. -/
theorem Invariant.taken_of_eq
    (ok : Invariant state) {stage : Stage}
    (own : stage.generation = some generation)
    (here : state.threads thread = stage) (other : Nat)
    (same : some generation = some other) :
    other < state.slot.generation ∨ state.Owns other := by
  rw [← here] at own
  exact ok.taken thread other (own.trans same)

theorem invariant_advance
    (ok : Invariant state)
    (current : StillCurrent state (.advance thread))
    (stepped : state.advance thread (state.threads thread) = some next) :
    Invariant next := by
  dsimp only [StillCurrent] at current
  cases here : state.threads thread with
  | idle =>
      rw [here] at stepped
      cases stepped
  | called generation =>
      rw [here] at stepped
      dsimp only [State.advance] at stepped
      split at stepped
      · cases stepped
        exact ok.goto (fun _ _ => False.elim) (ok.taken_of_eq rfl here)
      · cases stepped
        exact ok.goto (fun _ _ => False.elim) nofun
  | checked generation =>
      rw [here] at stepped
      cases stepped
  | opened generation =>
      rw [here] at stepped
      dsimp only [State.advance] at stepped
      split at stepped
      · cases stepped
        exact ok.goto (fun _ _ => False.elim) (ok.taken_of_eq rfl here)
      · cases stepped
        exact ok.goto (fun _ _ => False.elim) (ok.taken_of_eq rfl here)
  | arming generation =>
      rw [here] at stepped current
      dsimp only [State.advance] at stepped
      split at stepped
      · rename_i zero
        cases stepped
        by_cases owns : state.Owns generation
        · show Invariant ((state.store generation
            (if (false : Bool) then 2 else 1)).finish thread generation false)
          exact ok.settle owns (by rw [zero]; decide)
            (fun other _ => not_decides_of_ne ok owns (by rw [zero]; decide) other)
            (fun fires => by cases fires)
        · have kept : state.slot.used = true → 1 = state.slot.state := by
            intro used
            by_contra different
            exact owns ⟨used, current generation 1 (if_pos zero) used different⟩
          exact (ok.store_of_not_owns owns kept).finish
            (fun _ isShifted => by cases isShifted)
      · cases stepped
        exact ok.finish (fun _ isShifted => by cases isShifted)
  | loaded generation =>
      rw [here] at stepped
      dsimp only [State.advance] at stepped
      split at stepped
      · cases stepped
        exact ok.goto (fun _ _ => False.elim) (ok.taken_of_eq rfl here)
      · rename_i two
        cases stepped
        exact ok.finish (fun _ _ => not_not.mp two)
  | claiming generation =>
      rw [here] at stepped current
      dsimp only [State.advance] at stepped
      split at stepped
      · rename_i one
        cases stepped
        by_cases owns : state.Owns generation
        · exact ok.claim owns one
        · have kept : state.slot.used = true → 3 = state.slot.state := by
            intro used
            by_contra different
            exact owns ⟨used, current generation 3 (if_pos one) used different⟩
          have free : state.slot.used ≠ true := by
            intro used
            have three := kept used
            rw [one] at three
            cases three
          have stored := ok.store_of_not_owns owns kept
          exact stored.goto (fun _ ownsOther => absurd ownsOther.1 free)
            (stored.taken_of_eq rfl here)
      · cases stepped
        exact ok.finish (fun _ isShifted => by cases isShifted)
  | deciding generation =>
      rw [here] at stepped
      cases stepped
  | storing generation fires =>
      rw [here] at stepped current
      cases stepped
      by_cases owns : state.Owns generation
      · have decides : (state.threads thread).Decides generation := by
          rw [here]
          rfl
        have three := ok.claimed thread generation owns decides
        exact ok.settle owns (by rw [three]; decide)
          (fun other different otherDecides =>
            different (ok.alone other thread generation owns otherDecides decides))
          (fun _ => ok.armed owns.1 (by rw [three]; decide))
      · have kept : state.slot.used = true →
            (if fires then 2 else 1) = state.slot.state := by
          intro used
          by_contra different
          exact owns ⟨used, current generation _ rfl used different⟩
        exact (ok.store_of_not_owns owns kept).finish
          (fun ownsOther => absurd ownsOther owns)

theorem invariant_step
    (ok : Invariant state) (current : StillCurrent state label)
    (stepped : step state label = some next) : Invariant next := by
  cases label with
  | call thread generation =>
      dsimp only [step] at stepped
      split at stepped
      · rename_i enabled
        cases stepped
        refine ok.goto (fun _ _ => False.elim) ?_
        intro own same
        cases same
        exact enabled.2
      · cases stepped
  | advance thread => exact invariant_advance ok current stepped
  | window thread isOpen =>
      dsimp only [step] at stepped
      split at stepped
      · rename_i generation here
        cases stepped
        cases isOpen with
        | false => exact ok.goto (fun _ _ => False.elim) nofun
        | true => exact ok.goto (fun _ _ => False.elim) (ok.taken_of_eq rfl here)
      · cases stepped
  | decide thread willing =>
      dsimp only [step] at stepped
      split at stepped
      · rename_i generation here
        cases stepped
        refine ok.goto ?_ (ok.taken_of_eq rfl here)
        intro own _ decides
        rw [here]
        exact decides
      · cases stepped
  | assign =>
      dsimp only [step] at stepped
      split at stepped
      · cases stepped
      · rename_i free
        cases stepped
        -- The copies are of earlier rules, so nobody decides for this one.
        have earlier : ∀ thread own, (state.threads thread).generation = some own →
            own < state.slot.generation := by
          intro thread own found
          rcases ok.taken thread own found with before | owns
          · exact before
          · exact absurd owns.1 free
        have nobody : ∀ thread,
            ¬ (state.threads thread).Decides state.slot.generation := by
          intro thread decides
          have found : (state.threads thread).generation =
              some state.slot.generation := by
            cases here : state.threads thread with
            | deciding own =>
                rw [here] at decides
                exact congrArg some decides
            | storing own fires =>
                rw [here] at decides
                exact congrArg some decides
            | _ =>
                rw [here] at decides
                exact decides.elim
          exact absurd (earlier thread _ found) (Nat.lt_irrefl _)
        exact
          { strangers := ok.strangers
            firstReal := nofun
            jumps := Nat.zero_le 1
            shifted := nofun
            jumped := by
              intro _
              change 0 = 2 ↔ 0 = 1
              decide
            armed := fun _ other => absurd rfl other
            claimed := by
              intro thread own owns decides
              cases owns.2
              exact absurd decides (nobody thread)
            alone := by
              intro left right own owns decides
              cases owns.2
              exact absurd decides (nobody left)
            taken := fun thread own found => Or.inl (earlier thread own found) }
  | release =>
      dsimp only [step] at stepped
      split at stepped
      · cases stepped
        exact
          { strangers := ok.strangers
            firstReal := ok.firstReal
            jumps := ok.jumps
            shifted := ok.shifted
            jumped := nofun
            armed := nofun
            claimed := fun _ _ owns => absurd owns.1 nofun
            alone := fun _ _ _ owns => absurd owns.1 nofun
            taken := by
              intro thread own found
              rcases ok.taken thread own found with before | owns
              · exact Or.inl (Nat.lt_succ_of_lt before)
              · exact Or.inl (Nat.lt_succ_of_le (Nat.le_of_eq owns.2)) }
      · cases stepped

/-- A thread that changes the state of another rule leaves it leaked. -/
theorem not_unleaked_of_step
    (stale : ¬ StillCurrent state label)
    (stepped : step state label = some next) : ¬ Unleaked next := by
  cases label with
  | call thread generation => exact absurd trivial stale
  | window thread isOpen => exact absurd trivial stale
  | decide thread willing => exact absurd trivial stale
  | assign => exact absurd trivial stale
  | release => exact absurd trivial stale
  | advance thread =>
      dsimp only [StillCurrent] at stale
      push Not at stale
      rcases stale with ⟨generation, value, stores, used, changes, other⟩
      have counted : (state.store generation value).strangers =
          state.strangers + 1 := if_pos ⟨used, other, changes⟩
      change state.advance thread (state.threads thread) = some next at stepped
      intro unleaked
      have strangers : next.strangers = state.strangers + 1 := by
        cases here : state.threads thread with
        | arming own =>
            rw [here] at stepped stores
            dsimp only [State.advance, Stage.stores] at stepped stores
            split at stores
            · rename_i zero
              rw [if_pos zero] at stepped
              cases stores
              cases stepped
              exact counted
            · cases stores
        | claiming own =>
            rw [here] at stepped stores
            dsimp only [State.advance, Stage.stores] at stepped stores
            split at stores
            · rename_i one
              rw [if_pos one] at stepped
              cases stores
              cases stepped
              exact counted
            · cases stores
        | storing own fires =>
            rw [here] at stepped stores
            cases stores
            cases stepped
            exact counted
        | _ =>
            rw [here] at stores
            cases stores
      rw [unleaked.strangers] at strangers
      cases strangers

/--
Thread 0 compares the generation of its copy; the slot is released and assigned to
another rule; thread 0 arms that one, and the first read under it, of thread 1, jumps.
-/
def reassignedBeforeArming : List Label :=
  [.assign, .call 0 0, .advance 0, .window 0 true, .release, .assign,
    .advance 0, .advance 0,
    .call 1 1, .advance 1, .window 1 true, .advance 1, .advance 1, .advance 1,
    .decide 1 true, .advance 1]

end ChaosLibs.Time.RegressState
