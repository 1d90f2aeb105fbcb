import ChaosLibs.Common.HitsReport

/-!
# No hit is left unreported

The pending flag is set after a hit is counted and cleared before the counts are read,
so a writer that has cleared it writes out every hit of the rules in its snapshot.
-/

namespace ChaosLibs.Common.HitsReported

open ChaosLibs.Common.CString
open ChaosLibs.Common.HitsReport
open ChaosLibs.Machine

/-! ## The invariant -/

/-- Between taking and releasing the writer flag. -/
def inSection : Pc → Bool
  | .sample | .loop _ | .clear _ | .begin _ | .format _ _ _ | .release => true
  | _ => false

/-- The slot of a thread's copy, its generation, and the number of the hit. -/
def holding : Pc → Option (Nat × Nat × Nat)
  | .matched slot generation => some (slot, generation, 0)
  | .counted slot generation number => some (slot, generation, number)
  | .requesting slot generation number => some (slot, generation, number)
  | _ => none

/-- A line of the file has the requested hits of a rule. -/
def Included (state : State) (rule : Rule) : Prop :=
  ∃ count, some (rule, count) ∈ state.file ∧ (state.slots rule.slot).requested ≤ count

/-- The requested hits of a rule are, or will be, in what a writer writes. -/
def WillInclude (state : State) (rule : Rule) : Pc → Prop
  | .begin snapshot => rule ∈ state.snapshots snapshot
  | .format snapshot count lines =>
      (∃ number, some (rule, number) ∈ lines ∧
        (state.slots rule.slot).requested ≤ number) ∨
      ∃ index, lines.length ≤ index ∧ index < count ∧
        (state.snapshots snapshot)[index]? = some rule
  | _ => False

/-- A copy of the present generation is of a rule of the active snapshot. -/
def HeldGood (state : State) (slot generation number : Nat) : Prop :=
  generation ≤ (state.slots slot).generation ∧
    (generation = (state.slots slot).generation →
      (∃ rule ∈ state.rules, rule.slot = slot) ∧ number ≤ (state.slots slot).count)

/-- A rule whose hits no pending flag stands for. -/
structure Written (state : State) (rule : Rule) : Prop where
  writer : ∀ thread, (state.threads thread).writes ≠ none →
    WillInclude state rule (state.threads thread)
  file : (∀ thread, (state.threads thread).writes = none) → Included state rule

/-- The invariant of the runs. -/
structure Invariant (state : State) : Prop where
  within : ∀ slot, (state.slots slot).requested ≤ (state.slots slot).count
  held : ∀ thread slot generation number,
    holding (state.threads thread) = some (slot, generation, number) →
      HeldGood state slot generation number
  writing : ∀ thread, inSection (state.threads thread) = true → state.writing = true
  single : ∀ one other, inSection (state.threads one) = true →
    inSection (state.threads other) = true → one = other
  written : state.pending = false → ∀ rule ∈ state.rules,
    (state.slots rule.slot).requested ≠ 0 → Written state rule
  /-- New rules have no hits and a slot of their own. -/
  filled : state.reload = .filled → ∀ rule ∈ state.snapshots (!state.active),
    rule ∈ state.rules ∨
      (∀ other ∈ state.rules, other.slot ≠ rule.slot) ∧
        (state.slots rule.slot).requested = 0

variable {state after : State} {pc next : Pc} {mover : Nat}

theorem inSection_of_writes (writes : pc.writes ≠ none) : inSection pc = true := by
  cases pc with
  | begin snapshot => rfl
  | format snapshot count lines => rfl
  | _ => exact absurd rfl writes

theorem invariant_initial : Invariant State.initial where
  within _ := Nat.le_refl _
  held _ _ _ _ holds := by cases holds
  writing _ inside := by cases inside
  single _ _ inside := by cases inside
  written _ _ member := by cases member
  filled filled := by cases filled

/-- When no thread is at work and none is wanted, every request is in the file. -/
theorem Invariant.included (invariant : Invariant state) (free : state.writing = false)
    (calm : state.pending = false) {rule : Rule} (member : rule ∈ state.rules)
    (hit : (state.slots rule.slot).requested ≠ 0) : Included state rule := by
  refine (invariant.written calm rule member hit).file fun thread => ?_
  by_contra writes
  have busy := invariant.writing thread (inSection_of_writes writes)
  rw [free] at busy
  cases busy

/-! ## Moves of a thread -/

/-- The state with a thread elsewhere. -/
def moved (state : State) (mover : Nat) (next : Pc) : State :=
  { state with threads := Function.update state.threads mover next }

theorem threads_moved (mover : Nat) (next : Pc) :
    (moved state mover next).threads mover = next :=
  Function.update_self _ _ _

theorem threads_moved_of_ne {thread : Nat} (different : thread ≠ mover) (next : Pc) :
    (moved state mover next).threads thread = state.threads thread :=
  Function.update_of_ne different _ _

/-- What a thread may become while nothing that is shared changes. -/
structure Quiet (state : State) (pc next : Pc) : Prop where
  held : ∀ slot generation number, holding next = some (slot, generation, number) →
    HeldGood state slot generation number
  inside : inSection next = true → inSection pc = true
  writes : next.writes ≠ none ↔ pc.writes ≠ none
  keeps : ∀ rule, WillInclude state rule pc → WillInclude state rule next

theorem Invariant.move (invariant : Invariant state)
    (quiet : Quiet state (state.threads mover) next) :
    Invariant (moved state mover next) where
  within := invariant.within
  held thread slot generation number holds := by
    by_cases here : thread = mover
    · rw [here, threads_moved] at holds
      exact quiet.held slot generation number holds
    · rw [threads_moved_of_ne here] at holds
      exact invariant.held thread slot generation number holds
  writing thread inside := by
    by_cases here : thread = mover
    · rw [here, threads_moved] at inside
      exact invariant.writing mover (quiet.inside inside)
    · rw [threads_moved_of_ne here] at inside
      exact invariant.writing thread inside
  single one other insideOne insideOther := by
    have before : ∀ thread, inSection ((moved state mover next).threads thread) = true →
        inSection (state.threads thread) = true := by
      intro thread inside
      by_cases here : thread = mover
      · rw [here, threads_moved] at inside
        rw [here]
        exact quiet.inside inside
      · rwa [threads_moved_of_ne here] at inside
    exact invariant.single one other (before one insideOne) (before other insideOther)
  written calm rule member hit := by
    have written := invariant.written calm rule member hit
    constructor
    · intro thread writes
      by_cases here : thread = mover
      · rw [here, threads_moved] at writes ⊢
        exact quiet.keeps rule (written.writer mover (quiet.writes.mp writes))
      · rw [threads_moved_of_ne here] at writes ⊢
        exact written.writer thread writes
    · intro nobody
      refine written.file fun thread => ?_
      by_contra writes
      by_cases here : thread = mover
      · rw [here] at writes
        have still := nobody mover
        rw [threads_moved] at still
        exact quiet.writes.mpr writes still
      · have still := nobody thread
        rw [threads_moved_of_ne here] at still
        exact writes still
  filled := invariant.filled

/-- A move of a thread that is not writing to a place where it is not, either. -/
theorem quiet_of_writes_eq_none
    (idle : pc.writes = none) (idleNext : next.writes = none)
    (heldNext : ∀ slot generation number, holding next = some (slot, generation, number) →
      HeldGood state slot generation number)
    (inside : inSection next = true → inSection pc = true) : Quiet state pc next where
  held := heldNext
  inside := inside
  writes := by rw [idle, idleNext]
  keeps rule includes := by
    cases pc with
    | begin snapshot => cases idle
    | format snapshot count lines => cases idle
    | _ => exact includes.elim

/-! ## Hits -/

theorem HeldGood.mono {slots : Nat → Slot} {slot generation number : Nat}
    (good : HeldGood state slot generation number)
    (sameGeneration : (slots slot).generation = (state.slots slot).generation)
    (more : (state.slots slot).count ≤ (slots slot).count) :
    HeldGood { state with slots := slots } slot generation number := by
  refine ⟨good.1.trans_eq sameGeneration.symm, fun current => ?_⟩
  rcases good.2 (current.trans sameGeneration) with ⟨owner, within⟩
  exact ⟨owner, within.trans more⟩

theorem WillInclude.congr {slots : Nat → Slot} {rule : Rule}
    (includes : WillInclude state rule pc)
    (same : (slots rule.slot).requested = (state.slots rule.slot).requested) :
    WillInclude { state with slots := slots } rule pc := by
  cases pc with
  | begin snapshot => exact includes
  | format snapshot count lines =>
      dsimp only [WillInclude]
      rw [same]
      exact includes
  | _ => exact includes

/-- Slots change in their counts only. -/
theorem Invariant.counts {slots : Nat → Slot} (invariant : Invariant state)
    (generation : ∀ slot, (slots slot).generation = (state.slots slot).generation)
    (requested : ∀ slot, (slots slot).requested = (state.slots slot).requested)
    (count : ∀ slot, (state.slots slot).count ≤ (slots slot).count) :
    Invariant { state with slots := slots } := by
  refine ⟨fun slot => ?_, ?_, invariant.writing, invariant.single, ?_, ?_⟩
  · exact (requested slot).trans_le ((invariant.within slot).trans (count slot))
  · intro thread slot generations number holds
    exact (invariant.held thread slot generations number holds).mono (generation slot)
      (count slot)
  · intro calm rule member hit
    have written := invariant.written calm rule member
      (by rw [← requested rule.slot]; exact hit)
    constructor
    · intro thread writes
      exact (written.writer thread writes).congr (requested rule.slot)
    · intro nobody
      rcases written.file nobody with ⟨number, line, enough⟩
      exact ⟨number, line, (requested rule.slot).trans_le enough⟩
  · intro filled rule member
    rcases invariant.filled filled rule member with before | ⟨own, none⟩
    · exact Or.inl before
    · exact Or.inr ⟨own, (requested rule.slot).trans none⟩

/-- A hit is counted. -/
theorem Invariant.count (invariant : Invariant state) (slot : Nat) {more : Slot}
    (generation : more.generation = (state.slots slot).generation)
    (requested : more.requested = (state.slots slot).requested)
    (count : (state.slots slot).count ≤ more.count) :
    Invariant { state with slots := Function.update state.slots slot more } := by
  refine invariant.counts (fun other => ?_) (fun other => ?_) fun other => ?_
  all_goals
    by_cases here : other = slot
    · rw [here, Function.update_self]
      assumption
    · rw [Function.update_of_ne here]

theorem generation_request (slot generation number other : Nat) :
    (state.request slot generation number other).generation =
      (state.slots other).generation := by
  by_cases here : other = slot
  · rw [here, State.request, Function.update_self, Slot.request]
    split <;> rfl
  · rw [State.request, Function.update_of_ne here]

theorem count_request (slot generation number other : Nat) :
    (state.request slot generation number other).count = (state.slots other).count := by
  by_cases here : other = slot
  · rw [here, State.request, Function.update_self, Slot.request]
    split <;> rfl
  · rw [State.request, Function.update_of_ne here]

/-- The report of a hit has been requested, and the pending flag is set. -/
theorem Invariant.request {slot generation number : Nat} (invariant : Invariant state)
    (pending : state.pending = true) (good : HeldGood state slot generation number) :
    Invariant { state with slots := state.request slot generation number } := by
  refine ⟨fun other => ?_, ?_, invariant.writing, invariant.single, ?_, ?_⟩
  · dsimp only
    rw [count_request]
    by_cases here : other = slot
    · rw [here, State.request, Function.update_self, Slot.request]
      split
      · rename_i current
        exact max_le (invariant.within slot) (good.2 current.symm).2
      · exact invariant.within slot
    · rw [State.request, Function.update_of_ne here]
      exact invariant.within other
  · intro thread other generations numbers holds
    exact (invariant.held thread other generations numbers holds).mono
      (generation_request slot generation number other)
      (count_request slot generation number other).ge
  · intro calm
    dsimp only at calm
    rw [pending] at calm
    cases calm
  · intro filled rule member
    rcases invariant.filled filled rule member with before | ⟨own, none⟩
    · exact Or.inl before
    · refine Or.inr ⟨own, ?_⟩
      dsimp only
      -- The slot of a new rule is nobody's, so no copy is of its generation.
      by_cases here : rule.slot = slot
      · rw [here, State.request, Function.update_self, Slot.request]
        split
        · rename_i current
          rcases (good.2 current.symm).1 with ⟨other, inside, same⟩
          exact absurd (same.trans here.symm) (own other inside)
        · rw [← here]
          exact none
      · rw [State.request, Function.update_of_ne here]
        exact none

theorem Invariant.setPending (invariant : Invariant state) :
    Invariant { state with pending := true } where
  within := invariant.within
  held := invariant.held
  writing := invariant.writing
  single := invariant.single
  written calm := by cases calm
  filled := invariant.filled

/-! ## The writer -/

/-- A thread takes the writer flag. -/
theorem Invariant.acquire (invariant : Invariant state) (free : state.writing = false)
    (place : state.threads mover = .acquire) :
    Invariant (moved { state with writing := true } mover .sample) := by
  have nobody : ∀ thread, inSection (state.threads thread) = false := by
    intro thread
    by_contra inside
    have busy := invariant.writing thread (Bool.eq_true_of_not_eq_false inside)
    rw [free] at busy
    cases busy
  have only : ∀ thread,
      inSection ((moved { state with writing := true } mover .sample).threads thread) =
        true → thread = mover := by
    intro thread inside
    by_contra different
    rw [threads_moved_of_ne different] at inside
    have outside := nobody thread
    rw [outside] at inside
    cases inside
  have quiet : Quiet state (state.threads mover) .requested :=
    quiet_of_writes_eq_none (by rw [place]; rfl) rfl (by intro _ _ _ holds; cases holds)
      (by intro inside; cases inside)
  have calmed := invariant.move quiet
  refine ⟨invariant.within, ?_, fun _ _ => rfl, ?_, ?_, invariant.filled⟩
  · intro thread slot generation number holds
    by_cases here : thread = mover
    · rw [here, threads_moved] at holds
      cases holds
    · rw [threads_moved_of_ne here] at holds
      exact invariant.held thread slot generation number holds
  · intro one other insideOne insideOther
    rw [only one insideOne, only other insideOther]
  · intro calm rule member hit
    have written := calmed.written calm rule member hit
    constructor
    · intro thread writes
      by_cases here : thread = mover
      · rw [here, threads_moved] at writes
        exact absurd rfl writes
      · rw [threads_moved_of_ne here] at writes ⊢
        have same := written.writer thread
        rw [threads_moved_of_ne here] at same
        exact same writes
    · intro idle
      refine written.file fun thread => ?_
      by_cases here : thread = mover
      · rw [here, threads_moved]
        rfl
      · have still := idle thread
        rw [threads_moved_of_ne here] at still
        rw [threads_moved_of_ne here]
        exact still

/-- No other thread is in the section of one that is. -/
theorem Invariant.outside (invariant : Invariant state)
    (inside : inSection (state.threads mover) = true) {thread : Nat}
    (different : thread ≠ mover) : inSection (state.threads thread) = false := by
  by_contra both
  exact different
    (invariant.single thread mover (Bool.eq_true_of_not_eq_false both) inside)

/-- A thread gives the writer flag back. -/
theorem Invariant.release (invariant : Invariant state)
    (place : state.threads mover = .release) :
    Invariant (moved { state with writing := false } mover .recheck) := by
  have inside : inSection (state.threads mover) = true := by rw [place]; rfl
  have quiet : Quiet state (state.threads mover) .recheck :=
    quiet_of_writes_eq_none (by rw [place]; rfl) rfl (by intro _ _ _ holds; cases holds)
      (by intro inside; cases inside)
  have calmed := invariant.move quiet
  refine ⟨calmed.within, calmed.held, ?_, calmed.single, fun calm rule member hit => ?_,
    calmed.filled⟩
  · intro thread still
    by_cases here : thread = mover
    · rw [here, threads_moved] at still
      cases still
    · rw [threads_moved_of_ne here] at still
      have outside := invariant.outside inside here
      exact absurd (still.symm.trans outside) nofun
  · have written := calmed.written calm rule member hit
    exact ⟨written.writer, written.file⟩

/-- A move inside the section, after which only this thread can be writing. -/
theorem Invariant.moveInside {shared : State} (invariant : Invariant state)
    (inside : inSection (state.threads mover) = true)
    (heldNext : holding next = none)
    (threads : shared.threads = state.threads)
    (snapshots : shared.snapshots = state.snapshots)
    (active : shared.active = state.active) (slots : shared.slots = state.slots)
    (writing : shared.writing = state.writing) (reload : shared.reload = state.reload)
    (written : shared.pending = false → ∀ rule ∈ shared.rules,
      (shared.slots rule.slot).requested ≠ 0 →
        (next.writes ≠ none → WillInclude shared rule next) ∧
          (next.writes = none → Included shared rule)) :
    Invariant (moved shared mover next) := by
  have others : ∀ thread, thread ≠ mover →
      (moved shared mover next).threads thread = state.threads thread := by
    intro thread different
    rw [threads_moved_of_ne different, threads]
  have rules : shared.rules = state.rules := by
    rw [State.rules, snapshots, active]
    rfl
  have within : ∀ thread, inSection ((moved shared mover next).threads thread) = true →
      thread = mover := by
    intro thread still
    by_contra different
    rw [others thread different, invariant.outside inside different] at still
    cases still
  refine ⟨?_, ?_, ?_, ?_, ?_, ?_⟩
  · intro slot
    change (shared.slots slot).requested ≤ (shared.slots slot).count
    rw [slots]
    exact invariant.within slot
  · intro thread slot generation number holds
    by_cases here : thread = mover
    · rw [here, threads_moved, heldNext] at holds
      cases holds
    · rw [others thread here] at holds
      have good := invariant.held thread slot generation number holds
      dsimp only [HeldGood] at good ⊢
      change generation ≤ (shared.slots slot).generation ∧
        (generation = (shared.slots slot).generation →
          (∃ rule ∈ shared.rules, rule.slot = slot) ∧
            number ≤ (shared.slots slot).count)
      rw [slots, rules]
      exact good
  · intro thread still
    have busy := invariant.writing mover inside
    rw [← writing] at busy
    exact busy
  · intro one other insideOne insideOther
    rw [within one insideOne, within other insideOther]
  · intro calm rule member hit
    rcases written calm rule member hit with ⟨writer, file⟩
    constructor
    · intro thread writes
      by_cases here : thread = mover
      · rw [here, threads_moved] at writes ⊢
        exact writer writes
      · exact absurd (within thread (inSection_of_writes writes)) here
    · intro nobody
      have still := nobody mover
      rw [threads_moved] at still
      exact file still
  · intro filled rule member
    change shared.reload = .filled at filled
    change rule ∈ shared.snapshots (!shared.active) at member
    change rule ∈ shared.rules ∨ (∀ other ∈ shared.rules, other.slot ≠ rule.slot) ∧
      (shared.slots rule.slot).requested = 0
    rw [reload] at filled
    rw [snapshots, active] at member
    rw [rules, slots]
    exact invariant.filled filled rule member

/-- A writer clears the pending flag and goes on to write its snapshot out. -/
theorem Invariant.clearPending {snapshot : Bool} (invariant : Invariant state)
    (place : state.threads mover = .clear snapshot)
    (current : ∀ rule ∈ state.rules, (state.slots rule.slot).requested ≠ 0 →
      rule ∈ state.snapshots snapshot) :
    Invariant (moved { state with pending := false } mover (.begin snapshot)) := by
  refine @Invariant.moveInside state (.begin snapshot) mover
    { state with pending := false } invariant (by rw [place]; rfl) rfl rfl rfl rfl rfl rfl
    rfl ?_
  exact fun _ rule member hit => ⟨fun _ => current rule member hit, nofun⟩

/-- A writer has written its file. -/
theorem Invariant.finish {snapshot : Bool} {count : Nat} {lines : List Line}
    (invariant : Invariant state)
    (place : state.threads mover = .format snapshot count lines)
    (whole : ¬ lines.length < count) :
    Invariant (moved { state with file := lines } mover (.loop snapshot)) := by
  refine @Invariant.moveInside state (.loop snapshot) mover
    { state with file := lines } invariant (by rw [place]; rfl) rfl rfl rfl rfl rfl rfl
    rfl ?_
  intro calm rule member hit
  refine ⟨fun writes => absurd rfl writes, fun _ => ?_⟩
  have includes := (invariant.written calm rule member hit).writer mover
    (by rw [place]; exact Option.some_ne_none _)
  rw [place] at includes
  rcases includes with ⟨number, line, enough⟩ | ⟨index, after, before, -⟩
  · exact ⟨number, line, enough⟩
  · exact absurd (Nat.lt_of_le_of_lt after before) whole

/-! ## Steps of a thread -/

theorem quiet_of_same
    (idle : pc.writes = none) (outside : inSection next = false)
    (idleNext : next.writes = none) (nothing : holding next = none) :
    Quiet state pc next :=
  quiet_of_writes_eq_none idle idleNext
    (by intro _ _ _ holds; rw [nothing] at holds; cases holds)
    (by intro inside; rw [outside] at inside; cases inside)

/-- A writer goes on to the lines. -/
theorem quiet_begin (state : State) (snapshot : Bool) :
    Quiet state (.begin snapshot)
      (.format snapshot (state.snapshots snapshot).length []) where
  held _ _ _ holds := by cases holds
  inside _ := rfl
  writes := iff_of_true (Option.some_ne_none _) (Option.some_ne_none _)
  keeps rule includes := by
    rcases List.getElem?_of_mem includes with ⟨index, found⟩
    exact Or.inr ⟨index, Nat.zero_le _, (List.getElem?_eq_some_iff.mp found).1, found⟩

/-- A writer formats a line. -/
theorem quiet_format (invariant : Invariant state) (snapshot : Bool) (count : Nat)
    (lines : List Line) :
    Quiet state (.format snapshot count lines)
      (.format snapshot count (lines ++ [state.line snapshot lines.length])) where
  held _ _ _ holds := by cases holds
  inside _ := rfl
  writes := iff_of_true (Option.some_ne_none _) (Option.some_ne_none _)
  keeps rule includes := by
    rcases includes with ⟨number, line, enough⟩ | ⟨index, after, before, found⟩
    · exact Or.inl ⟨number, List.mem_append_left _ line, enough⟩
    · by_cases here : index = lines.length
      · refine Or.inl ⟨(state.slots rule.slot).count, ?_, invariant.within rule.slot⟩
        refine List.mem_append_right _ (List.mem_singleton.mpr ?_)
        dsimp only [State.line]
        rw [← here, found]
        rfl
      · refine Or.inr ⟨index, ?_, before, found⟩
        rw [List.length_append, List.length_singleton]
        omega

/-- At most places, a thread has no choice. -/
theorem choice_eq_go {choice : Choice}
    (stepped : threadStep state pc choice = some (after, next))
    (notIdle : pc ≠ .idle) (notRequested : pc ≠ .requested) : choice = .go := by
  cases pc with
  | idle => exact absurd rfl notIdle
  | requested => exact absurd rfl notRequested
  | _ =>
      cases choice with
      | go => rfl
      | _ => cases stepped

/-- What a step of a thread keeps. -/
theorem invariant_threadStep {choice : Choice}
    (invariant : Invariant state)
    (current : ∀ snapshot, state.threads mover = .clear snapshot →
      ∀ rule ∈ state.rules, (state.slots rule.slot).requested ≠ 0 →
        rule ∈ state.snapshots snapshot)
    (stepped : threadStep state (state.threads mover) choice = some (after, next)) :
    Invariant { after with threads := Function.update state.threads mover next } := by
  have holds := invariant.held mover
  cases place : state.threads mover with
  | idle =>
      rw [place] at stepped
      cases choice with
      | hit rule =>
          dsimp only [threadStep] at stepped
          split at stepped
          · rename_i member
            cases stepped
            refine invariant.move (quiet_of_writes_eq_none (by rw [place]; rfl) rfl ?_
              (by intro inside; cases inside))
            intro slot generation number copy
            cases copy
            exact ⟨Nat.le_refl _, fun _ => ⟨⟨rule, member, rfl⟩, Nat.zero_le _⟩⟩
          · cases stepped
      | poll =>
          cases stepped
          refine invariant.move ?_
          rw [place]
          split <;> exact quiet_of_same rfl rfl rfl rfl
      | due now => cases stepped
      | go => cases stepped
  | matched slot generation =>
      rw [place] at stepped holds
      have good := holds slot generation 0 rfl
      cases choice_eq_go stepped nofun nofun
      dsimp only [threadStep] at stepped
      split at stepped
      · rename_i same
        cases stepped
        refine (@Invariant.count _ invariant slot
          { state.slots slot with count := (state.slots slot).count + 1 } rfl rfl
          (Nat.le_succ _)).move ?_
        dsimp only
        rw [place]
        refine quiet_of_writes_eq_none rfl rfl ?_ (by intro inside; cases inside)
        intro slot' generation' number copy
        cases copy
        refine ⟨?_, fun _ => ⟨(good.2 same.symm).1, ?_⟩⟩
        · dsimp only
          rw [Function.update_self]
          exact same.ge
        · dsimp only
          rw [Function.update_self]
      · cases stepped
        refine invariant.move ?_
        rw [place]
        exact quiet_of_same rfl rfl rfl rfl
  | counted slot generation number =>
      rw [place] at stepped holds
      have good := holds slot generation number rfl
      cases choice_eq_go stepped nofun nofun
      dsimp only [threadStep] at stepped
      split at stepped
      · rename_i pending
        cases stepped
        refine (invariant.request pending good).move ?_
        dsimp only
        rw [place]
        exact quiet_of_same rfl rfl rfl rfl
      · cases stepped
        refine invariant.move (quiet_of_writes_eq_none (by rw [place]; rfl) rfl ?_
          (by intro inside; cases inside))
        intro slot' generation' number' copy
        cases copy
        exact good
  | requesting slot generation number =>
      rw [place] at stepped holds
      have good := holds slot generation number rfl
      cases choice_eq_go stepped nofun nofun
      cases stepped
      refine (@Invariant.request _ slot generation number invariant.setPending rfl
        good).move ?_
      dsimp only
      rw [place]
      exact quiet_of_same rfl rfl rfl rfl
  | requested =>
      rw [place] at stepped
      cases choice with
      | due now =>
          cases stepped
          refine invariant.move ?_
          rw [place]
          split <;> exact quiet_of_same rfl rfl rfl rfl
      | hit rule => cases stepped
      | poll => cases stepped
      | go => cases stepped
  | acquire =>
      rw [place] at stepped
      cases choice_eq_go stepped nofun nofun
      dsimp only [threadStep] at stepped
      split at stepped
      · cases stepped
        refine invariant.move ?_
        rw [place]
        exact quiet_of_same rfl rfl rfl rfl
      · rename_i free
        cases stepped
        exact invariant.acquire (Bool.eq_false_iff.mpr free) place
  | sample =>
      rw [place] at stepped
      cases choice_eq_go stepped nofun nofun
      cases stepped
      refine invariant.move ?_
      rw [place]
      exact quiet_of_writes_eq_none rfl rfl (by intro _ _ _ copy; cases copy) fun _ => rfl
  | loop snapshot =>
      rw [place] at stepped
      cases choice_eq_go stepped nofun nofun
      cases stepped
      refine invariant.move ?_
      rw [place]
      split <;>
        exact quiet_of_writes_eq_none rfl rfl (by intro _ _ _ copy; cases copy) fun _ => rfl
  | clear snapshot =>
      rw [place] at stepped
      cases choice_eq_go stepped nofun nofun
      cases stepped
      exact invariant.clearPending place (current snapshot place)
  | begin snapshot =>
      rw [place] at stepped
      cases choice_eq_go stepped nofun nofun
      cases stepped
      refine invariant.move ?_
      rw [place]
      exact quiet_begin state snapshot
  | format snapshot count lines =>
      rw [place] at stepped
      cases choice_eq_go stepped nofun nofun
      dsimp only [threadStep] at stepped
      split at stepped
      · cases stepped
        refine invariant.move ?_
        rw [place]
        exact quiet_format invariant snapshot count lines
      · rename_i whole
        cases stepped
        exact invariant.finish place whole
  | release =>
      rw [place] at stepped
      cases choice_eq_go stepped nofun nofun
      cases stepped
      exact invariant.release place
  | recheck =>
      rw [place] at stepped
      cases choice_eq_go stepped nofun nofun
      cases stepped
      refine invariant.move ?_
      rw [place]
      split <;> exact quiet_of_same rfl rfl rfl rfl

/-! ## Reloads -/

/-- A writer sees its snapshot and the counts of a rule as before. -/
theorem WillInclude.frame {shared : State} {rule : Rule}
    (includes : WillInclude state rule pc)
    (same : ∀ snapshot, pc.writes = some snapshot →
      shared.snapshots snapshot = state.snapshots snapshot)
    (requested : (shared.slots rule.slot).requested = (state.slots rule.slot).requested) :
    WillInclude shared rule pc := by
  cases pc with
  | begin snapshot =>
      dsimp only [WillInclude] at includes ⊢
      rw [same snapshot rfl]
      exact includes
  | format snapshot count lines =>
      dsimp only [WillInclude] at includes ⊢
      rw [same snapshot rfl, requested]
      exact includes
  | _ => exact includes

theorem rules_rewrite (rules : List Rule) (slots : Nat → Slot) (reload : Reload) :
    State.rules
      { state with
        snapshots := Function.update state.snapshots (!state.active) rules
        slots := slots
        reload := reload } = state.rules :=
  Function.update_of_ne (Bool.self_ne_not _) _ _

/-- The snapshot that is not active is rewritten while nobody writes it out. -/
theorem Invariant.rewrite {rules : List Rule} {slots : Nat → Slot} {reload : Reload}
    (invariant : Invariant state)
    (unread : ∀ thread, (state.threads thread).writes ≠ some (!state.active))
    (within : ∀ slot, (slots slot).requested ≤ (slots slot).count)
    (generation : ∀ slot, (slots slot).generation = (state.slots slot).generation)
    (kept : ∀ rule ∈ state.rules, slots rule.slot = state.slots rule.slot)
    (filled : reload = .filled → ∀ rule ∈ rules,
      rule ∈ state.rules ∨
        (∀ other ∈ state.rules, other.slot ≠ rule.slot) ∧
          (slots rule.slot).requested = 0) :
    Invariant
      { state with
        snapshots := Function.update state.snapshots (!state.active) rules
        slots := slots
        reload := reload } := by
  have rewritten := @rules_rewrite state rules slots reload
  refine ⟨within, ?_, invariant.writing, invariant.single, ?_, ?_⟩
  · intro thread slot copied number holds
    have good := invariant.held thread slot copied number holds
    refine ⟨good.1.trans_eq (generation slot).symm, fun current => ?_⟩
    rcases good.2 (current.trans (generation slot)) with ⟨⟨rule, member, owns⟩, counted⟩
    refine ⟨⟨rule, by rw [rewritten]; exact member, owns⟩, ?_⟩
    have same := kept rule member
    rw [owns] at same
    exact counted.trans_eq (congrArg Slot.count same).symm
  · intro calm rule member hit
    rw [rewritten] at member
    have same := kept rule member
    have written := invariant.written calm rule member (same ▸ hit)
    constructor
    · intro thread writes
      refine (written.writer thread writes).frame ?_ (congrArg Slot.requested same)
      intro snapshot writing
      refine Function.update_of_ne ?_ _ _
      rintro rfl
      exact unread thread writing
    · intro nobody
      rcases written.file nobody with ⟨number, line, enough⟩
      exact ⟨number, line, (congrArg Slot.requested same).trans_le enough⟩
  · intro isFilled rule member
    dsimp only at member isFilled
    rw [Function.update_self] at member
    rw [rewritten]
    exact filled isFilled rule member

/-- `chaos_hits_assign` leaves the slots of the active rules alone. -/
theorem assigned_of_mem {rules : List Rule} {rule : Rule}
    (assigns : state.assigns rules = true) (member : rule ∈ state.rules) :
    state.assigned rules rule.slot = state.slots rule.slot := by
  refine if_neg fun fresh => ?_
  rcases List.any_eq_true.mp fresh with ⟨other, inside, same⟩
  rcases (Bool.and_eq_true _ _).mp same with ⟨slot, new⟩
  rcases (Bool.or_eq_true _ _).mp (List.all_eq_true.mp assigns other inside) with
    old | own
  · exact of_decide_eq_true new (of_decide_eq_true old)
  · have apart := List.all_eq_true.mp own rule member
    exact bne_iff_ne.mp apart (eq_of_beq slot).symm

theorem generation_assigned (rules : List Rule) (slot : Nat) :
    (state.assigned rules slot).generation = (state.slots slot).generation := by
  rw [State.assigned]
  split <;> rfl

theorem requested_le_count_assigned (invariant : Invariant state) (rules : List Rule)
    (slot : Nat) :
    (state.assigned rules slot).requested ≤ (state.assigned rules slot).count := by
  rw [State.assigned]
  split
  · exact Nat.le_refl _
  · exact invariant.within slot

/-- New rules begin at 0. -/
theorem assigned_of_notMem {rules : List Rule} {rule : Rule} (member : rule ∈ rules)
    (new : rule ∉ state.rules) :
    state.assigned rules rule.slot =
      { state.slots rule.slot with count := 0, requested := 0 } := by
  refine if_pos (List.any_eq_true.mpr ⟨rule, member, ?_⟩)
  rw [beq_self_eq_true, Bool.true_and]
  exact decide_eq_true new

/-- The next snapshot is filled. -/
theorem Invariant.fill {rules : List Rule} (invariant : Invariant state)
    (unread : ∀ thread, (state.threads thread).writes ≠ some (!state.active))
    (assigns : state.assigns rules = true) :
    Invariant
      { state with
        snapshots := Function.update state.snapshots (!state.active) rules
        slots := state.assigned rules
        reload := .filled } := by
  refine invariant.rewrite unread (requested_le_count_assigned invariant rules)
    (generation_assigned rules) (fun rule member => assigned_of_mem assigns member) ?_
  intro _ rule member
  by_cases old : rule ∈ state.rules
  · exact Or.inl old
  · refine Or.inr ⟨?_, congrArg Slot.requested (assigned_of_notMem member old)⟩
    rcases (Bool.or_eq_true _ _).mp (List.all_eq_true.mp assigns rule member) with
      before | own
    · exact absurd (of_decide_eq_true before) old
    · intro other inside same
      exact bne_iff_ne.mp (List.all_eq_true.mp own other inside) same

theorem requested_released (slot : Nat) :
    (state.released slot).requested = (state.slots slot).requested := by
  rw [State.released]
  split <;> rfl

theorem count_released (slot : Nat) :
    (state.released slot).count = (state.slots slot).count := by
  rw [State.released]
  split <;> rfl

theorem generation_le_released (slot : Nat) :
    (state.slots slot).generation ≤ (state.released slot).generation := by
  rw [State.released]
  split
  · exact Nat.le_succ _
  · exact Nat.le_refl _

/-- A slot that keeps its generation keeps a rule. -/
theorem exists_rule_of_generation_released {rule : Rule} (member : rule ∈ state.rules)
    (same : (state.released rule.slot).generation = (state.slots rule.slot).generation) :
    ∃ other ∈ state.snapshots (!state.active), other.slot = rule.slot := by
  by_contra nobody
  have leaves : ((state.rules.any fun other => other.slot == rule.slot) &&
      (state.snapshots (!state.active)).all fun other => other.slot != rule.slot) =
      true := by
    rw [Bool.and_eq_true, List.any_eq_true, List.all_eq_true]
    refine ⟨⟨rule, member, beq_self_eq_true _⟩, fun other inside => ?_⟩
    exact bne_iff_ne.mpr fun equal => nobody ⟨other, inside, equal⟩
  rw [State.released, if_pos leaves] at same
  exact absurd same (Nat.succ_ne_self _)

/-- The filled snapshot becomes the active one. -/
theorem Invariant.publish (invariant : Invariant state) (filled : state.reload = .filled) :
    Invariant
      { state with
        active := !state.active
        slots := state.released
        reload := .idle } := by
  refine ⟨?_, ?_, invariant.writing, invariant.single, ?_, nofun⟩
  · intro slot
    dsimp only
    rw [requested_released, count_released]
    exact invariant.within slot
  · intro thread slot copied number holds
    have good := invariant.held thread slot copied number holds
    refine ⟨good.1.trans (generation_le_released slot), fun current => ?_⟩
    have same : (state.released slot).generation = (state.slots slot).generation :=
      Nat.le_antisymm (current ▸ good.1) (generation_le_released slot)
    rcases good.2 (current.trans same) with ⟨⟨rule, member, rfl⟩, counted⟩
    exact ⟨exists_rule_of_generation_released member same,
      counted.trans_eq (count_released rule.slot).symm⟩
  · intro calm rule member hit
    dsimp only at hit calm
    rw [requested_released] at hit
    have before : rule ∈ state.rules := by
      rcases invariant.filled filled rule member with before | ⟨-, none⟩
      · exact before
      · exact absurd none hit
    have written := invariant.written calm rule before hit
    constructor
    · intro thread writes
      exact (written.writer thread writes).frame (fun _ _ => rfl)
        (requested_released rule.slot)
    · intro nobody
      rcases written.file nobody with ⟨number, line, enough⟩
      exact ⟨number, line, (requested_released rule.slot).trans_le enough⟩

/-! ## Runs -/

/-- What a step keeps. -/
theorem invariant_step {label : Label} (invariant : Invariant state)
    (current : Current state label) (stepped : step state label = some after) :
    Invariant after := by
  cases label with
  | thread mover choice =>
      rcases Option.map_eq_some_iff.mp stepped with ⟨⟨shared, next⟩, moves, rfl⟩
      exact invariant_threadStep invariant current moves
  | clearNext =>
      dsimp only [step] at stepped
      split at stepped
      · cases stepped
        exact invariant.rewrite current invariant.within (fun _ => rfl) (fun _ _ => rfl)
          nofun
      · cases stepped
  | fillNext rules =>
      dsimp only [step] at stepped
      split at stepped
      · rename_i enabled
        cases stepped
        exact invariant.fill current enabled.2
      · cases stepped
  | publish =>
      dsimp only [step] at stepped
      split at stepped
      · rename_i filled
        cases stepped
        exact invariant.publish filled
      · cases stepped

/-! ## Hits and their requests -/

/-- What a step of a thread does to the slots. -/
theorem threadStep_slots {choice : Choice}
    (stepped : threadStep state pc choice = some (after, next)) :
    (after.snapshots = state.snapshots ∧ after.active = state.active ∧
      after.reload = state.reload) ∧
    ((after.slots = state.slots ∧ (pc.asks = none ∨ next.asks = pc.asks)) ∨
      (∃ slot generation, pc = .matched slot generation ∧
        (state.slots slot).generation = generation ∧
        after.slots = Function.update state.slots slot
          { state.slots slot with count := (state.slots slot).count + 1 } ∧
        next = .counted slot generation ((state.slots slot).count + 1)) ∨
      ∃ slot generation number, pc.asks = some (slot, generation, number) ∧
        after.slots = state.request slot generation number) := by
  cases pc with
  | matched slot generation =>
      cases choice_eq_go stepped nofun nofun
      dsimp only [threadStep] at stepped
      split at stepped
      · rename_i same
        cases stepped
        exact ⟨⟨rfl, rfl, rfl⟩,
          Or.inr (Or.inl ⟨slot, generation, rfl, same, rfl, rfl⟩)⟩
      · cases stepped
        exact ⟨⟨rfl, rfl, rfl⟩, Or.inl ⟨rfl, Or.inl rfl⟩⟩
  | counted slot generation number =>
      cases choice_eq_go stepped nofun nofun
      dsimp only [threadStep] at stepped
      split at stepped
      · cases stepped
        exact ⟨⟨rfl, rfl, rfl⟩,
          Or.inr (Or.inr ⟨slot, generation, number, rfl, rfl⟩)⟩
      · cases stepped
        exact ⟨⟨rfl, rfl, rfl⟩, Or.inl ⟨rfl, Or.inr rfl⟩⟩
  | requesting slot generation number =>
      cases choice_eq_go stepped nofun nofun
      cases stepped
      exact ⟨⟨rfl, rfl, rfl⟩,
        Or.inr (Or.inr ⟨slot, generation, number, rfl, rfl⟩)⟩
  | _ =>
      -- The other places count nothing and request nothing.
      cases choice <;> dsimp only [threadStep] at stepped <;>
        first
        | (cases stepped; exact ⟨⟨rfl, rfl, rfl⟩, Or.inl ⟨rfl, Or.inl rfl⟩⟩)
        | cases stepped
        | (split at stepped <;> cases stepped <;>
            exact ⟨⟨rfl, rfl, rfl⟩, Or.inl ⟨rfl, Or.inl rfl⟩⟩)

/-- A hit of an active rule has been requested, or its thread has yet to request it. -/
structure Asked (state : State) : Prop where
  owed : ∀ rule ∈ state.rules, ∀ number,
    (state.slots rule.slot).requested < number →
      number ≤ (state.slots rule.slot).count →
        ∃ thread, (state.threads thread).asks =
          some (rule.slot, (state.slots rule.slot).generation, number)
  /-- New rules have no hits. -/
  fresh : state.reload = .filled → ∀ rule ∈ state.snapshots (!state.active),
    rule ∈ state.rules ∨ (state.slots rule.slot).count = 0

theorem asked_initial : Asked State.initial where
  owed _ member := by cases member
  fresh filled := by cases filled

/-- A thread that has not moved still has its request to make. -/
theorem exists_asks_of_ne {asked : Nat × Nat × Nat} {threads : Nat → Pc}
    (others : ∀ thread, thread ≠ mover → threads thread = state.threads thread)
    (owed : ∃ thread, (state.threads thread).asks = some asked)
    (mine : (state.threads mover).asks = some asked → (threads mover).asks = some asked) :
    ∃ thread, (threads thread).asks = some asked := by
  rcases owed with ⟨thread, asks⟩
  by_cases here : thread = mover
  · exact ⟨mover, mine (here ▸ asks)⟩
  · exact ⟨thread, by rw [others thread here]; exact asks⟩

/-- A copy of the present generation is not of a slot that only a new rule has. -/
theorem Invariant.slot_ne_of_filled {slot number : Nat} (invariant : Invariant state)
    (filled : state.reload = .filled)
    (good : HeldGood state slot (state.slots slot).generation number) {rule : Rule}
    (member : rule ∈ state.snapshots (!state.active)) (new : rule ∉ state.rules) :
    rule.slot ≠ slot := by
  intro same
  rcases (good.2 rfl).1 with ⟨other, inside, owns⟩
  rcases invariant.filled filled rule member with old | ⟨own, -⟩
  · exact new old
  · exact own other inside (owns.trans same.symm)

theorem Asked.threadStep {choice : Choice} (asked : Asked state)
    (invariant : Invariant state)
    (stepped : threadStep state (state.threads mover) choice = some (after, next)) :
    Asked { after with threads := Function.update state.threads mover next } := by
  rcases threadStep_slots stepped with ⟨⟨snapshots, active, reload⟩, moves⟩
  have rules : after.rules = state.rules := by
    rw [State.rules, snapshots, active]
    rfl
  have others : ∀ thread, thread ≠ mover →
      Function.update state.threads mover next thread = state.threads thread :=
    fun thread different => Function.update_of_ne different _ _
  rcases moves with ⟨slots, asks⟩ | ⟨slot, generation, place, same, slots, arrives⟩ |
    ⟨slot, generation, number, asks, slots⟩
  · constructor
    · intro rule member number more within
      change rule ∈ after.rules at member
      dsimp only at more within ⊢
      rw [rules] at member
      rw [slots] at more within ⊢
      refine exists_asks_of_ne others (asked.owed rule member number more within) ?_
      intro mine
      rw [Function.update_self]
      rcases asks with nothing | kept
      · rw [nothing] at mine
        cases mine
      · exact kept.trans mine
    · intro filled rule member
      change rule ∈ after.rules ∨ (after.slots rule.slot).count = 0
      dsimp only at filled member
      rw [reload] at filled
      rw [snapshots, active] at member
      rw [rules, slots]
      exact asked.fresh filled rule member
  · constructor
    · intro rule member number more within
      change rule ∈ after.rules at member
      dsimp only at more within ⊢
      rw [rules] at member
      rw [slots] at more within ⊢
      by_cases here : rule.slot = slot
      · subst here
        rw [Function.update_self] at more within ⊢
        dsimp only at more within ⊢
        rcases Nat.le_succ_iff.mp within with before | last
        · refine exists_asks_of_ne others (asked.owed rule member number more before) ?_
          intro mine
          rw [place] at mine
          cases mine
        · refine ⟨mover, ?_⟩
          rw [Function.update_self, arrives, same, last]
          rfl
      · rw [Function.update_of_ne here] at more within ⊢
        refine exists_asks_of_ne others (asked.owed rule member number more within) ?_
        intro mine
        rw [place] at mine
        cases mine
    · intro filled rule member
      change rule ∈ after.rules ∨ (after.slots rule.slot).count = 0
      dsimp only at filled member
      rw [reload] at filled
      rw [snapshots, active] at member
      rw [rules, slots]
      by_cases old : rule ∈ state.rules
      · exact Or.inl old
      · have good := invariant.held mover slot generation 0 (by rw [place]; rfl)
        rw [← same] at good
        rw [Function.update_of_ne (invariant.slot_ne_of_filled filled good member old)]
        exact asked.fresh filled rule member
  · constructor
    · intro rule member other more within
      change rule ∈ after.rules at member
      dsimp only at more within ⊢
      rw [rules] at member
      rw [slots] at more within ⊢
      rw [count_request] at within
      rw [generation_request]
      by_cases here : rule.slot = slot
      · subst here
        rw [State.request, Function.update_self, Slot.request] at more
        split at more
        · rename_i current
          dsimp only at more
          refine exists_asks_of_ne others (asked.owed rule member other
            (Nat.lt_of_le_of_lt (le_max_left _ _) more) within) ?_
          intro mine
          rw [asks] at mine
          cases mine
          exact absurd more (Nat.not_lt.mpr (le_max_right _ _))
        · rename_i left
          refine exists_asks_of_ne others (asked.owed rule member other more within) ?_
          intro mine
          rw [asks] at mine
          cases mine
          exact absurd rfl left
      · rw [State.request, Function.update_of_ne here] at more
        refine exists_asks_of_ne others (asked.owed rule member other more within) ?_
        intro mine
        rw [asks] at mine
        cases mine
        exact absurd rfl here
    · intro filled rule member
      change rule ∈ after.rules ∨ (after.slots rule.slot).count = 0
      dsimp only at filled member
      rw [reload] at filled
      rw [snapshots, active] at member
      rw [rules, slots, count_request]
      exact asked.fresh filled rule member

/-- The snapshot that is not active is rewritten. -/
theorem Asked.rewrite {rules : List Rule} {slots : Nat → Slot} {reload : Reload}
    (asked : Asked state)
    (kept : ∀ rule ∈ state.rules, slots rule.slot = state.slots rule.slot)
    (fresh : reload = .filled → ∀ rule ∈ rules,
      rule ∈ state.rules ∨ (slots rule.slot).count = 0) :
    Asked
      { state with
        snapshots := Function.update state.snapshots (!state.active) rules
        slots := slots
        reload := reload } := by
  constructor
  · intro rule member number more within
    rw [rules_rewrite] at member
    dsimp only at more within ⊢
    rw [kept rule member] at more within ⊢
    exact asked.owed rule member number more within
  · intro filled rule member
    dsimp only at member filled
    rw [Function.update_self] at member
    rw [rules_rewrite]
    exact fresh filled rule member

/-- The slot of a rule of the next snapshot keeps its generation. -/
theorem released_of_mem {rule : Rule} (member : rule ∈ state.snapshots (!state.active)) :
    state.released rule.slot = state.slots rule.slot := by
  refine if_neg fun leaves => ?_
  have away := List.all_eq_true.mp ((Bool.and_eq_true _ _).mp leaves).2 rule member
  exact bne_iff_ne.mp away rfl

theorem Asked.publish (asked : Asked state) (filled : state.reload = .filled) :
    Asked
      { state with
        active := !state.active
        slots := state.released
        reload := .idle } := by
  refine ⟨fun rule member number more within => ?_, nofun⟩
  change rule ∈ state.snapshots (!state.active) at member
  dsimp only at more within ⊢
  rw [released_of_mem member] at more within ⊢
  rcases asked.fresh filled rule member with old | none
  · exact asked.owed rule old number more within
  · rw [none] at within
    exact absurd (Nat.lt_of_lt_of_le more within) (Nat.not_lt_zero _)

theorem asked_step {label : Label} (asked : Asked state) (invariant : Invariant state)
    (stepped : step state label = some after) : Asked after := by
  cases label with
  | thread mover choice =>
      rcases Option.map_eq_some_iff.mp stepped with ⟨⟨shared, next⟩, moves, rfl⟩
      exact asked.threadStep invariant moves
  | clearNext =>
      dsimp only [step] at stepped
      split at stepped
      · cases stepped
        exact asked.rewrite (fun _ _ => rfl) nofun
      · cases stepped
  | fillNext rules =>
      dsimp only [step] at stepped
      split at stepped
      · rename_i enabled
        cases stepped
        refine asked.rewrite (fun rule member => assigned_of_mem enabled.2 member) ?_
        intro _ rule member
        by_cases old : rule ∈ state.rules
        · exact Or.inl old
        · exact Or.inr (congrArg Slot.count (assigned_of_notMem member old))
      · cases stepped
  | publish =>
      dsimp only [step] at stepped
      split at stepped
      · rename_i filled
        cases stepped
        exact asked.publish filled
      · cases stepped

/-- A hit is in the file, or its thread has yet to request its report. -/
theorem reported_of_invariant (invariant : Invariant state) (asked : Asked state) :
    Reported state := by
  intro free calm rule member number positive within
  by_cases requested : number ≤ (state.slots rule.slot).requested
  · have hit := Nat.pos_iff_ne_zero.mp (Nat.lt_of_lt_of_le positive requested)
    rcases invariant.included free calm member hit with ⟨count, line, enough⟩
    exact Or.inr ⟨count, line, requested.trans enough⟩
  · exact Or.inl (asked.owed rule member number (Nat.not_le.mp requested) within)

/--
In runs whose writers write out every rule that has been hit, no counted hit is missing
from the file whenever the writer flag and the pending flag are clear.
-/
theorem reported_throughout (labels : List Label)
    (conditions : Meets step Current State.initial labels) :
    Throughout step Reported State.initial labels := by
  have invariant := @throughout_of_meets _ _ step (fun _ => True) _
    (fun state => Invariant state ∧ Asked state)
    (fun state label after _ holds current stepped =>
      ⟨invariant_step holds.1 current stepped, asked_step holds.2 holds.1 stepped⟩)
    _ labels (fun _ _ => trivial) ⟨invariant_initial, asked_initial⟩ conditions
  intro before after middle split ran
  have holds := invariant before after middle split ran
  exact reported_of_invariant holds.1 holds.2

/-! ## A writer with an old snapshot -/

/-- A rule, and one that the second load adds. -/
def first : Rule := ⟨[byte 'a'], 0⟩

def second : Rule := ⟨[byte 'b'], 1⟩

/-- A reload. -/
def reloads (rules : List Rule) : List Label :=
  [.clearNext, .fillNext rules, .publish]

/-- A thread makes so many of its moves. -/
def goes (mover count : Nat) : List Label :=
  List.replicate count (.thread mover .go)

/-- A hit of the first rule whose report is due, up to the write of the file. -/
def hitWritten : List Label :=
  reloads [first] ++ [.thread 0 (.hit first)] ++ goes 0 3 ++
    [.thread 0 (.due true)] ++ goes 0 9

/-- The second rule is loaded and hit after the writer has chosen its snapshot. -/
def hitMissed : List Label :=
  reloads [first] ++ [.thread 0 (.hit first)] ++ goes 0 3 ++
    [.thread 0 (.due true)] ++ goes 0 2 ++ reloads [first, second] ++
    [.thread 1 (.hit second)] ++ goes 1 2 ++ [.thread 1 (.due false)] ++ goes 0 7

theorem reported_throughout_hitWritten :
    (run step State.initial hitWritten).isSome = true ∧
      Throughout step Reported State.initial hitWritten := by
  refine ⟨by decide +kernel, reported_throughout hitWritten ?_⟩
  -- Nobody writes during the reload.
  refine (meets_cons rfl).mpr ⟨fun _ => nofun, (meets_cons rfl).mpr ⟨fun _ => nofun, ?_⟩⟩
  refine (meets_cons rfl).mpr ⟨trivial, ?_⟩
  iterate 8 refine (meets_cons rfl).mpr ⟨nofun, ?_⟩
  -- The writer has sampled the active snapshot.
  refine (meets_cons rfl).mpr ⟨?_, ?_⟩
  · intro snapshot clear
    cases clear
    exact fun _ member _ => member
  · iterate 5 refine (meets_cons rfl).mpr ⟨nofun, ?_⟩
    trivial

theorem hitMissed_isSome : (run step State.initial hitMissed).isSome = true := by
  decide +kernel

/-- Both flags are clear, and the second rule is not in the file. -/
def State.afterMissed : State :=
  (run step State.initial hitMissed).get hitMissed_isSome

theorem hitMissed_not_reported :
    (run step State.initial hitMissed).isSome = true ∧
      ¬ Throughout step Reported State.initial hitMissed := by
  refine ⟨hitMissed_isSome, fun reported => ?_⟩
  have file : State.afterMissed.file = [some (first, 1)] := by decide +kernel
  have asks : ∀ thread, (State.afterMissed.threads thread).asks = none
    | 0 => by decide +kernel
    | 1 => by decide +kernel
    | _ + 2 => rfl
  have last : Reported State.afterMissed :=
    reported.final (Option.some_get hitMissed_isSome).symm
  rcases last (by decide +kernel) (by decide +kernel) second (by decide +kernel) 1
      Nat.one_pos (by decide +kernel) with ⟨thread, asking⟩ | ⟨count, line, -⟩
  · rw [asks] at asking
    cases asking
  · rw [file] at line
    cases List.mem_singleton.mp line

end ChaosLibs.Common.HitsReported
