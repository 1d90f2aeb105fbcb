import ChaosLibs.Common.SlotSharing

/-!
# Rules that survive reloads

A text that every published snapshot of a stretch of reloads contains keeps
its slot over the stretch, and the reloads of the stretch write no word of
that slot other than its `used` flag and its report hook.

A reload that would drop the text releases its slot before it publishes.  A
stretch therefore ends between reloads, so that every reload begun in it also
publishes in it.
-/

namespace ChaosLibs.Common.SlotContinuity

open ChaosLibs.Machine
open ChaosLibs.Common.CString
open ChaosLibs.Common.HitSlots
open ChaosLibs.Common.SlotMachine
open ChaosLibs.Common.SlotInvariant
open ChaosLibs.Common.SlotSharing

variable {limit : Nat}

/-! ## The slot of a text -/

/-- The slot of the first rule, in file order, with the text. -/
def firstSlot (rules : List (RuleCopy limit)) (text : Bytes) :
    Option (SlotId limit) :=
  (rules.find? fun rule => rule.text = text).bind RuleCopy.slot

/-- With every rule holding a slot, the assignment finds the first rule of a text. -/
theorem inheritedSlot_eq_firstSlot
    {rules : List (RuleCopy limit)} (separated : Separated (textSlots rules))
    (text : Bytes) :
    inheritedSlot (textSlots rules) text = firstSlot rules text := by
  induction rules with
  | nil => rfl
  | cons rule rest induction =>
      have restSeparated : Separated (textSlots rest) := by
        constructor
        · intro other member
          exact separated.held other (List.mem_cons_of_mem _ member)
        · intro left leftMember right rightMember
          exact separated.distinct left (List.mem_cons_of_mem _ leftMember)
            right (List.mem_cons_of_mem _ rightMember)
      have held : rule.slot ≠ none :=
        separated.held ⟨rule.text, rule.slot⟩ (by simp [textSlots])
      have later := induction restSeparated
      by_cases same : rule.text = text
      · rcases Option.ne_none_iff_exists'.mp held with ⟨slot, holds⟩
        simp [inheritedSlot, firstSlot, textSlots, same, holds]
      · simpa [inheritedSlot, firstSlot, textSlots, same] using later

theorem exists_firstSlot
    {rules : List (RuleCopy limit)} (separated : Separated (textSlots rules))
    {text : Bytes} (present : ∃ rule ∈ rules, rule.text = text) :
    ∃ slot, firstSlot rules text = some slot := by
  rcases present with ⟨rule, member, same⟩
  cases found : firstSlot rules text with
  | some slot => exact ⟨slot, rfl⟩
  | none =>
      rw [← inheritedSlot_eq_firstSlot separated] at found
      have textMember : (⟨rule.text, rule.slot⟩ : TextSlot limit) ∈
          textSlots rules :=
        List.mem_map.mpr ⟨rule, member, rfl⟩
      exact absurd same
        (separated.text_not_mem_of_inheritedSlot found textMember)

theorem holds_of_firstSlot
    {rules : List (RuleCopy limit)} {text : Bytes} {slot : SlotId limit}
    (found : firstSlot rules text = some slot) :
    Holds (textSlots rules) slot := by
  rcases Option.bind_eq_some_iff.mp found with ⟨rule, first, holds⟩
  exact holds_textSlots.mpr ⟨rule, List.mem_of_find?_eq_some first, holds⟩

/-- The snapshot built from the active one gives a kept text the same slot. -/
theorem firstSlot_of_derived
    {active next : List (RuleCopy limit)}
    (separated : Separated (textSlots active))
    (derived : Derived (textSlots active) (textSlots next))
    {text : Bytes} {slot : SlotId limit}
    (found : firstSlot active text = some slot)
    (present : ∃ rule ∈ next, rule.text = text) :
    firstSlot next text = some slot := by
  rcases exists_firstSlot (derived.separated separated) present with
    ⟨other, nextFound⟩
  rcases Option.bind_eq_some_iff.mp nextFound with ⟨rule, first, holds⟩
  have same : rule.text = text := by
    simpa using List.find?_some first
  have inherited : inheritedSlot (textSlots active) rule.text = some slot := by
    rw [inheritedSlot_eq_firstSlot separated, same]
    exact found
  have member : (⟨rule.text, rule.slot⟩ : TextSlot limit) ∈ textSlots next :=
    List.mem_map.mpr ⟨rule, List.mem_of_find?_eq_some first, rfl⟩
  have kept : rule.slot = some slot :=
    derived.inherits ⟨rule.text, rule.slot⟩ member slot inherited
  rw [nextFound, ← holds, kept]

/-! ## A reload past its assignment publishes what it built -/

/-- The snapshot a reload past its assignment is about to publish. -/
def upcoming : Owner limit → Option (List (RuleCopy limit))
  | .release _ _ next | .publish next => some next
  | _ => none

/-- A step within the process either keeps the upcoming snapshot or publishes it. -/
theorem upcoming_of_step
    {state next : State limit} {action : Action limit}
    {built : List (RuleCopy limit)}
    (stays : action.staysInProcess) (stepped : step state action = some next)
    (coming : upcoming state.owner = some built) :
    upcoming next.owner = some built ∨ next.active = built := by
  cases action with
  | reload outcome =>
      obtain ⟨between, -⟩ := reload_cases stepped
      simp [upcoming, between] at coming
  | owner =>
      cases ownerStep_cases stepped with
      | attach rules phase => simp [upcoming, phase] at coming
      | capture other freeSlot stage phase => simp [upcoming, phase] at coming
      | assign rule rest other freeSlot stage phase => simp [upcoming, phase] at coming
      | release slot dropped other phase =>
          simp only [upcoming, phase, Option.some.injEq] at coming
          subst coming
          left
          unfold releaseStep
          split
          · rfl
          · split <;> rfl
      | released index dropped other phase past =>
          simp only [upcoming, phase, Option.some.injEq] at coming
          exact Or.inl (congrArg some coming)
      | publish other phase =>
          simp only [upcoming, phase, Option.some.injEq] at coming
          exact Or.inr coming
  | fire thread copy =>
      obtain ⟨-, -, rfl⟩ := fire_cases stepped
      exact Or.inl coming
  | thread thread =>
      rw [(ownershipKept_fireStep stepped).owner]
      exact Or.inl coming
  | fork => exact stays.elim

/-- A run that ends between reloads passes through the upcoming snapshot. -/
theorem published_of_upcoming
    {state final : State limit} {labels : List (Action limit)}
    {built : List (RuleCopy limit)}
    (within : ∀ label ∈ labels, label.staysInProcess)
    (coming : upcoming state.owner = some built)
    (ran : run step state labels = some final)
    (between : final.owner = .idle) :
    ∃ before after middle, labels = before ++ after ∧
      run step state before = some middle ∧ middle.active = built := by
  induction labels generalizing state with
  | nil =>
      simp only [run_nil, Option.some.injEq] at ran
      subst ran
      simp [upcoming, between] at coming
  | cons action rest induction =>
      rcases run_cons_eq_some.mp ran with ⟨next, stepped, tail⟩
      have restWithin : ∀ label ∈ rest, label.staysInProcess :=
        fun label member => within label (List.mem_cons_of_mem _ member)
      rcases upcoming_of_step (within action List.mem_cons_self) stepped coming
        with stillComing | published
      · rcases induction restWithin stillComing tail with
          ⟨before, after, middle, split, reached, active⟩
        exact ⟨action :: before, after, middle, by simp [split],
          run_cons_eq_some.mpr ⟨next, stepped, reached⟩, active⟩
      · exact ⟨[action], rest, next, rfl,
          run_cons_eq_some.mpr ⟨next, stepped, rfl⟩, published⟩

/-! ## What a reload writes into a kept slot -/

/-- Count, claim word, effect state and generation are unchanged. -/
structure SlotWordsKept
    (before after : State limit) (slot : SlotId limit) : Prop where
  count : (after.pool slot).count = (before.pool slot).count
  claimed : (after.pool slot).claimed = (before.pool slot).claimed
  state : (after.pool slot).state = (before.pool slot).state
  generation : (after.pool slot).generation = (before.pool slot).generation

theorem slotWordsKept_of_pool_eq
    {before after : State limit} (same : after.pool = before.pool)
    (slot : SlotId limit) : SlotWordsKept before after slot := by
  constructor <;> rw [same]

theorem slotWordsKept_store
    {before after : State limit} (store : SlotStore limit)
    (same : after.pool = store.apply before.pool) {slot : SlotId limit}
    (notCount : store ≠ .clearCount slot) (notClaims : store ≠ .tagClaims slot)
    (notState : store ≠ .clearState slot) (notBump : store ≠ .bump slot) :
    SlotWordsKept before after slot := by
  constructor <;> rw [same]
  · simp [count_apply, notCount]
  · simp [claimed_apply, notClaims]
  · simp [state_apply, notState]
  · simp [generation_apply, notBump]

theorem slotWordsKept_assignStep
    {state : State limit} (ok : Invariant state)
    {rule : HitRule} {todo : List HitRule} {built : List (Assigned limit)}
    {freeSlot : Nat} {stage : AssignStage limit}
    (phase : state.owner = .assign (rule :: todo) built freeSlot stage)
    {slot : SlotId limit} (held : Holds (textSlots state.active) slot) :
    SlotWordsKept state (assignStep state rule todo built freeSlot stage) slot := by
  have assignOk := ok.ownerOk
  simp only [OwnerOk, phase] at assignOk
  have used : (state.pool slot).used = true :=
    (assignOk.used slot).mpr (Or.inl held)
  have stageOk := assignOk.stageOk rule (by simp)
  -- the words of a slot are cleared only while it is unused
  have apart : ∀ other, (state.pool other).used = false → other ≠ slot := by
    rintro other unused rfl
    simp [used] at unused
  cases stage with
  | pick =>
      refine slotWordsKept_of_pool_eq ?_ slot
      simp only [assignStep]
      split
      · rfl
      · split <;> rfl
  | clearCount other =>
      refine slotWordsKept_store (.clearCount other) rfl ?_ ?_ ?_ ?_
      · simpa using apart other stageOk.2
      all_goals simp
  | tagClaims other =>
      refine slotWordsKept_store (.tagClaims other) rfl ?_ ?_ ?_ ?_
      rotate_left
      · simpa using apart other stageOk.2
      all_goals simp
  | clearState other =>
      refine slotWordsKept_store (.clearState other) rfl ?_ ?_ ?_ ?_
      rotate_left 2
      · simpa using apart other stageOk.2
      all_goals simp
  | hold other =>
      exact slotWordsKept_store (.hold other) rfl
        (by simp) (by simp) (by simp) (by simp)
  | hook other =>
      exact slotWordsKept_store (.hook other) rfl
        (by simp) (by simp) (by simp) (by simp)

theorem slotWordsKept_releaseStep
    {state : State limit} (ok : Invariant state)
    {index : SlotId limit} {dropped : Bool} {next : List (RuleCopy limit)}
    (phase : state.owner = .release index.val dropped next)
    {slot : SlotId limit} (kept : Holds (textSlots next) slot) :
    SlotWordsKept state (releaseStep state index dropped next) slot := by
  have releaseOk := ok.ownerOk
  simp only [OwnerOk, phase] at releaseOk
  unfold releaseStep
  cases dropped with
  | true =>
      have apart : index ≠ slot := by
        rintro rfl
        have here := releaseOk.here index rfl
        simp only [if_true] at here
        exact here.2 kept
      exact slotWordsKept_store (.bump index) rfl
        (by simp) (by simp) (by simp) (by simpa using apart)
  | false =>
      simp only [Bool.false_eq_true, if_false]
      split
      · exact slotWordsKept_store (.drop index) rfl
          (by simp) (by simp) (by simp) (by simp)
      · constructor <;> rfl

/-- The steps of the reload owner, and the claim that starts a reload. -/
def Action.isReload : Action limit → Prop
  | .reload _ | .owner => True
  | _ => False

theorem slotWordsKept_of_step
    {state next : State limit} {action : Action limit} (ok : Invariant state)
    (reload : Action.isReload action) (stepped : step state action = some next)
    {slot : SlotId limit} (held : Holds (textSlots state.active) slot)
    (kept : ∀ built, upcoming state.owner = some built →
      Holds (textSlots built) slot) :
    SlotWordsKept state next slot := by
  cases action with
  | reload outcome =>
      refine slotWordsKept_of_pool_eq ?_ slot
      obtain ⟨-, ⟨rules, -, rfl⟩ | rfl⟩ := reload_cases stepped
      · rfl
      · rfl
  | owner =>
      cases ownerStep_cases stepped with
      | attach | capture | released | publish =>
          exact slotWordsKept_of_pool_eq (by rfl) slot
      | assign rule rest built freeSlot stage phase =>
          exact slotWordsKept_assignStep ok phase held
      | release index dropped built phase =>
          have keptHere : Holds (textSlots built) slot :=
            kept built (by simp [upcoming, phase])
          exact slotWordsKept_releaseStep ok phase keptHere
  | fire thread copy => exact reload.elim
  | thread thread => exact reload.elim
  | fork => exact reload.elim

/-! ## Stretches of reloads -/

/-- The first rule of the text is active and holds the slot. -/
structure Continues
    (text : Bytes) (slot : SlotId limit) (state : State limit) : Prop where
  ok : Invariant state
  found : firstSlot state.active text = some slot

theorem Continues.advance
    {text : Bytes} {slot : SlotId limit} {state next : State limit}
    {action : Action limit} (continues : Continues text slot state)
    (stays : action.staysInProcess) (stepped : step state action = some next)
    (present : ∃ rule ∈ next.active, rule.text = text) :
    Continues text slot next := by
  have nextOk : Invariant next := by
    refine invariant_step continues.ok ?_ stepped
    rintro rfl
    exact stays.elim
  refine ⟨nextOk, ?_⟩
  by_cases publishes : action = .owner ∧ ∃ built, state.owner = .publish built
  · rcases publishes with ⟨rfl, built, phase⟩
    have ownerOk := continues.ok.ownerOk
    simp only [OwnerOk, phase] at ownerOk
    simp only [step, ownerStep, phase, Option.some.injEq] at stepped
    subst stepped
    exact firstSlot_of_derived continues.ok.separated ownerOk.2.1
      continues.found present
  · have same : next.active = state.active := by
      refine active_of_step stepped ?_
      intro owner built phase
      exact publishes ⟨owner, built, phase⟩
    rw [same]
    exact continues.found

/-- A reload that publishes within the stretch keeps the slot of the text. -/
theorem Continues.upcoming_holds
    {text : Bytes} {slot : SlotId limit} {state final : State limit}
    {labels : List (Action limit)} (continues : Continues text slot state)
    (within : ∀ label ∈ labels, label.staysInProcess)
    (ran : run step state labels = some final) (between : final.owner = .idle)
    (present :
      Throughout step (fun middle => ∃ rule ∈ middle.active, rule.text = text)
        state labels)
    {built : List (RuleCopy limit)} (coming : upcoming state.owner = some built) :
    Holds (textSlots built) slot := by
  rcases published_of_upcoming within coming ran between with
    ⟨before, after, middle, split, reached, published⟩
  have textPresent : ∃ rule ∈ built, rule.text = text :=
    published ▸ present before after middle split reached
  have derived : Derived (textSlots state.active) (textSlots built) := by
    have ownerOk := continues.ok.ownerOk
    cases phase : state.owner with
    | idle => simp [upcoming, phase] at coming
    | attach rules => simp [upcoming, phase] at coming
    | assign todo other freeSlot stage => simp [upcoming, phase] at coming
    | release index dropped other =>
        simp only [upcoming, phase, Option.some.injEq] at coming
        simp only [OwnerOk, phase, coming] at ownerOk
        exact ownerOk.derived
    | publish other =>
        simp only [upcoming, phase, Option.some.injEq] at coming
        simp only [OwnerOk, phase, coming] at ownerOk
        exact ownerOk.2.1
  exact holds_of_firstSlot
    (firstSlot_of_derived continues.ok.separated derived continues.found
      textPresent)

/--
Over a stretch of reloads, published or not, whose published snapshots all
contain a text, the first rule of the text holds one slot, and no reload of
the stretch changes the slot's count, claim word, effect state or generation.
-/
theorem surviving_rule_keeps_slot
    (earlier stretch : List (Action limit)) (start final : State limit)
    (earlierWithin : ∀ label ∈ earlier, label.staysInProcess)
    (within : ∀ label ∈ stretch, label.staysInProcess)
    (reached : run step (initial limit) earlier = some start)
    (ran : run step start stretch = some final)
    (finalBetween : final.owner = .idle) (text : Bytes)
    (present :
      Throughout step (fun middle => ∃ rule ∈ middle.active, rule.text = text)
        start stretch) :
    ∃ slot,
      Throughout step (fun middle => firstSlot middle.active text = some slot)
        start stretch ∧
      ∀ before action after middle next,
        stretch = before ++ action :: after →
        run step start before = some middle →
        step middle action = some next →
        Action.isReload action →
        SlotWordsKept middle next slot := by
  have startOk : Invariant start :=
    invariant_of_noFork (invariant_initial limit) earlierWithin reached
  rcases exists_firstSlot startOk.separated present.head with ⟨slot, found⟩
  have continues : ∀ before after middle, stretch = before ++ after →
      run step start before = some middle →
        Continues text slot middle := by
    intro before
    induction before using List.reverseRecOn with
    | nil =>
        intro after middle _ reachedMiddle
        simp only [run_nil, Option.some.injEq] at reachedMiddle
        exact reachedMiddle ▸ ⟨startOk, found⟩
    | append_singleton before action induction =>
        intro after middle split reachedMiddle
        rcases run_concat_eq_some.mp reachedMiddle with
          ⟨previous, reachedPrevious, stepped⟩
        have stays : action.staysInProcess := within action (by simp [split])
        exact (induction (action :: after) previous (by simp [split])
          reachedPrevious).advance stays stepped
            (present _ after middle split reachedMiddle)
  refine ⟨slot, ?_, ?_⟩
  · intro before after middle split reachedMiddle
    exact (continues before after middle split reachedMiddle).found
  · intro before action after middle next split reachedMiddle stepped reload
    have here := continues before (action :: after) middle split reachedMiddle
    refine slotWordsKept_of_step here.ok reload stepped
      (holds_of_firstSlot here.found) ?_
    intro built coming
    rw [split] at ran
    rcases run_append_eq_some.mp ran with ⟨other, reachedOther, tail⟩
    rw [reachedMiddle, Option.some.injEq] at reachedOther
    subst reachedOther
    refine here.upcoming_holds ?_ tail finalBetween ?_ coming
    · intro label member
      exact within label (by simp only [split, List.mem_append]; exact Or.inr member)
    · intro first rest other splitRest reachedRest
      refine present (before ++ first) rest other ?_ ?_
      · rw [split, splitRest, List.append_assoc]
      · exact run_append_eq_some.mpr ⟨middle, reachedMiddle, reachedRest⟩

/-- A file with one rule is loaded. -/
def firstLoad : List (Action 2) :=
  .reload (.accepted ⟨[⟨bytes "/a:open:EIO:1.0", 0⟩], by decide⟩) ::
    List.replicate 14 .owner

/-- A rule is put before it, a reload fails, and the new rule goes again. -/
def laterLoads : List (Action 2) :=
  .reload
      (.accepted
        ⟨[⟨bytes "/b:open:EIO:1.0", 0⟩, ⟨bytes "/a:open:EIO:1.0", 0⟩],
          by decide⟩) ::
    List.replicate 17 .owner ++
  .reload .failed ::
  .reload (.accepted ⟨[⟨bytes "/a:open:EIO:1.0", 0⟩], by decide⟩) ::
    List.replicate 12 .owner

theorem firstLoad_runs : (run step (initial 2) firstLoad).isSome = true := by
  decide +kernel

/-- The process after the first load. -/
def loadedOnce : State 2 :=
  (run step (initial 2) firstLoad).get firstLoad_runs

theorem laterLoads_run : (run step loadedOnce laterLoads).isSome = true := by
  decide +kernel

theorem surviving_rule_keeps_slot_laterLoads :
    ∃ slot,
      Throughout step
        (fun middle =>
          firstSlot middle.active (bytes "/a:open:EIO:1.0") = some slot)
        loadedOnce laterLoads := by
  rcases surviving_rule_keeps_slot firstLoad laterLoads loadedOnce
      ((run step loadedOnce laterLoads).get laterLoads_run)
      (by decide +kernel) (by decide +kernel) (Option.some_get _).symm
      (Option.some_get _).symm (by decide +kernel)
      (bytes "/a:open:EIO:1.0") (by decide +kernel) with
    ⟨slot, throughout, -⟩
  exact ⟨slot, throughout⟩

end ChaosLibs.Common.SlotContinuity
