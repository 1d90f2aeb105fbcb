import ChaosLibs.Common.SlotMachine
import Mathlib.Data.List.Pairwise
import Mathlib.Tactic.Push

/-!
# Ownership of hit slots

The structural invariant of the slot machine: which slots are marked used at
every store of a reload, and how the rules of the snapshot being built relate
to the rules of the active one.  Threads inside `chaos_policy_fire` write no
word the invariant reads, so it is proved for the reload owner's steps and
carried over every interleaving.

The invariant survives a fork under one condition, `ForkSafe`: the reload the
fork interrupts has not yet released a slot of the still active snapshot.
-/

namespace ChaosLibs.Common.SlotInvariant

open ChaosLibs.Common.CString
open ChaosLibs.Common.HitSlots
open ChaosLibs.Common.SlotMachine

variable {limit : Nat}

/-! ## Slots held by a list of rules -/

/-- Some rule of the list holds the slot. -/
def Holds (rules : List (TextSlot limit)) (slot : SlotId limit) : Prop :=
  some slot ∈ hits rules

theorem holds_iff {rules : List (TextSlot limit)} {slot : SlotId limit} :
    Holds rules slot ↔ ∃ rule ∈ rules, rule.slot = some slot := by
  simp [Holds, hits]

@[simp]
theorem not_holds_nil (slot : SlotId limit) :
    ¬ Holds ([] : List (TextSlot limit)) slot := by
  simp [Holds, hits]

@[simp]
theorem holds_append
    {left right : List (TextSlot limit)} {slot : SlotId limit} :
    Holds (left ++ right) slot ↔ Holds left slot ∨ Holds right slot := by
  simp [Holds, hits]

@[simp]
theorem holds_singleton
    {text : Bytes} {held : Option (SlotId limit)} {slot : SlotId limit} :
    Holds [⟨text, held⟩] slot ↔ held = some slot := by
  simp [Holds, hits, eq_comm]

/--
Fewer rules than slots leave a slot that no rule holds; with every used slot
held by one of two snapshots of at most `limit` rules, the pool is not
exhausted.
-/
theorem exists_not_holds
    {rules : List (TextSlot limit)} (few : rules.length < 2 * limit) :
    ∃ slot, ¬ Holds rules slot := by
  by_contra! all
  have cover :
      (Finset.univ : Finset (SlotId limit)).image some ⊆
        (hits rules).toFinset := by
    intro slot member
    rcases Finset.mem_image.mp member with ⟨index, -, rfl⟩
    exact List.mem_toFinset.mpr (all index)
  have size := Finset.card_le_card cover
  rw [Finset.card_image_of_injective _ (Option.some_injective _),
    Finset.card_univ, Fintype.card_fin] at size
  have bound := (hits rules).toFinset_card_le
  simp only [hits, List.length_map] at bound size
  omega

/--
Every rule holds a slot, and rules with different texts hold different ones.
-/
structure Separated (rules : List (TextSlot limit)) : Prop where
  held : ∀ rule ∈ rules, rule.slot ≠ none
  distinct : ∀ left ∈ rules, ∀ right ∈ rules,
    left.text ≠ right.text → left.slot ≠ right.slot

theorem Separated.text_not_mem_of_inheritedSlot
    {active : List (TextSlot limit)} (separated : Separated active)
    {text : Bytes} (missing : inheritedSlot active text = none)
    {rule : TextSlot limit} (member : rule ∈ active) :
    rule.text ≠ text := by
  intro same
  exact separated.held rule member
    (slot_eq_none_of_inheritedSlot missing member same)

/--
How the rules built so far stand to the active snapshot: a rule whose text is
active has its first slot; any other rule has a slot that no active rule and
no other rule built so far holds.
-/
structure Derived (active built : List (TextSlot limit)) : Prop where
  inherits : ∀ rule ∈ built, ∀ slot,
    inheritedSlot active rule.text = some slot → rule.slot = some slot
  fresh : ∀ rule ∈ built, inheritedSlot active rule.text = none →
    ∃ slot, rule.slot = some slot ∧ ¬ Holds active slot
  apart : built.Pairwise fun left right =>
    inheritedSlot active left.text = none →
      inheritedSlot active right.text = none → left.slot ≠ right.slot

theorem derived_nil (active : List (TextSlot limit)) :
    Derived active [] := by
  constructor <;> simp

/-- A rule with an active text joins with the slot it inherits. -/
theorem Derived.append_inherited
    {active built : List (TextSlot limit)} (derived : Derived active built)
    {text : Bytes} {slot : SlotId limit}
    (found : inheritedSlot active text = some slot) :
    Derived active (built ++ [⟨text, some slot⟩]) where
  inherits := by
    intro rule member other inherited
    rcases List.mem_append.mp member with earlier | last
    · exact derived.inherits rule earlier other inherited
    · rw [List.mem_singleton] at last
      subst last
      rw [found] at inherited
      exact inherited
  fresh := by
    intro rule member missing
    rcases List.mem_append.mp member with earlier | last
    · exact derived.fresh rule earlier missing
    · rw [List.mem_singleton] at last
      subst last
      simp [found] at missing
  apart := by
    rw [List.pairwise_append]
    refine ⟨derived.apart, by simp, ?_⟩
    intro left _ right last _ missing
    rw [List.mem_singleton] at last
    subst last
    simp [found] at missing

/-- A rule with a new text joins with a slot nobody holds. -/
theorem Derived.append_fresh
    {active built : List (TextSlot limit)} (derived : Derived active built)
    {text : Bytes} {slot : SlotId limit}
    (missing : inheritedSlot active text = none)
    (notActive : ¬ Holds active slot) (notBuilt : ¬ Holds built slot) :
    Derived active (built ++ [⟨text, some slot⟩]) where
  inherits := by
    intro rule member other inherited
    rcases List.mem_append.mp member with earlier | last
    · exact derived.inherits rule earlier other inherited
    · rw [List.mem_singleton] at last
      subst last
      simp [missing] at inherited
  fresh := by
    intro rule member ruleMissing
    rcases List.mem_append.mp member with earlier | last
    · exact derived.fresh rule earlier ruleMissing
    · rw [List.mem_singleton] at last
      subst last
      exact ⟨slot, rfl, notActive⟩
  apart := by
    rw [List.pairwise_append]
    refine ⟨derived.apart, by simp, ?_⟩
    intro left member right last _ _ same
    rw [List.mem_singleton] at last
    subst last
    exact notBuilt (holds_iff.mpr ⟨left, member, same⟩)

/-- The rules of the new snapshot are as well separated as the active ones. -/
theorem Derived.separated
    {active built : List (TextSlot limit)} (derived : Derived active built)
    (separated : Separated active) : Separated built where
  held := by
    intro rule member
    cases found : inheritedSlot active rule.text with
    | some slot => simp [derived.inherits rule member slot found]
    | none =>
        rcases derived.fresh rule member found with ⟨slot, holds, -⟩
        simp [holds]
  distinct := by
    intro left leftMember right rightMember texts
    cases leftFound : inheritedSlot active left.text with
    | some leftSlot =>
        have leftHolds := derived.inherits left leftMember leftSlot leftFound
        rcases exists_of_inheritedSlot leftFound with
          ⟨leftOld, leftOldMember, leftText, leftOldSlot⟩
        cases rightFound : inheritedSlot active right.text with
        | some rightSlot =>
            have rightHolds :=
              derived.inherits right rightMember rightSlot rightFound
            rcases exists_of_inheritedSlot rightFound with
              ⟨rightOld, rightOldMember, rightText, rightOldSlot⟩
            have oldSlots :=
              separated.distinct leftOld leftOldMember rightOld rightOldMember
                (by rw [leftText, rightText]; exact texts)
            rwa [leftHolds, rightHolds, ← leftOldSlot, ← rightOldSlot]
        | none =>
            rcases derived.fresh right rightMember rightFound with
              ⟨rightSlot, rightHolds, notActive⟩
            intro same
            rw [leftHolds, rightHolds, Option.some.injEq] at same
            exact notActive
              (holds_iff.mpr ⟨leftOld, leftOldMember, same ▸ leftOldSlot⟩)
    | none =>
        rcases derived.fresh left leftMember leftFound with
          ⟨leftSlot, leftHolds, notActive⟩
        cases rightFound : inheritedSlot active right.text with
        | some rightSlot =>
            have rightHolds :=
              derived.inherits right rightMember rightSlot rightFound
            rcases exists_of_inheritedSlot rightFound with
              ⟨rightOld, rightOldMember, rightText, rightOldSlot⟩
            intro same
            rw [leftHolds, rightHolds, Option.some.injEq] at same
            exact notActive
              (holds_iff.mpr ⟨rightOld, rightOldMember, same ▸ rightOldSlot⟩)
        | none =>
            have symmetric : Std.Symm fun left right : TextSlot limit =>
                inheritedSlot active left.text = none →
                  inheritedSlot active right.text = none →
                    left.slot ≠ right.slot :=
              ⟨fun first second differ secondNone firstNone same =>
                differ firstNone secondNone same.symm⟩
            have different : left ≠ right := fun same => texts (same ▸ rfl)
            exact derived.apart.forall leftMember rightMember different
              leftFound rightFound

/-! ## The invariant, phase by phase -/

/-- The rules built so far as texts and slots. -/
def builtSlots (built : List (Assigned limit)) : List (TextSlot limit) :=
  built.map fun entry => ⟨entry.rule.text, entry.slot⟩

@[simp]
theorem textSlots_capture (pool : Pool limit) (built : List (Assigned limit)) :
    textSlots (capture pool built) = builtSlots built := by
  simp [textSlots, capture, builtSlots, Function.comp_def]

/-- What the owner knows of the slot it is about to store into. -/
def StageOk
    (pool : Pool limit) (active built : List (TextSlot limit)) (text : Bytes) :
    AssignStage limit → Prop
  | .pick => True
  | .clearCount slot | .tagClaims slot | .clearState slot =>
      inheritedSlot active text = none ∧ (pool slot).used = false
  | .hold slot =>
      inheritedSlot active text = some slot ∨
        inheritedSlot active text = none ∧ (pool slot).used = false
  | .hook slot =>
      inheritedSlot active text = some slot ∨
        inheritedSlot active text = none ∧
          ¬ Holds active slot ∧ ¬ Holds built slot

/-- The assignment loop between two stores. -/
structure AssignOk
    (pool : Pool limit) (poolUsed : Bool) (active : List (TextSlot limit))
    (todo : List HitRule) (built : List (TextSlot limit)) (freeSlot : Nat)
    (stage : AssignStage limit) : Prop where
  bounded : built.length + todo.length ≤ limit
  derived : Derived active built
  used : ∀ slot, (pool slot).used = true ↔
    Holds active slot ∨ Holds built slot ∨ stage = .hook slot
  passed : ∀ slot : SlotId limit, slot.val < freeSlot → (pool slot).used = true
  marked : todo ≠ [] → poolUsed = true
  stageOk : ∀ rule ∈ todo.head?, StageOk pool active built rule.text stage
  ended : todo = [] → stage = .pick

/-- The release loop: slots below `index` are settled, the others still kept. -/
structure ReleaseOk
    (pool : Pool limit) (active next : List (TextSlot limit))
    (index : Nat) (dropped : Bool) : Prop where
  bounded : next.length ≤ limit
  derived : Derived active next
  settled : ∀ slot : SlotId limit, slot.val < index →
    ((pool slot).used = true ↔ Holds next slot)
  pending : ∀ slot : SlotId limit, index < slot.val →
    ((pool slot).used = true ↔ Holds active slot ∨ Holds next slot)
  here : ∀ slot : SlotId limit, slot.val = index →
    if dropped then (pool slot).used = false ∧ ¬ Holds next slot
    else ((pool slot).used = true ↔ Holds active slot ∨ Holds next slot)

/-- Used slots are exactly the held ones at every stop of the reload owner. -/
def OwnerOk (state : State limit) : Prop :=
  match state.owner with
  | .idle =>
      ∀ slot, (state.pool slot).used = true ↔
        Holds (textSlots state.active) slot
  | .attach rules =>
      rules.length ≤ limit ∧
        ∀ slot, (state.pool slot).used = true ↔
          Holds (textSlots state.active) slot
  | .assign todo built freeSlot stage =>
      AssignOk state.pool state.poolUsed (textSlots state.active) todo
        (builtSlots built) freeSlot stage
  | .release index dropped next =>
      ReleaseOk state.pool (textSlots state.active) (textSlots next)
        index dropped
  | .publish next =>
      next.length ≤ limit ∧
        Derived (textSlots state.active) (textSlots next) ∧
        ∀ slot, (state.pool slot).used = true ↔ Holds (textSlots next) slot

/-- The structural invariant of the slot machine. -/
structure Invariant (state : State limit) : Prop where
  bounded : state.active.length ≤ limit
  separated : Separated (textSlots state.active)
  marked : ∀ slot, (state.pool slot).used = true → state.poolUsed = true
  ownerOk : OwnerOk state

theorem invariant_initial (limit : Nat) : Invariant (initial limit) where
  bounded := by simp [initial]
  separated := by
    constructor <;> simp [initial, textSlots]
  marked := by
    intro slot
    simp [initial, chaosHitsPoolReset, HitSlot.reset]
  ownerOk := by
    intro slot
    simp [initial, textSlots, chaosHitsPoolReset, HitSlot.reset]

/-! ## Steps of the assignment loop -/

section AssignSteps

variable
    {pool : Pool limit} {poolUsed : Bool} {active : List (TextSlot limit)}
    {rule : HitRule} {todo : List HitRule} {built : List (TextSlot limit)}
    {freeSlot : Nat} {slot : SlotId limit}

theorem AssignOk.pick_inherited
    (ok : AssignOk pool poolUsed active (rule :: todo) built freeSlot .pick)
    (found : inheritedSlot active rule.text = some slot) :
    AssignOk pool poolUsed active (rule :: todo) built freeSlot
      (.hold slot) where
  bounded := ok.bounded
  derived := ok.derived
  used := by simpa using ok.used
  passed := ok.passed
  marked := ok.marked
  stageOk := by simp [StageOk, found]
  ended := by simp

theorem AssignOk.pick_fresh
    (ok : AssignOk pool poolUsed active (rule :: todo) built freeSlot .pick)
    (missing : inheritedSlot active rule.text = none)
    (found : nextFreeSlot pool freeSlot = some slot) :
    AssignOk pool poolUsed active (rule :: todo) built slot.val
      (.clearCount slot) where
  bounded := ok.bounded
  derived := ok.derived
  used := by simpa using ok.used
  passed := by
    intro other before
    by_cases earlier : other.val < freeSlot
    · exact ok.passed other earlier
    · exact used_of_lt_nextFreeSlot found (not_lt.mp earlier) before
  marked := ok.marked
  stageOk := by simp [StageOk, missing, nextFreeSlot_unused found]
  ended := by simp

/-- A pool whose used slots are held by fewer rules than it has slots has a free one. -/
theorem nextFreeSlot_ne_none_of_held
    (few : active.length + built.length < 2 * limit)
    (passed : ∀ slot : SlotId limit, slot.val < freeSlot → (pool slot).used = true)
    (held : ∀ slot, (pool slot).used = true → Holds active slot ∨ Holds built slot) :
    nextFreeSlot pool freeSlot ≠ none := by
  intro missing
  rw [← List.length_append] at few
  rcases exists_not_holds few with ⟨free, notHeld⟩
  have used : (pool free).used = true := by
    by_cases before : free.val < freeSlot
    · exact passed free before
    · exact used_of_nextFreeSlot_eq_none missing (not_lt.mp before)
  exact notHeld (holds_append.mpr (held free used))

/-- The pool always has a slot for a new rule. -/
theorem AssignOk.nextFreeSlot_ne_none
    (ok : AssignOk pool poolUsed active (rule :: todo) built freeSlot .pick)
    (activeBounded : active.length ≤ limit) :
    nextFreeSlot pool freeSlot ≠ none := by
  have size := ok.bounded
  rw [List.length_cons] at size
  have few : active.length + built.length < 2 * limit := by omega
  refine nextFreeSlot_ne_none_of_held few ok.passed fun slot used => ?_
  simpa using (ok.used slot).mp used

/-- A store that clears a word of a fresh slot changes no `used` flag. -/
theorem AssignOk.clear
    {store : SlotStore limit} {stage later : AssignStage limit}
    (ok : AssignOk pool poolUsed active (rule :: todo) built freeSlot stage)
    (keeps : ∀ other, (store.apply pool other).used = (pool other).used)
    (notHook : ∀ other, stage ≠ .hook other)
    (laterNotHook : ∀ other, later ≠ .hook other)
    (fresh : StageOk (store.apply pool) active built rule.text later) :
    AssignOk (store.apply pool) poolUsed active (rule :: todo) built freeSlot
      later where
  bounded := ok.bounded
  derived := ok.derived
  used := by
    intro other
    rw [keeps, ok.used]
    simp [notHook other, laterNotHook other]
  passed := by
    intro other before
    rw [keeps]
    exact ok.passed other before
  marked := ok.marked
  stageOk := by simpa using fresh
  ended := by simp

theorem AssignOk.hold
    (ok : AssignOk pool poolUsed active (rule :: todo) built freeSlot
      (.hold slot)) :
    AssignOk ((SlotStore.hold slot).apply pool) poolUsed active (rule :: todo)
      built freeSlot (.hook slot) where
  bounded := ok.bounded
  derived := ok.derived
  used := by
    intro other
    have before := ok.used other
    rw [used_apply]
    by_cases same : slot = other
    · simp [same]
    · simpa [same] using before
  passed := by
    intro other before
    rw [used_apply]
    split
    · rfl
    · simpa using ok.passed other before
  marked := ok.marked
  stageOk := by
    have stage := ok.stageOk rule (by simp)
    have unheld : (pool slot).used = false →
        ¬ Holds active slot ∧ ¬ Holds built slot := by
      intro unused
      have notUsed : ¬ (pool slot).used = true := by simp [unused]
      rw [ok.used slot] at notUsed
      push Not at notUsed
      exact ⟨notUsed.1, notUsed.2.1⟩
    rcases stage with inherited | ⟨missing, unused⟩
    · simp [StageOk, inherited]
    · simp [StageOk, missing, unheld unused]
  ended := by simp

theorem AssignOk.hook
    (ok : AssignOk pool poolUsed active (rule :: todo) built freeSlot
      (.hook slot)) :
    AssignOk ((SlotStore.hook slot).apply pool) poolUsed active todo
      (built ++ [⟨rule.text, some slot⟩]) freeSlot .pick where
  bounded := by
    have size := ok.bounded
    simp only [List.length_cons, List.length_append, List.length_nil] at size ⊢
    omega
  derived := by
    rcases ok.stageOk rule (by simp) with
      inherited | ⟨missing, notActive, notBuilt⟩
    · exact ok.derived.append_inherited inherited
    · exact ok.derived.append_fresh missing notActive notBuilt
  used := by
    intro other
    rw [used_apply]
    simp [ok.used other]
  passed := by
    intro other before
    rw [used_apply]
    simpa using ok.passed other before
  marked := fun _ => ok.marked (by simp)
  stageOk := by simp [StageOk]
  ended := by simp

end AssignSteps

/-! ## Steps of the release loop -/

section ReleaseSteps

variable
    {pool : Pool limit} {active next : List (TextSlot limit)}
    {slot : SlotId limit} {index : Nat}

/-- After the assignment every used slot is held by one of the two snapshots. -/
theorem AssignOk.releaseOk
    {poolUsed : Bool} {freeSlot : Nat} {stage : AssignStage limit}
    (ok : AssignOk pool poolUsed active [] next freeSlot stage) :
    ReleaseOk pool active next 0 false where
  bounded := by simpa using ok.bounded
  derived := ok.derived
  settled := by
    intro other before
    exact absurd before (Nat.not_lt_zero _)
  pending := by
    intro other _
    simpa [ok.ended rfl] using ok.used other
  here := by
    intro other _
    simpa [ok.ended rfl] using ok.used other

theorem ReleaseOk.bump
    (ok : ReleaseOk pool active next slot.val true) :
    ReleaseOk ((SlotStore.bump slot).apply pool) active next
      (slot.val + 1) false := by
  have keeps : ∀ other : SlotId limit,
      ((SlotStore.bump slot).apply pool other).used = (pool other).used := by
    intro other
    simp [used_apply]
  refine ⟨ok.bounded, ok.derived, ?_, ?_, ?_⟩
  · intro other before
    rw [keeps]
    rcases Nat.lt_succ_iff_lt_or_eq.mp before with earlier | same
    · exact ok.settled other earlier
    · have settled := ok.here other same
      simp only [if_true] at settled
      simp [settled.1, settled.2]
  · intro other after
    rw [keeps]
    exact ok.pending other (by omega)
  · intro other same
    simp only [Bool.false_eq_true, if_false]
    rw [keeps]
    exact ok.pending other (by omega)

theorem ReleaseOk.drop
    (ok : ReleaseOk pool active next slot.val false)
    (leaving : leaves pool (hits next) slot = true) :
    ReleaseOk ((SlotStore.drop slot).apply pool) active next
      slot.val true := by
  have keeps : ∀ other : SlotId limit, other.val ≠ slot.val →
      ((SlotStore.drop slot).apply pool other).used = (pool other).used := by
    intro other different
    have apart : slot ≠ other := fun same => different (same ▸ rfl)
    simp [used_apply, apart]
  refine ⟨ok.bounded, ok.derived, ?_, ?_, ?_⟩
  · intro other before
    rw [keeps other (by omega)]
    exact ok.settled other before
  · intro other after
    rw [keeps other (by omega)]
    exact ok.pending other after
  · intro other same
    have equal : other = slot := Fin.ext same
    subst equal
    simp only [leaves, Bool.and_eq_true, Bool.not_eq_true',
      List.contains_eq_mem, decide_eq_false_iff_not] at leaving
    simp [used_apply, Holds, leaving.2]

theorem ReleaseOk.keep
    (ok : ReleaseOk pool active next slot.val false)
    (staying : leaves pool (hits next) slot = false) :
    ReleaseOk pool active next (slot.val + 1) false := by
  refine ⟨ok.bounded, ok.derived, ?_, ?_, ?_⟩
  · intro other before
    rcases Nat.lt_succ_iff_lt_or_eq.mp before with earlier | same
    · exact ok.settled other earlier
    · have equal : other = slot := Fin.ext same
      subst equal
      have held := ok.here other rfl
      simp only [Bool.false_eq_true, if_false] at held
      simp only [leaves, Bool.and_eq_false_iff, Bool.not_eq_false',
        List.contains_eq_mem, decide_eq_true_eq] at staying
      constructor
      · intro used
        rcases staying with unused | kept
        · simp [used] at unused
        · exact kept
      · exact fun kept => held.mpr (Or.inr kept)
  · intro other after
    exact ok.pending other (by omega)
  · intro other same
    simp only [Bool.false_eq_true, if_false]
    exact ok.pending other (by omega)

/-- Past the last slot only the new snapshot's slots are used. -/
theorem ReleaseOk.finished
    {dropped : Bool}
    (ok : ReleaseOk pool active next index dropped)
    (past : ¬ index < 2 * limit) (other : SlotId limit) :
    (pool other).used = true ↔ Holds next other :=
  ok.settled other (by omega)

end ReleaseSteps

/-! ## Steps of the machine -/

theorem invariant_assignStep
    {state : State limit} (ok : Invariant state)
    {rule : HitRule} {todo : List HitRule} {built : List (Assigned limit)}
    {freeSlot : Nat} {stage : AssignStage limit}
    (phase : state.owner = .assign (rule :: todo) built freeSlot stage) :
    Invariant (assignStep state rule todo built freeSlot stage) := by
  have assignOk := ok.ownerOk
  simp only [OwnerOk, phase] at assignOk
  have marked : state.poolUsed = true := assignOk.marked (by simp)
  cases stage with
  | pick =>
      simp only [assignStep]
      cases found : inheritedSlot (textSlots state.active) rule.text with
      | some slot =>
          exact ⟨ok.bounded, ok.separated, ok.marked,
            assignOk.pick_inherited found⟩
      | none =>
          have activeBounded : (textSlots state.active).length ≤ limit := by
            simpa [textSlots] using ok.bounded
          cases free : nextFreeSlot state.pool freeSlot with
          | some slot =>
              exact ⟨ok.bounded, ok.separated, ok.marked,
                assignOk.pick_fresh found free⟩
          | none =>
              exact absurd free
                (assignOk.nextFreeSlot_ne_none activeBounded)
  | clearCount slot =>
      refine ⟨ok.bounded, ok.separated, fun _ _ => marked, ?_⟩
      refine assignOk.clear (by simp [used_apply]) (by simp) (by simp) ?_
      simpa [StageOk, used_apply] using assignOk.stageOk
  | tagClaims slot =>
      refine ⟨ok.bounded, ok.separated, fun _ _ => marked, ?_⟩
      refine assignOk.clear (by simp [used_apply]) (by simp) (by simp) ?_
      simpa [StageOk, used_apply] using assignOk.stageOk
  | clearState slot =>
      refine ⟨ok.bounded, ok.separated, fun _ _ => marked, ?_⟩
      refine assignOk.clear (by simp [used_apply]) (by simp) (by simp) ?_
      have stageOk := assignOk.stageOk rule (by simp)
      exact Or.inr ⟨stageOk.1, by simpa [used_apply] using stageOk.2⟩
  | hold slot =>
      exact ⟨ok.bounded, ok.separated, fun _ _ => marked, assignOk.hold⟩
  | hook slot =>
      refine ⟨ok.bounded, ok.separated, fun _ _ => marked, ?_⟩
      have hooked := assignOk.hook
      simpa [OwnerOk, assignStep, State.store, builtSlots] using hooked

theorem invariant_releaseStep
    {state : State limit} (ok : Invariant state)
    {slot : SlotId limit} {dropped : Bool} {next : List (RuleCopy limit)}
    (phase : state.owner = .release slot.val dropped next) :
    Invariant (releaseStep state slot dropped next) := by
  have releaseOk := ok.ownerOk
  simp only [OwnerOk, phase] at releaseOk
  unfold releaseStep
  cases dropped with
  | true =>
      simp only [if_true]
      refine ⟨ok.bounded, ok.separated, ?_, releaseOk.bump⟩
      intro other used
      exact ok.marked other (by simpa [State.store, used_apply] using used)
  | false =>
      simp only [Bool.false_eq_true, if_false]
      split
      · rename_i leaving
        refine ⟨ok.bounded, ok.separated, ?_, releaseOk.drop leaving⟩
        intro other used
        simp only [State.store, used_apply, reduceCtorEq, if_false] at used
        split at used
        · exact absurd used Bool.false_ne_true
        · exact ok.marked other used
      · rename_i staying
        exact ⟨ok.bounded, ok.separated, ok.marked,
          releaseOk.keep (Bool.eq_false_of_not_eq_true staying)⟩

theorem invariant_ownerStep
    {state next : State limit} (ok : Invariant state)
    (stepped : ownerStep state = some next) :
    Invariant next := by
  have ownerOk := ok.ownerOk
  cases ownerStep_cases stepped with
  | attach rules phase =>
      simp only [OwnerOk, phase] at ownerOk
      refine ⟨ok.bounded, ok.separated, ?_, ?_⟩
      · intro slot used
        simp [ok.marked slot used]
      · refine ⟨by simpa [builtSlots] using ownerOk.1, derived_nil _,
          by simpa [builtSlots] using ownerOk.2, by simp, ?_, by simp [StageOk],
          by simp⟩
        intro nonempty
        simp [nonempty]
  | capture built freeSlot stage phase =>
      simp only [OwnerOk, phase] at ownerOk
      refine ⟨ok.bounded, ok.separated, ok.marked, ?_⟩
      simpa [OwnerOk] using ownerOk.releaseOk
  | assign rule rest built freeSlot stage phase => exact invariant_assignStep ok phase
  | release slot dropped built phase => exact invariant_releaseStep ok phase
  | released index dropped built phase past =>
      simp only [OwnerOk, phase] at ownerOk
      have bounded : built.length ≤ limit := by
        simpa [textSlots] using ownerOk.bounded
      exact ⟨ok.bounded, ok.separated, ok.marked,
        bounded, ownerOk.derived, ownerOk.finished past⟩
  | publish built phase =>
      simp only [OwnerOk, phase] at ownerOk
      exact ⟨ownerOk.1, ownerOk.2.1.separated ok.separated, ok.marked,
        ownerOk.2.2⟩

/-! ## Threads leave the ownership words alone -/

/-- A step that touches neither the owner's words nor the snapshots. -/
structure OwnershipKept (state next : State limit) : Prop where
  owner : next.owner = state.owner
  active : next.active = state.active
  poolUsed : next.poolUsed = state.poolUsed
  used : ∀ slot, (next.pool slot).used = (state.pool slot).used
  generation : ∀ slot,
    (next.pool slot).generation = (state.pool slot).generation
  issued : next.history.issued = state.history.issued
  claimEra : next.history.claimEra = state.history.claimEra
  countEra : next.history.countEra = state.history.countEra

theorem ownershipKept_goto
    (state : State limit) (thread : Nat) (pc : FirePc limit) :
    OwnershipKept state (state.goto thread pc) := by
  constructor <;> simp [State.goto]

theorem ownershipKept_claim
    (state : State limit) (thread : Nat) (copy : RuleCopy limit)
    (slot : SlotId limit) :
    OwnershipKept state (state.claim thread copy slot) := by
  constructor <;> simp only [State.claim]
  all_goals
    intro other
    rw [Pool.modify_apply]
    split <;> rfl

theorem ownershipKept_count
    (state : State limit) (thread : Nat) (copy : RuleCopy limit) :
    OwnershipKept state (state.count thread copy) := by
  cases held : copy.slot with
  | none =>
      constructor <;> simp [State.count, held]
  | some slot =>
      constructor <;> simp only [State.count, held]
      all_goals
        intro other
        rw [Pool.modify_apply]
        split <;> rfl

theorem ownershipKept_fireStep
    {state next : State limit} {thread : Nat}
    (stepped : fireStep state thread = some next) :
    OwnershipKept state next := by
  rcases fireStep_cases stepped with
    ⟨pc, rfl, -⟩ | ⟨copy, slot, -, rfl⟩ | ⟨copy, -, rfl⟩
  · exact ownershipKept_goto state thread pc
  · exact ownershipKept_claim state thread copy slot
  · exact ownershipKept_count state thread copy

theorem AssignOk.congr_used
    {pool other : Pool limit} {poolUsed : Bool}
    {active built : List (TextSlot limit)} {todo : List HitRule}
    {freeSlot : Nat} {stage : AssignStage limit}
    (ok : AssignOk pool poolUsed active todo built freeSlot stage)
    (same : ∀ slot, (other slot).used = (pool slot).used) :
    AssignOk other poolUsed active todo built freeSlot stage where
  bounded := ok.bounded
  derived := ok.derived
  used := by simpa [same] using ok.used
  passed := by simpa [same] using ok.passed
  marked := ok.marked
  stageOk := by
    intro rule member
    have stageOk := ok.stageOk rule member
    cases stage with
    | pick => trivial
    | clearCount slot => simpa [StageOk, same] using stageOk
    | tagClaims slot => simpa [StageOk, same] using stageOk
    | clearState slot => simpa [StageOk, same] using stageOk
    | hold slot => simpa [StageOk, same] using stageOk
    | hook slot => exact stageOk
  ended := ok.ended

theorem ReleaseOk.congr_used
    {pool other : Pool limit} {active next : List (TextSlot limit)}
    {index : Nat} {dropped : Bool}
    (ok : ReleaseOk pool active next index dropped)
    (same : ∀ slot, (other slot).used = (pool slot).used) :
    ReleaseOk other active next index dropped where
  bounded := ok.bounded
  derived := ok.derived
  settled := by simpa [same] using ok.settled
  pending := by simpa [same] using ok.pending
  here := by simpa [same] using ok.here

/-- The structural invariant reads only what threads leave alone. -/
theorem Invariant.of_ownershipKept
    {state next : State limit} (ok : Invariant state)
    (kept : OwnershipKept state next) :
    Invariant next where
  bounded := by
    rw [kept.active]
    exact ok.bounded
  separated := by
    rw [kept.active]
    exact ok.separated
  marked := by
    intro slot used
    rw [kept.poolUsed]
    exact ok.marked slot (kept.used slot ▸ used)
  ownerOk := by
    have ownerOk := ok.ownerOk
    unfold OwnerOk at ownerOk ⊢
    rw [kept.owner, kept.active, kept.poolUsed]
    cases phase : state.owner with
    | idle => simpa [phase, kept.used] using ownerOk
    | attach rules => simpa [phase, kept.used] using ownerOk
    | assign todo built freeSlot stage =>
        simp only [phase] at ownerOk
        exact ownerOk.congr_used kept.used
    | release index dropped built =>
        simp only [phase] at ownerOk
        exact ownerOk.congr_used kept.used
    | publish built => simpa [phase, kept.used] using ownerOk

/-! ## Forks -/

/--
A fork is safe unless it falls into the release window of a reload: the
release loop has passed a slot that the still active snapshot holds and the
snapshot about to be published does not.
-/
def ForkSafe (state : State limit) : Prop :=
  match state.owner with
  | .release index dropped next =>
      ∀ slot, Holds (textSlots state.active) slot →
        slot.val < index ∨ slot.val = index ∧ dropped = true →
          Holds (textSlots next) slot
  | .publish next =>
      ∀ slot, Holds (textSlots state.active) slot →
        Holds (textSlots next) slot
  | _ => True

/-- Outside the window every slot of the active snapshot is still marked used. -/
theorem forkSafe_iff
    {state : State limit} (ok : Invariant state) :
    ForkSafe state ↔
      ∀ slot, Holds (textSlots state.active) slot →
        (state.pool slot).used = true := by
  have ownerOk := ok.ownerOk
  unfold ForkSafe
  cases phase : state.owner with
  | idle =>
      simp only [OwnerOk, phase] at ownerOk
      simp [ownerOk]
  | attach rules =>
      simp only [OwnerOk, phase] at ownerOk
      simp [ownerOk.2]
  | assign todo built freeSlot stage =>
      simp only [OwnerOk, phase] at ownerOk
      simp only [true_iff]
      exact fun slot held => (ownerOk.used slot).mpr (Or.inl held)
  | release index dropped next =>
      simp only [OwnerOk, phase] at ownerOk
      refine forall₂_congr fun slot held => ?_
      rcases Nat.lt_trichotomy slot.val index with before | same | after
      · simp [before, ownerOk.settled slot before]
      · have here := ownerOk.here slot same
        cases dropped with
        | true =>
            simp only [if_true] at here
            simp [same, here.1, here.2]
        | false =>
            simp only [Bool.false_eq_true, if_false] at here
            simp [same, here, held]
      · have notBefore : ¬ slot.val < index := by omega
        have notHere : slot.val ≠ index := by omega
        simp [notBefore, notHere, ownerOk.pending slot after, held]
  | publish next =>
      simp only [OwnerOk, phase] at ownerOk
      simp [ownerOk.2.2]

/-- The used slots of the child are those the parent still marked for the active rules. -/
theorem used_forked
    (state : State limit) (slot : SlotId limit) :
    ((forked state).pool slot).used = true ↔
      (state.pool slot).used = true ∧
        (Holds (textSlots state.active) slot ∨ state.poolUsed = false) := by
  unfold forked
  cases attached : state.poolUsed with
  | true =>
      simpa [Holds] using
        used_chaosHitsPoolAfterFork state.pool
          (hits (textSlots state.active)) slot
  | false => simp

theorem invariant_forked
    {state : State limit} (ok : Invariant state) (safe : ForkSafe state) :
    Invariant (forked state) where
  bounded := ok.bounded
  separated := ok.separated
  marked := by
    intro slot used
    exact ok.marked slot ((used_forked state slot).mp used).1
  ownerOk := by
    intro slot
    rw [used_forked state slot]
    constructor
    · rintro ⟨used, held | unattached⟩
      · exact held
      · rw [ok.marked slot used] at unattached
        exact absurd unattached (by simp)
    · intro held
      exact ⟨(forkSafe_iff ok).mp safe slot held, Or.inl held⟩

/-- Every step but an unsafe fork keeps the structural invariant. -/
theorem invariant_step
    {state next : State limit} {action : Action limit}
    (ok : Invariant state) (safe : action = .fork → ForkSafe state)
    (stepped : step state action = some next) :
    Invariant next := by
  cases action with
  | reload outcome =>
      obtain ⟨between, ⟨rules, published, rfl⟩ | rfl⟩ := reload_cases stepped
      · have ownerOk := ok.ownerOk
        simp only [OwnerOk, between] at ownerOk
        exact ⟨ok.bounded, ok.separated, ok.marked,
          outcome.published_bounded published, ownerOk⟩
      · exact ok
  | owner => exact invariant_ownerStep ok stepped
  | fire thread copy =>
      obtain ⟨-, -, rfl⟩ := fire_cases stepped
      exact ok.of_ownershipKept (ownershipKept_goto state thread _)
  | thread thread =>
      exact ok.of_ownershipKept (ownershipKept_fireStep stepped)
  | fork =>
      simp only [step, Option.some.injEq] at stepped
      exact stepped ▸ invariant_forked ok (safe rfl)

end ChaosLibs.Common.SlotInvariant
