import ChaosLibs.Common.SlotInvariant

/-!
# The supply of hit slots

The pool holds two slots for each rule of the limit, one snapshot's worth for
the active snapshot and one for the next, and `chaos_hits_assign` leaves a
rule without a slot when it finds the pool used up.  This module proves that
it never does: over any sequence of reloads and forks, a used slot is held by
a rule of the active snapshot or by a rule already built.

The bound needs less than the ownership invariant: after a fork in the release
window an active rule may hold a slot that is no longer marked used, and two
rules may come to hold one slot, but neither takes a slot away.  So the
invariant here speaks of used slots only, and no fork breaks it.
-/

namespace ChaosLibs.Common.SlotSupply

open ChaosLibs.Common.HitSlots
open ChaosLibs.Common.SlotInvariant
open ChaosLibs.Common.SlotMachine
open ChaosLibs.Machine

variable {limit : Nat}

/-! ## The invariant -/

/-- Every rule of the list has a slot. -/
def AllHeld (rules : List (TextSlot limit)) : Prop :=
  ∀ rule ∈ rules, rule.slot ≠ none

theorem allHeld_nil : AllHeld ([] : List (TextSlot limit)) := by
  intro rule member
  cases member

theorem AllHeld.append
    {rules : List (TextSlot limit)} (held : AllHeld rules)
    (rule : TextSlot limit) (holds : rule.slot ≠ none) :
    AllHeld (rules ++ [rule]) := by
  intro other member
  rcases List.mem_append.mp member with earlier | last
  · exact held other earlier
  · rw [List.mem_singleton.mp last]
    exact holds

/-- The slot a stage of the assignment loop is about to hand out. -/
def inHand : AssignStage limit → Option (SlotId limit)
  | .hook slot => some slot
  | _ => none

/--
The assignment loop between two stores: a used slot is held by an active rule,
by a rule already built, or is the one in hand; `freeSlot` has passed used
slots only.
-/
structure AssignSupply
    (pool : Pool limit) (poolUsed : Bool) (active : List (TextSlot limit))
    (todo : List HitRule) (built : List (TextSlot limit)) (freeSlot : Nat)
    (stage : AssignStage limit) : Prop where
  bounded : built.length + todo.length ≤ limit
  held : AllHeld built
  used : ∀ slot, (pool slot).used = true →
    Holds active slot ∨ Holds built slot ∨ inHand stage = some slot
  passed : ∀ slot : SlotId limit, slot.val < freeSlot → (pool slot).used = true
  marked : todo ≠ [] → poolUsed = true
  ended : todo = [] → inHand stage = none

/--
The release loop: below `index`, and at `index` once the flag is dropped, only
slots of the new snapshot are used.
-/
structure ReleaseSupply
    (pool : Pool limit) (active next : List (TextSlot limit))
    (index : Nat) (dropped : Bool) : Prop where
  bounded : next.length ≤ limit
  held : AllHeld next
  used : ∀ slot, (pool slot).used = true →
    Holds active slot ∨ Holds next slot
  settled : ∀ slot : SlotId limit,
    slot.val < index ∨ slot.val = index ∧ dropped = true →
      (pool slot).used = true → Holds next slot

/-- The supply at every stop of the reload owner. -/
def OwnerSupply (state : State limit) : Prop :=
  match state.owner with
  | .idle =>
      ∀ slot, (state.pool slot).used = true →
        Holds (textSlots state.active) slot
  | .attach rules =>
      rules.length ≤ limit ∧
        ∀ slot, (state.pool slot).used = true →
          Holds (textSlots state.active) slot
  | .assign todo built freeSlot stage =>
      AssignSupply state.pool state.poolUsed (textSlots state.active) todo
        (builtSlots built) freeSlot stage
  | .release index dropped next =>
      ReleaseSupply state.pool (textSlots state.active) (textSlots next)
        index dropped
  | .publish next =>
      next.length ≤ limit ∧ AllHeld (textSlots next) ∧
        ∀ slot, (state.pool slot).used = true → Holds (textSlots next) slot

/-- The supply invariant of the slot machine. -/
structure SupplyInvariant (state : State limit) : Prop where
  bounded : state.active.length ≤ limit
  marked : ∀ slot, (state.pool slot).used = true → state.poolUsed = true
  supply : OwnerSupply state
  issued : ∀ copy ∈ state.history.issued, copy.slot ≠ none

theorem supplyInvariant_initial (limit : Nat) :
    SupplyInvariant (initial limit) where
  bounded := Nat.zero_le _
  marked := by
    intro slot used
    simp [initial, chaosHitsPoolReset, HitSlot.reset] at used
  supply := by
    intro slot used
    simp [initial, chaosHitsPoolReset, HitSlot.reset] at used
  issued := by
    intro copy member
    cases member

/-! ## Steps of the assignment loop -/

section AssignSteps

variable
    {pool : Pool limit} {poolUsed : Bool} {active : List (TextSlot limit)}
    {rule : HitRule} {todo : List HitRule} {built : List (TextSlot limit)}
    {freeSlot : Nat} {slot : SlotId limit} {stage : AssignStage limit}

/-- Before a rule is served the pool has an unused slot at or after `freeSlot`. -/
theorem AssignSupply.nextFreeSlot_ne_none
    (ok : AssignSupply pool poolUsed active (rule :: todo) built freeSlot .pick)
    (activeBounded : active.length ≤ limit) :
    nextFreeSlot pool freeSlot ≠ none := by
  have size := ok.bounded
  rw [List.length_cons] at size
  have few : active.length + built.length < 2 * limit := by omega
  refine nextFreeSlot_ne_none_of_held few ok.passed fun slot used => ?_
  rcases ok.used slot used with activeHolds | builtHolds | inHand
  · exact Or.inl activeHolds
  · exact Or.inr builtHolds
  · cases inHand

theorem AssignSupply.pick_fresh
    (ok : AssignSupply pool poolUsed active (rule :: todo) built freeSlot .pick)
    (found : nextFreeSlot pool freeSlot = some slot) :
    AssignSupply pool poolUsed active (rule :: todo) built slot.val
      (.clearCount slot) where
  bounded := ok.bounded
  held := ok.held
  used := ok.used
  passed := by
    intro other before
    by_cases earlier : other.val < freeSlot
    · exact ok.passed other earlier
    · exact used_of_lt_nextFreeSlot found (not_lt.mp earlier) before
  marked := ok.marked
  ended := by
    intro empty
    cases empty

/-- Moving on without a store that touches a `used` flag. -/
theorem AssignSupply.move
    {other : Pool limit} {later : AssignStage limit}
    (ok : AssignSupply pool poolUsed active (rule :: todo) built freeSlot stage)
    (same : ∀ slot, (other slot).used = (pool slot).used)
    (notInHand : inHand stage = none) :
    AssignSupply other poolUsed active (rule :: todo) built freeSlot later where
  bounded := ok.bounded
  held := ok.held
  used := by
    intro slot used
    rw [same] at used
    rcases ok.used slot used with activeHolds | builtHolds | inHand
    · exact Or.inl activeHolds
    · exact Or.inr (Or.inl builtHolds)
    · rw [notInHand] at inHand
      cases inHand
  passed := by
    intro slot before
    rw [same]
    exact ok.passed slot before
  marked := ok.marked
  ended := by
    intro empty
    cases empty

theorem AssignSupply.hold
    (ok : AssignSupply pool poolUsed active (rule :: todo) built freeSlot
      (.hold slot)) :
    AssignSupply ((SlotStore.hold slot).apply pool) poolUsed active
      (rule :: todo) built freeSlot (.hook slot) where
  bounded := ok.bounded
  held := ok.held
  used := by
    intro other used
    by_cases same : slot = other
    · exact Or.inr (Or.inr (congrArg some same))
    · have before : (pool other).used = true := by
        simpa [used_apply, same] using used
      rcases ok.used other before with activeHolds | builtHolds | inHand
      · exact Or.inl activeHolds
      · exact Or.inr (Or.inl builtHolds)
      · cases inHand
  passed := by
    intro other before
    rw [used_apply]
    split
    · rfl
    · simpa using ok.passed other before
  marked := ok.marked
  ended := by
    intro empty
    cases empty

theorem AssignSupply.hook
    (ok : AssignSupply pool poolUsed active (rule :: todo) built freeSlot
      (.hook slot)) :
    AssignSupply ((SlotStore.hook slot).apply pool) poolUsed active todo
      (built ++ [⟨rule.text, some slot⟩]) freeSlot .pick where
  bounded := by
    have size := ok.bounded
    rw [List.length_cons] at size
    rw [List.length_append, List.length_singleton]
    omega
  held := by
    apply ok.held.append
    intro missing
    cases missing
  used := by
    intro other used
    have before : (pool other).used = true := by
      simpa [used_apply] using used
    rcases ok.used other before with activeHolds | builtHolds | inHand
    · exact Or.inl activeHolds
    · exact Or.inr (Or.inl (holds_append.mpr (Or.inl builtHolds)))
    · have same : some slot = some other := inHand
      exact Or.inr
        (Or.inl (holds_append.mpr (Or.inr (holds_singleton.mpr same))))
  passed := by
    intro other before
    rw [used_apply]
    simpa using ok.passed other before
  marked := by
    intro _
    apply ok.marked
    intro empty
    cases empty
  ended := by
    intro _
    rfl

end AssignSteps

/-! ## Steps of the release loop -/

section ReleaseSteps

variable
    {pool : Pool limit} {active next : List (TextSlot limit)}
    {slot : SlotId limit} {index : Nat}

theorem AssignSupply.releaseSupply
    {poolUsed : Bool} {freeSlot : Nat} {stage : AssignStage limit}
    (ok : AssignSupply pool poolUsed active [] next freeSlot stage) :
    ReleaseSupply pool active next 0 false where
  bounded := by
    simpa using ok.bounded
  held := ok.held
  used := by
    intro other used
    rcases ok.used other used with activeHolds | nextHolds | inHand
    · exact Or.inl activeHolds
    · exact Or.inr nextHolds
    · rw [ok.ended rfl] at inHand
      cases inHand
  settled := by
    intro other place
    rcases place with before | ⟨-, dropped⟩
    · exact absurd before (Nat.not_lt_zero _)
    · cases dropped

theorem ReleaseSupply.bump
    (ok : ReleaseSupply pool active next slot.val true) :
    ReleaseSupply ((SlotStore.bump slot).apply pool) active next
      (slot.val + 1) false := by
  have keeps : ∀ other : SlotId limit,
      ((SlotStore.bump slot).apply pool other).used = (pool other).used := by
    intro other
    simp [used_apply]
  refine ⟨ok.bounded, ok.held, ?_, ?_⟩
  · intro other used
    rw [keeps] at used
    exact ok.used other used
  · intro other place used
    rw [keeps] at used
    rcases place with before | ⟨-, dropped⟩
    · rcases Nat.lt_succ_iff_lt_or_eq.mp before with earlier | same
      · exact ok.settled other (Or.inl earlier) used
      · exact ok.settled other (Or.inr ⟨same, rfl⟩) used
    · cases dropped

theorem ReleaseSupply.drop
    (ok : ReleaseSupply pool active next slot.val false) :
    ReleaseSupply ((SlotStore.drop slot).apply pool) active next
      slot.val true := by
  have before : ∀ other : SlotId limit,
      ((SlotStore.drop slot).apply pool other).used = true →
        other ≠ slot ∧ (pool other).used = true := by
    intro other used
    by_cases same : slot = other
    · simp [used_apply, same] at used
    · exact ⟨fun equal => same equal.symm,
        by simpa [used_apply, same] using used⟩
  refine ⟨ok.bounded, ok.held, ?_, ?_⟩
  · intro other used
    exact ok.used other (before other used).2
  · intro other place used
    rcases before other used with ⟨different, usedBefore⟩
    rcases place with earlier | ⟨same, -⟩
    · exact ok.settled other (Or.inl earlier) usedBefore
    · exact absurd (Fin.ext same) different

theorem ReleaseSupply.keep
    (ok : ReleaseSupply pool active next slot.val false)
    (staying : leaves pool (hits next) slot = false) :
    ReleaseSupply pool active next (slot.val + 1) false := by
  refine ⟨ok.bounded, ok.held, ok.used, ?_⟩
  intro other place used
  rcases place with before | ⟨-, dropped⟩
  · rcases Nat.lt_succ_iff_lt_or_eq.mp before with earlier | same
    · exact ok.settled other (Or.inl earlier) used
    · have equal : other = slot := Fin.ext same
      subst equal
      simpa [leaves, used, SlotInvariant.Holds] using staying
  · cases dropped

end ReleaseSteps

/-! ## Steps of the machine -/

theorem supplyInvariant_assignStep
    {state : State limit} (ok : SupplyInvariant state)
    {rule : HitRule} {todo : List HitRule} {built : List (Assigned limit)}
    {freeSlot : Nat} {stage : AssignStage limit}
    (phase : state.owner = .assign (rule :: todo) built freeSlot stage) :
    SupplyInvariant (assignStep state rule todo built freeSlot stage) := by
  have supply := ok.supply
  simp only [OwnerSupply, phase] at supply
  have attached : state.poolUsed = true := supply.marked (by simp)
  cases stage with
  | pick =>
      simp only [assignStep]
      cases found : inheritedSlot (textSlots state.active) rule.text with
      | some slot =>
          exact ⟨ok.bounded, ok.marked, supply.move (fun _ => rfl) rfl,
            ok.issued⟩
      | none =>
          have activeBounded : (textSlots state.active).length ≤ limit := by
            simpa [textSlots] using ok.bounded
          cases free : nextFreeSlot state.pool freeSlot with
          | some slot =>
              exact ⟨ok.bounded, ok.marked, supply.pick_fresh free, ok.issued⟩
          | none =>
              exact absurd free (supply.nextFreeSlot_ne_none activeBounded)
  | clearCount slot =>
      have stored : ∀ other,
          ((SlotStore.clearCount slot).apply state.pool other).used =
            (state.pool other).used := by
        simp [used_apply]
      exact ⟨ok.bounded, fun _ _ => attached, supply.move stored rfl,
        ok.issued⟩
  | tagClaims slot =>
      have stored : ∀ other,
          ((SlotStore.tagClaims slot).apply state.pool other).used =
            (state.pool other).used := by
        simp [used_apply]
      exact ⟨ok.bounded, fun _ _ => attached, supply.move stored rfl,
        ok.issued⟩
  | clearState slot =>
      have stored : ∀ other,
          ((SlotStore.clearState slot).apply state.pool other).used =
            (state.pool other).used := by
        simp [used_apply]
      exact ⟨ok.bounded, fun _ _ => attached, supply.move stored rfl,
        ok.issued⟩
  | hold slot =>
      exact ⟨ok.bounded, fun _ _ => attached, supply.hold, ok.issued⟩
  | hook slot =>
      have hooked := supply.hook
      have next : OwnerSupply
          (assignStep state rule todo built freeSlot (.hook slot)) := by
        simpa [OwnerSupply, assignStep, State.store, builtSlots] using hooked
      exact ⟨ok.bounded, fun _ _ => attached, next, ok.issued⟩

theorem supplyInvariant_releaseStep
    {state : State limit} (ok : SupplyInvariant state)
    {slot : SlotId limit} {dropped : Bool} {next : List (RuleCopy limit)}
    (phase : state.owner = .release slot.val dropped next) :
    SupplyInvariant (releaseStep state slot dropped next) := by
  have supply := ok.supply
  simp only [OwnerSupply, phase] at supply
  unfold releaseStep
  cases dropped with
  | true =>
      simp only [if_true]
      refine ⟨ok.bounded, ?_, supply.bump, ok.issued⟩
      intro other used
      apply ok.marked other
      simpa [State.store, used_apply] using used
  | false =>
      simp only [Bool.false_eq_true, if_false]
      split
      · refine ⟨ok.bounded, ?_, supply.drop, ok.issued⟩
        intro other used
        simp only [State.store, used_apply, reduceCtorEq, if_false] at used
        split at used
        · exact absurd used Bool.false_ne_true
        · exact ok.marked other used
      · rename_i staying
        have kept := supply.keep (Bool.eq_false_of_not_eq_true staying)
        exact ⟨ok.bounded, ok.marked, kept, ok.issued⟩

theorem supplyInvariant_ownerStep
    {state next : State limit} (ok : SupplyInvariant state)
    (stepped : ownerStep state = some next) :
    SupplyInvariant next := by
  have supply := ok.supply
  cases ownerStep_cases stepped with
  | attach rules phase =>
      simp only [OwnerSupply, phase] at supply
      refine ⟨ok.bounded, ?_, ?_, ok.issued⟩
      · intro slot used
        simp [ok.marked slot used]
      · refine ⟨by simpa [builtSlots] using supply.1, allHeld_nil, ?_, ?_, ?_,
          fun _ => rfl⟩
        · intro slot used
          exact Or.inl (supply.2 slot used)
        · intro slot before
          exact absurd before (Nat.not_lt_zero _)
        · intro nonempty
          simp [nonempty]
  | capture built freeSlot stage phase =>
      simp only [OwnerSupply, phase] at supply
      refine ⟨ok.bounded, ok.marked, ?_, ok.issued⟩
      simpa [OwnerSupply] using supply.releaseSupply
  | assign rule rest built freeSlot stage phase => exact supplyInvariant_assignStep ok phase
  | release slot dropped built phase => exact supplyInvariant_releaseStep ok phase
  | released index dropped built phase past =>
      simp only [OwnerSupply, phase] at supply
      have bounded : built.length ≤ limit := by
        simpa [textSlots] using supply.bounded
      refine ⟨ok.bounded, ok.marked, ⟨bounded, supply.held, ?_⟩, ok.issued⟩
      intro slot used
      exact supply.settled slot
        (Or.inl (lt_of_lt_of_le slot.isLt (not_lt.mp past))) used
  | publish built phase =>
      simp only [OwnerSupply, phase] at supply
      refine ⟨supply.1, ok.marked, supply.2.2, ?_⟩
      intro copy member
      rcases List.mem_append.mp member with earlier | published
      · exact ok.issued copy earlier
      · exact supply.2.1 ⟨copy.text, copy.slot⟩
          (List.mem_map.mpr ⟨copy, published, rfl⟩)

/-- The supply invariant reads only what threads leave alone. -/
theorem SupplyInvariant.of_ownershipKept
    {state next : State limit} (ok : SupplyInvariant state)
    (kept : OwnershipKept state next) :
    SupplyInvariant next where
  bounded := by
    rw [kept.active]
    exact ok.bounded
  marked := by
    intro slot used
    rw [kept.poolUsed]
    exact ok.marked slot (kept.used slot ▸ used)
  supply := by
    have supply := ok.supply
    unfold OwnerSupply at supply ⊢
    rw [kept.owner, kept.active, kept.poolUsed]
    cases phase : state.owner with
    | idle => simpa [phase, kept.used] using supply
    | attach rules => simpa [phase, kept.used] using supply
    | assign todo built freeSlot stage =>
        simp only [phase] at supply
        exact ⟨supply.bounded, supply.held, by simpa [kept.used] using supply.used,
          by simpa [kept.used] using supply.passed, supply.marked, supply.ended⟩
    | release index dropped built =>
        simp only [phase] at supply
        exact ⟨supply.bounded, supply.held, by simpa [kept.used] using supply.used,
          by simpa [kept.used] using supply.settled⟩
    | publish built => simpa [phase, kept.used] using supply
  issued := by
    rw [kept.issued]
    exact ok.issued

/-- The child of a fork keeps used slots of its active snapshot only. -/
theorem supplyInvariant_forked
    {state : State limit} (ok : SupplyInvariant state) :
    SupplyInvariant (forked state) where
  bounded := ok.bounded
  marked := by
    intro slot used
    exact ok.marked slot ((used_forked state slot).mp used).1
  supply := by
    intro slot used
    rcases (used_forked state slot).mp used with ⟨before, held | unattached⟩
    · exact held
    · rw [ok.marked slot before] at unattached
      cases unattached
  issued := ok.issued

/-- Every step keeps the supply invariant, whatever a fork interrupts. -/
theorem supplyInvariant_step
    {state next : State limit} {action : Action limit}
    (ok : SupplyInvariant state) (stepped : step state action = some next) :
    SupplyInvariant next := by
  cases action with
  | reload outcome =>
      obtain ⟨between, ⟨rules, published, rfl⟩ | rfl⟩ := reload_cases stepped
      · have supply := ok.supply
        simp only [OwnerSupply, between] at supply
        exact ⟨ok.bounded, ok.marked,
          ⟨outcome.published_bounded published, supply⟩, ok.issued⟩
      · exact ok
  | owner => exact supplyInvariant_ownerStep ok stepped
  | fire thread copy =>
      obtain ⟨-, -, rfl⟩ := fire_cases stepped
      exact ok.of_ownershipKept (ownershipKept_goto state thread _)
  | thread thread =>
      exact ok.of_ownershipKept (ownershipKept_fireStep stepped)
  | fork =>
      simp only [step, Option.some.injEq] at stepped
      exact stepped ▸ supplyInvariant_forked ok

/-! ## The pool is never exhausted -/

/-- Every rule of every snapshot published so far has a slot of the pool. -/
def Supplied (state : State limit) : Prop :=
  ∀ copy ∈ state.history.issued, ∃ slot : SlotId limit, copy.slot = some slot

/--
Over every sequence of reloads, accepted, rejected, empty or failed, and forks,
interleaved with any calls that fire, every rule of every published snapshot
has a slot of the pool.
-/
theorem published_rules_have_slots
    (limit : Nat) (labels : List (Action limit)) :
    Throughout step Supplied (initial limit) labels := by
  have kept : Throughout step SupplyInvariant (initial limit) labels := by
    have every : ∀ label ∈ labels, (fun _ : Action limit => True) label :=
      fun _ _ => trivial
    refine throughout_of_preserved ?_ every (supplyInvariant_initial limit)
    intro state action next _ ok stepped
    exact supplyInvariant_step ok stepped
  intro before after middle split ran copy issued
  have ok := kept before after middle split ran
  exact Option.ne_none_iff_exists'.mp (ok.issued copy issued)

end ChaosLibs.Common.SlotSupply
