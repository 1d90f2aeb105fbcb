import ChaosLibs.Common.SlotSharing
import Mathlib.Data.List.Count

/-!
# Rule copies and generations

What a rule copy proves about its slot, within one process.  A copy carries
the generation its slot had at publication.  The slot keeps that generation
for as long as the rule is published; releasing the slot bumps it.  While a
slot is free, every copy of it is therefore older than its generation, and a
slot is cleared for a new rule under a generation no copy carries yet.
-/

namespace ChaosLibs.Common.FireInvariant

open ChaosLibs.Machine
open ChaosLibs.Common.HitSlots
open ChaosLibs.Common.SlotMachine
open ChaosLibs.Common.SlotInvariant
open ChaosLibs.Common.SlotSharing

variable {limit : Nat}

/-! ## Eras of the words of a slot -/

/-- The slot the release loop has dropped and is about to bump. -/
def Dropping (owner : Owner limit) (slot : SlotId limit) : Prop :=
  match owner with
  | .release index dropped _ => slot.val = index ∧ dropped = true
  | _ => False

/-- The slots whose claim word has just been tagged with the slot's generation. -/
def ClaimsTagged (owner : Owner limit) (slot : SlotId limit) : Prop :=
  match owner with
  | .assign _ _ _ (.clearState other) | .assign _ _ _ (.hold other)
  | .assign _ _ _ (.hook other) => other = slot
  | _ => False

/-- The copies of the snapshot about to be published. -/
def captured (owner : Owner limit) : List (RuleCopy limit) :=
  match owner with
  | .release _ _ next | .publish next => next
  | _ => []

/-- How copies, generations and eras stand to each other. -/
structure CopyInvariant (state : State limit) : Prop where
  ok : Invariant state
  issuedTagged : ∀ copy ∈ state.history.issued, ∀ slot,
    copy.slot = some slot → copy.generation ≤ state.history.claimEra slot
  issuedStale : ∀ copy ∈ state.history.issued, ∀ slot,
    copy.slot = some slot → (state.pool slot).used = false →
      ¬ Dropping state.owner slot →
        copy.generation < (state.pool slot).generation
  capturedCurrent : ∀ copy ∈ captured state.owner, ∀ slot,
    copy.slot = some slot → copy.generation = (state.pool slot).generation
  claimEra : ∀ slot,
    state.history.claimEra slot ≤ (state.pool slot).generation
  countEra : ∀ slot,
    state.history.countEra slot ≤ (state.pool slot).generation
  usedTagged : ∀ slot,
    (state.pool slot).used = true ∨ ClaimsTagged state.owner slot →
      state.history.claimEra slot = (state.pool slot).generation
  held : ∀ thread copy,
    (state.threads thread).copy = some copy →
      copy ∈ state.history.issued
  claimsIssued : ∀ copy ∈ state.history.claims, copy ∈ state.history.issued
  firedIssued : ∀ copy ∈ state.history.fired, copy ∈ state.history.issued

theorem copyInvariant_initial (limit : Nat) :
    CopyInvariant (initial limit) where
  ok := invariant_initial limit
  issuedTagged := by simp [initial]
  issuedStale := by simp [initial]
  capturedCurrent := by simp [initial, captured]
  claimEra := by simp [initial, chaosHitsPoolReset, HitSlot.reset, HitSlot.zero]
  countEra := by simp [initial, chaosHitsPoolReset, HitSlot.reset, HitSlot.zero]
  usedTagged := by simp [initial, chaosHitsPoolReset, HitSlot.reset, HitSlot.zero]
  held := by simp [initial, FirePc.copy]
  claimsIssued := by simp [initial]
  firedIssued := by simp [initial]

/-! ## Steps of the reload owner -/

/-- An owner step that stores nothing and neither captures nor publishes. -/
theorem CopyInvariant.move
    {state : State limit} (copies : CopyInvariant state) {owner : Owner limit}
    {poolUsed : Bool}
    (ok : Invariant { state with owner := owner, poolUsed := poolUsed })
    (notDropping : ∀ slot, ¬ Dropping state.owner slot)
    (tagged : ∀ slot, ClaimsTagged owner slot →
      state.history.claimEra slot = (state.pool slot).generation)
    (same : captured owner = captured state.owner) :
    CopyInvariant { state with owner := owner, poolUsed := poolUsed } where
  ok := ok
  issuedTagged := copies.issuedTagged
  issuedStale := fun copy member slot holds unused _ =>
    copies.issuedStale copy member slot holds unused (notDropping slot)
  capturedCurrent := by
    simp only [same]
    exact copies.capturedCurrent
  claimEra := copies.claimEra
  countEra := copies.countEra
  usedTagged := by
    rintro slot (used | tag)
    · exact copies.usedTagged slot (Or.inl used)
    · exact tagged slot tag
  held := copies.held
  claimsIssued := copies.claimsIssued
  firedIssued := copies.firedIssued

/-- A store of the assignment that changes neither generations nor eras. -/
theorem CopyInvariant.store
    {state : State limit} (copies : CopyInvariant state)
    {store : SlotStore limit} {owner : Owner limit}
    (ok : Invariant (state.store store owner))
    (notDropping : ∀ slot, ¬ Dropping state.owner slot)
    (notBump : ∀ slot, store ≠ .bump slot)
    (notDrop : ∀ slot, store ≠ .drop slot)
    (tagged : ∀ slot, store = .hold slot ∨ ClaimsTagged owner slot →
      state.history.claimEra slot = (state.pool slot).generation)
    (none' : captured owner = []) :
    CopyInvariant (state.store store owner) := by
  have generations : ∀ slot,
      (store.apply state.pool slot).generation =
        (state.pool slot).generation := by
    intro slot
    simp [generation_apply, notBump slot]
  have used : ∀ slot,
      (store.apply state.pool slot).used = true ↔
        store = .hold slot ∨ (state.pool slot).used = true := by
    intro slot
    rw [used_apply]
    by_cases holds : store = .hold slot
    · simp [holds]
    · simp [holds, notDrop slot]
  refine
    { ok := ok
      issuedTagged := copies.issuedTagged
      issuedStale := ?_
      capturedCurrent := by simp [State.store, none']
      claimEra := by simpa [State.store, generations] using copies.claimEra
      countEra := by simpa [State.store, generations] using copies.countEra
      usedTagged := ?_
      held := copies.held
      claimsIssued := copies.claimsIssued
      firedIssued := copies.firedIssued }
  · intro copy member slot holds unused _
    simp only [State.store, generations] at unused ⊢
    have before : (state.pool slot).used = false := by
      by_contra wasUsed
      have stillUsed :=
        (used slot).mpr (Or.inr (Bool.eq_true_of_not_eq_false wasUsed))
      rw [unused] at stillUsed
      exact Bool.false_ne_true stillUsed
    exact copies.issuedStale copy member slot holds before (notDropping slot)
  · intro slot
    simp only [State.store, generations, used]
    rintro ((holds | wasUsed) | tag)
    · exact tagged slot (Or.inl holds)
    · exact copies.usedTagged slot (Or.inl wasUsed)
    · exact tagged slot (Or.inr tag)

/-- Clearing the count starts a new count era. -/
theorem CopyInvariant.startCount
    {state : State limit} (copies : CopyInvariant state) {slot : SlotId limit}
    {generation : Nat} (current : generation = (state.pool slot).generation) :
    CopyInvariant
      { state with
        history.countEra :=
          Function.update state.history.countEra slot generation } := by
  have structural := copies.ok
  refine
    { copies with
      ok := ⟨structural.bounded, structural.separated, structural.marked,
        structural.ownerOk⟩
      countEra := ?_ }
  intro other
  by_cases same : other = slot
  · simp [same, current]
  · simpa [same] using copies.countEra other

/-- Tagging the claim word starts a new claim era. -/
theorem CopyInvariant.startClaims
    {state : State limit} (copies : CopyInvariant state) {slot : SlotId limit}
    {rule : HitRule} {todo : List HitRule} {built : List (Assigned limit)}
    {freeSlot : Nat}
    (phase : state.owner = .assign (rule :: todo) built freeSlot (.tagClaims slot)) :
    CopyInvariant
      (assignStep state rule todo built freeSlot (.tagClaims slot)) := by
  have ok := invariant_assignStep copies.ok phase
  have notDropping : ∀ other, ¬ Dropping state.owner other := by
    simp [Dropping, phase]
  have generations : ∀ other,
      ((SlotStore.tagClaims slot).apply state.pool other).generation =
        (state.pool other).generation := by
    simp [generation_apply]
  have used : ∀ other,
      ((SlotStore.tagClaims slot).apply state.pool other).used =
        (state.pool other).used := by
    simp [used_apply]
  refine
    { ok := ok
      issuedTagged := ?_
      issuedStale := ?_
      capturedCurrent := by simp [assignStep, State.store, captured]
      claimEra := ?_
      countEra := ?_
      usedTagged := ?_
      held := copies.held
      claimsIssued := copies.claimsIssued
      firedIssued := copies.firedIssued }
  · intro copy member other holds
    have before := copies.issuedTagged copy member other holds
    simp only [assignStep, Function.update_apply]
    split
    · rename_i same
      subst same
      exact before.trans (copies.claimEra other)
    · exact before
  · intro copy member other holds unused _
    simp only [assignStep, State.store, generations, used] at unused ⊢
    exact copies.issuedStale copy member other holds unused (notDropping other)
  · intro other
    simp only [assignStep, State.store, generations, Function.update_apply]
    split
    · rename_i same
      exact le_of_eq (same ▸ rfl)
    · exact copies.claimEra other
  · intro other
    simp only [assignStep, State.store, generations]
    exact copies.countEra other
  · intro other
    simp only [assignStep, State.store, generations, used, ClaimsTagged,
      Function.update_apply]
    rintro (wasUsed | same)
    · split
      · rename_i same
        exact same ▸ rfl
      · exact copies.usedTagged other (Or.inl wasUsed)
    · simp [same]

theorem copyInvariant_assignStep
    {state : State limit} (copies : CopyInvariant state)
    {rule : HitRule} {todo : List HitRule} {built : List (Assigned limit)}
    {freeSlot : Nat} {stage : AssignStage limit}
    (phase : state.owner = .assign (rule :: todo) built freeSlot stage) :
    CopyInvariant (assignStep state rule todo built freeSlot stage) := by
  have ok := invariant_assignStep copies.ok phase
  have assignOk := copies.ok.ownerOk
  simp only [OwnerOk, phase] at assignOk
  have stageOk := assignOk.stageOk rule (by simp)
  have notDropping : ∀ slot, ¬ Dropping state.owner slot := by
    simp [Dropping, phase]
  cases stage with
  | pick =>
      simp only [assignStep] at ok ⊢
      cases found : inheritedSlot (textSlots state.active) rule.text with
      | some slot =>
          simp only [found] at ok
          refine copies.move ok notDropping ?_ (by simp [captured, phase])
          rintro other rfl
          have held : Holds (textSlots state.active) slot := by
            rcases exists_of_inheritedSlot found with ⟨old, member, -, holds⟩
            exact holds_iff.mpr ⟨old, member, holds⟩
          exact copies.usedTagged slot
            (Or.inl ((assignOk.used slot).mpr (Or.inl held)))
      | none =>
          cases free : nextFreeSlot state.pool freeSlot with
          | some slot =>
              simp only [found, free] at ok
              exact copies.move ok notDropping (by simp [ClaimsTagged])
                (by simp [captured, phase])
          | none =>
              simp only [found, free] at ok
              exact copies.move ok notDropping (by simp [ClaimsTagged])
                (by simp [captured, phase])
  | clearCount slot =>
      have stored :
          CopyInvariant (state.store (.clearCount slot)
            (.assign (rule :: todo) built freeSlot (.tagClaims slot))) := by
        refine copies.store ?_ notDropping (by simp) (by simp)
          (by simp [ClaimsTagged]) (by simp [captured])
        exact ⟨ok.bounded, ok.separated, ok.marked, ok.ownerOk⟩
      exact stored.startCount (by simp [State.store, generation_apply])
  | tagClaims slot => exact copies.startClaims phase
  | clearState slot =>
      refine copies.store ok notDropping (by simp) (by simp) ?_
        (by simp [captured])
      rintro other (impossible | same)
      · simp at impossible
      · exact copies.usedTagged other
          (Or.inr (by simpa [ClaimsTagged, phase] using same))
  | hold slot =>
      refine copies.store ok notDropping (by simp) (by simp) ?_
        (by simp [captured])
      rintro other (same | same)
      · exact copies.usedTagged other
          (Or.inr (by simpa [ClaimsTagged, phase] using same))
      · exact copies.usedTagged other
          (Or.inr (by simpa [ClaimsTagged, phase] using same))
  | hook slot =>
      refine copies.store ok notDropping (by simp) (by simp)
        (by simp [ClaimsTagged]) (by simp [captured])

theorem copyInvariant_releaseStep
    {state : State limit} (copies : CopyInvariant state)
    {slot : SlotId limit} {dropped : Bool} {next : List (RuleCopy limit)}
    (phase : state.owner = .release slot.val dropped next) :
    CopyInvariant (releaseStep state slot dropped next) := by
  have ok := invariant_releaseStep copies.ok phase
  have releaseOk := copies.ok.ownerOk
  simp only [OwnerOk, phase] at releaseOk
  have current := copies.capturedCurrent
  simp only [phase, captured] at current
  unfold releaseStep at ok ⊢
  cases dropped with
  | true =>
      have here := releaseOk.here slot rfl
      simp only [if_true] at here ok ⊢
      have generations : ∀ other,
          ((SlotStore.bump slot).apply state.pool other).generation =
            if slot = other then (state.pool other).generation + 1
            else (state.pool other).generation := by
        simp [generation_apply]
      have used : ∀ other,
          ((SlotStore.bump slot).apply state.pool other).used =
            (state.pool other).used := by
        simp [used_apply]
      refine
        { ok := ok
          issuedTagged := copies.issuedTagged
          issuedStale := ?_
          capturedCurrent := ?_
          claimEra := ?_
          countEra := ?_
          usedTagged := ?_
          held := copies.held
          claimsIssued := copies.claimsIssued
          firedIssued := copies.firedIssued }
      · intro copy member other holds unused _
        simp only [State.store, used, generations] at unused ⊢
        split
        · rename_i same
          subst same
          have tagged := copies.issuedTagged copy member slot holds
          have bound := copies.claimEra slot
          omega
        · rename_i different
          refine copies.issuedStale copy member other holds unused ?_
          simp only [Dropping, phase, and_true]
          exact fun same => different (Fin.ext same.symm)
      · intro copy member other holds
        simp only [State.store, generations]
        have different : slot ≠ other := by
          rintro rfl
          exact here.2 (holds_textSlots.mpr ⟨copy, member, holds⟩)
        simpa [different] using current copy member other holds
      · intro other
        have bound := copies.claimEra other
        simp only [State.store, generations]
        split <;> omega
      · intro other
        have bound := copies.countEra other
        simp only [State.store, generations]
        split <;> omega
      · intro other
        simp only [State.store, generations, used, ClaimsTagged, or_false]
        intro wasUsed
        have different : slot ≠ other := by
          rintro rfl
          rw [here.1] at wasUsed
          exact Bool.false_ne_true wasUsed
        simpa [different] using copies.usedTagged other (Or.inl wasUsed)
  | false =>
      simp only [Bool.false_eq_true, if_false] at ok ⊢
      have notDropping : ∀ other, ¬ Dropping state.owner other := by
        simp [Dropping, phase]
      split
      · rename_i leaving
        simp only [leaving, if_true] at ok
        have generations : ∀ other,
            ((SlotStore.drop slot).apply state.pool other).generation =
              (state.pool other).generation := by
          simp [generation_apply]
        have used : ∀ other,
            ((SlotStore.drop slot).apply state.pool other).used = true →
              (state.pool other).used = true := by
          intro other
          simp only [used_apply, reduceCtorEq, if_false]
          split <;> simp
        refine
          { ok := ok
            issuedTagged := copies.issuedTagged
            issuedStale := ?_
            capturedCurrent := ?_
            claimEra := by
              simpa [State.store, generations] using copies.claimEra
            countEra := by
              simpa [State.store, generations] using copies.countEra
            usedTagged := ?_
            held := copies.held
            claimsIssued := copies.claimsIssued
            firedIssued := copies.firedIssued }
        · intro copy member other holds unused settled
          simp only [State.store, Dropping, and_true] at unused settled
          simp only [State.store, generations]
          have different : slot ≠ other :=
            fun same => settled (congrArg Fin.val same.symm)
          refine copies.issuedStale copy member other holds ?_
            (notDropping other)
          simpa [used_apply, different] using unused
        · intro copy member other holds
          simpa [State.store, generations] using
            current copy member other holds
        · intro other
          simp only [State.store, generations, ClaimsTagged, or_false]
          exact fun stillUsed =>
            copies.usedTagged other (Or.inl (used other stillUsed))
      · rename_i staying
        simp only [staying] at ok
        exact copies.move ok notDropping (by simp [ClaimsTagged])
          (by simp [captured, phase])

theorem copyInvariant_ownerStep
    {state next : State limit} (copies : CopyInvariant state)
    (stepped : ownerStep state = some next) :
    CopyInvariant next := by
  have ok := invariant_ownerStep copies.ok stepped
  have ownerOk := copies.ok.ownerOk
  cases ownerStep_cases stepped with
  | attach rules phase =>
      exact copies.move ok (by simp [Dropping, phase])
        (by simp [ClaimsTagged]) (by simp [captured, phase])
  | capture built freeSlot stage phase =>
      refine
        { ok := ok
          issuedTagged := copies.issuedTagged
          issuedStale := ?_
          capturedCurrent := ?_
          claimEra := copies.claimEra
          countEra := copies.countEra
          usedTagged := ?_
          held := copies.held
          claimsIssued := copies.claimsIssued
          firedIssued := copies.firedIssued }
      · intro copy member slot holds unused _
        exact copies.issuedStale copy member slot holds unused
          (by simp [Dropping, phase])
      · intro copy member slot holds
        simp only [captured, SlotMachine.capture, List.mem_map] at member
        rcases member with ⟨entry, -, rfl⟩
        simp only at holds
        simp [holds]
      · rintro slot (used | impossible)
        · exact copies.usedTagged slot (Or.inl used)
        · simp [ClaimsTagged] at impossible
  | assign rule rest built freeSlot stage phase =>
      exact copyInvariant_assignStep copies phase
  | release slot dropped built phase => exact copyInvariant_releaseStep copies phase
  | released index dropped built phase past =>
      refine copies.move ok ?_ (by simp [ClaimsTagged])
        (by simp [captured, phase])
      intro slot dropping
      simp only [Dropping, phase] at dropping
      exact past (dropping.1 ▸ slot.isLt)
  | publish built phase =>
      simp only [OwnerOk, phase] at ownerOk
      have current := copies.capturedCurrent
      simp only [phase, captured] at current
      have used : ∀ copy ∈ built, ∀ slot, copy.slot = some slot →
          (state.pool slot).used = true := by
        intro copy member slot holds
        exact (ownerOk.2.2 slot).mpr
          (holds_textSlots.mpr ⟨copy, member, holds⟩)
      refine
        { ok := ok
          issuedTagged := ?_
          issuedStale := ?_
          capturedCurrent := by simp [captured]
          claimEra := copies.claimEra
          countEra := copies.countEra
          usedTagged := ?_
          held := fun thread copy inside =>
            List.mem_append_left _ (copies.held thread copy inside)
          claimsIssued := fun copy member =>
            List.mem_append_left _ (copies.claimsIssued copy member)
          firedIssued := fun copy member =>
            List.mem_append_left _ (copies.firedIssued copy member) }
      · intro copy member slot holds
        rcases List.mem_append.mp member with earlier | published
        · exact copies.issuedTagged copy earlier slot holds
        · have tagged :=
            copies.usedTagged slot (Or.inl (used copy published slot holds))
          rw [current copy published slot holds, tagged]
      · intro copy member slot holds unused _
        rcases List.mem_append.mp member with earlier | published
        · exact copies.issuedStale copy earlier slot holds unused
            (by simp [Dropping, phase])
        · rw [used copy published slot holds] at unused
          exact absurd unused (by simp)
      · rintro slot (stillUsed | impossible)
        · exact copies.usedTagged slot (Or.inl stillUsed)
        · simp [ClaimsTagged] at impossible

/-! ## Steps of the threads -/

/-- The copies and eras the ownership part reads are left alone by threads. -/
theorem CopyInvariant.of_ownershipKept
    {state next : State limit} (copies : CopyInvariant state)
    (kept : OwnershipKept state next)
    (held : ∀ thread copy, (next.threads thread).copy = some copy →
      copy ∈ state.history.issued)
    (claims : ∀ copy ∈ next.history.claims, copy ∈ state.history.issued)
    (fired : ∀ copy ∈ next.history.fired, copy ∈ state.history.issued) :
    CopyInvariant next where
  ok := copies.ok.of_ownershipKept kept
  issuedTagged := by simpa [kept.issued, kept.claimEra] using copies.issuedTagged
  issuedStale := by
    simpa [kept.issued, kept.used, kept.owner, kept.generation] using
      copies.issuedStale
  capturedCurrent := by
    simpa [kept.owner, kept.generation] using copies.capturedCurrent
  claimEra := by simpa [kept.claimEra, kept.generation] using copies.claimEra
  countEra := by simpa [kept.countEra, kept.generation] using copies.countEra
  usedTagged := by
    simpa [kept.used, kept.owner, kept.claimEra, kept.generation] using
      copies.usedTagged
  held := by
    simpa [kept.issued] using held
  claimsIssued := by
    simpa [kept.issued] using claims
  firedIssued := by
    simpa [kept.issued] using fired

theorem CopyInvariant.goto
    {state : State limit} (copies : CopyInvariant state)
    {thread : Nat} {pc : FirePc limit}
    (inside : ∀ copy, pc.copy = some copy → copy ∈ state.history.issued) :
    CopyInvariant (state.goto thread pc) := by
  refine copies.of_ownershipKept (ownershipKept_goto state thread pc) ?_
    copies.claimsIssued copies.firedIssued
  intro other copy
  simp only [State.goto, Function.update_apply]
  split
  · exact inside copy
  · exact copies.held other copy

theorem copyInvariant_fireStep
    {state next : State limit} (copies : CopyInvariant state)
    {thread : Nat} (stepped : fireStep state thread = some next) :
    CopyInvariant next := by
  have inside := copies.held thread
  rcases fireStep_cases stepped with
    ⟨pc, rfl, same⟩ | ⟨copy, slot, phase, rfl⟩ | ⟨copy, phase, rfl⟩
  · exact copies.goto fun copy here => inside copy (same copy here)
  · have issued := inside copy (by simp [phase, FirePc.copy])
    refine copies.of_ownershipKept
      (ownershipKept_claim state thread copy slot) ?_ ?_ copies.firedIssued
    · intro other held
      simp only [State.claim, Function.update_apply]
      split
      · simp only [FirePc.copy, Option.some.injEq]
        rintro rfl
        exact issued
      · exact copies.held other held
    · intro claim member
      rcases List.mem_cons.mp member with rfl | earlier
      · exact issued
      · exact copies.claimsIssued claim earlier
  · have issued := inside copy (by simp [phase, FirePc.copy])
    refine copies.of_ownershipKept (ownershipKept_count state thread copy)
      ?_ copies.claimsIssued ?_
    · intro other held
      simp only [State.count, Function.update_apply]
      split
      · simp [FirePc.copy]
      · exact copies.held other held
    · intro fired member
      rcases List.mem_cons.mp member with rfl | earlier
      · exact issued
      · exact copies.firedIssued fired earlier

/-- Every step that stays in the process keeps the invariant. -/
theorem copyInvariant_step
    {state next : State limit} {action : Action limit}
    (copies : CopyInvariant state) (inProcess : action.staysInProcess)
    (stepped : step state action = some next) :
    CopyInvariant next := by
  cases action with
  | reload outcome =>
      have ok := invariant_step copies.ok (by simp) stepped
      obtain ⟨between, ⟨rules, -, rfl⟩ | rfl⟩ := reload_cases stepped
      · exact copies.move ok (by simp [Dropping, between])
          (by simp [ClaimsTagged]) (by simp [captured, between])
      · exact copies
  | owner => exact copyInvariant_ownerStep copies stepped
  | fire thread copy =>
      obtain ⟨-, issued, rfl⟩ := fire_cases stepped
      refine copies.goto ?_
      simp only [FirePc.copy, Option.some.injEq]
      rintro other rfl
      exact issued
  | thread thread => exact copyInvariant_fireStep copies stepped
  | fork => exact inProcess.elim

/-! ## What a step of the reload owner does to the words calls use -/

/-- A step that no thread takes part in. -/
structure CallsKept (state next : State limit) : Prop where
  threads : next.threads = state.threads
  claims : next.history.claims = state.history.claims
  fired : next.history.fired = state.history.fired
  claimants : next.history.claimants = state.history.claimants

/--
A slot after a step of the reload owner: the generation never falls, and the
claim word and the count either stay as they are or start anew under the
generation of a slot that no rule holds.
-/
structure WordsRestart (state next : State limit) (slot : SlotId limit) :
    Prop where
  generation : (state.pool slot).generation ≤ (next.pool slot).generation
  claimed :
    ((next.pool slot).claimed = (state.pool slot).claimed ∧
      next.history.claimEra slot = state.history.claimEra slot) ∨
    ((next.pool slot).claimed =
        chaosHitClaimsNone (state.pool slot).generation ∧
      next.history.claimEra slot = (state.pool slot).generation ∧
      (state.pool slot).used = false ∧ ¬ Dropping state.owner slot)
  count :
    ((next.pool slot).count = (state.pool slot).count ∧
      next.history.countEra slot = state.history.countEra slot) ∨
    ((next.pool slot).count = 0 ∧
      next.history.countEra slot = (state.pool slot).generation ∧
      (state.pool slot).used = false ∧ ¬ Dropping state.owner slot)

theorem wordsRestart_of_pool_eq
    {state next : State limit} (pool : next.pool = state.pool)
    (history : next.history.claimEra = state.history.claimEra ∧
      next.history.countEra = state.history.countEra)
    {slot : SlotId limit} :
    WordsRestart state next slot := by
  constructor
  · rw [pool]
  · exact Or.inl ⟨by rw [pool], by rw [history.1]⟩
  · exact Or.inl ⟨by rw [pool], by rw [history.2]⟩

theorem wordsRestart_store
    {state next : State limit} (store : SlotStore limit)
    (pool : next.pool = store.apply state.pool)
    (history : next.history.claimEra = state.history.claimEra ∧
      next.history.countEra = state.history.countEra)
    (notCount : ∀ slot, store ≠ .clearCount slot)
    (notClaims : ∀ slot, store ≠ .tagClaims slot) {slot : SlotId limit} :
    WordsRestart state next slot := by
  constructor
  · rw [pool, generation_apply]
    split <;> omega
  · refine Or.inl ⟨?_, by rw [history.1]⟩
    rw [pool, claimed_apply, if_neg (notClaims slot)]
  · refine Or.inl ⟨?_, by rw [history.2]⟩
    rw [pool, count_apply, if_neg (notCount slot)]

theorem wordsRestart_assignStep
    {state : State limit} (ok : Invariant state)
    {rule : HitRule} {todo : List HitRule} {built : List (Assigned limit)}
    {freeSlot : Nat} {stage : AssignStage limit}
    (phase : state.owner = .assign (rule :: todo) built freeSlot stage)
    (slot : SlotId limit) :
    WordsRestart state (assignStep state rule todo built freeSlot stage)
      slot := by
  have assignOk := ok.ownerOk
  simp only [OwnerOk, phase] at assignOk
  have stageOk := assignOk.stageOk rule (by simp)
  have notDropping : ¬ Dropping state.owner slot := by
    simp [Dropping, phase]
  cases stage with
  | pick =>
      simp only [assignStep]
      split
      · exact wordsRestart_of_pool_eq (by rfl) ⟨by rfl, by rfl⟩
      · split
        · exact wordsRestart_of_pool_eq (by rfl) ⟨by rfl, by rfl⟩
        · exact wordsRestart_of_pool_eq (by rfl) ⟨by rfl, by rfl⟩
  | clearCount cleared =>
      constructor
      · simp [assignStep, State.store, generation_apply]
      · simp [assignStep, State.store, claimed_apply]
      · by_cases same : cleared = slot
        · subst same
          right
          simp [assignStep, State.store, count_apply, stageOk.2, notDropping]
        · left
          simp [assignStep, State.store, count_apply, same, Ne.symm same]
  | tagClaims tagged =>
      constructor
      · simp [assignStep, State.store, generation_apply]
      · by_cases same : tagged = slot
        · subst same
          right
          simp [assignStep, State.store, claimed_apply, stageOk.2, notDropping]
        · left
          simp [assignStep, State.store, claimed_apply, same, Ne.symm same]
      · simp [assignStep, State.store, count_apply]
  | clearState cleared =>
      exact wordsRestart_store (.clearState cleared) (by rfl) ⟨by rfl, by rfl⟩
        (by simp) (by simp)
  | hold held =>
      exact wordsRestart_store (.hold held) (by rfl) ⟨by rfl, by rfl⟩
        (by simp) (by simp)
  | hook hooked =>
      exact wordsRestart_store (.hook hooked) (by rfl) ⟨by rfl, by rfl⟩
        (by simp) (by simp)

theorem callsKept_assignStep
    (state : State limit) (rule : HitRule) (todo : List HitRule)
    (built : List (Assigned limit)) (freeSlot : Nat)
    (stage : AssignStage limit) :
    CallsKept state (assignStep state rule todo built freeSlot stage) := by
  cases stage with
  | pick =>
      simp only [assignStep]
      split
      · constructor <;> rfl
      · split <;> constructor <;> rfl
  | clearCount slot => constructor <;> rfl
  | tagClaims slot => constructor <;> rfl
  | clearState slot => constructor <;> rfl
  | hold slot => constructor <;> rfl
  | hook slot => constructor <;> rfl

/-- What the calls in progress see of a step of the reload owner. -/
theorem words_of_ownerStep
    {state next : State limit} (ok : Invariant state)
    (stepped : ownerStep state = some next) :
    CallsKept state next ∧ ∀ slot, WordsRestart state next slot := by
  cases ownerStep_cases stepped with
  | attach | capture | released | publish =>
      exact ⟨by constructor <;> rfl,
        fun _ => wordsRestart_of_pool_eq (by rfl) ⟨by rfl, by rfl⟩⟩
  | assign rule rest built freeSlot stage phase =>
      exact ⟨callsKept_assignStep state rule rest built freeSlot stage,
        wordsRestart_assignStep ok phase⟩
  | release slot dropped built phase =>
      unfold releaseStep
      split
      · exact ⟨by constructor <;> rfl,
          fun _ =>
            wordsRestart_store (.bump _) (by rfl) ⟨by rfl, by rfl⟩ (by simp) (by simp)⟩
      · split
        · exact ⟨by constructor <;> rfl,
            fun _ =>
              wordsRestart_store (.drop _) (by rfl) ⟨by rfl, by rfl⟩
                (by simp) (by simp)⟩
        · exact ⟨by constructor <;> rfl,
            fun _ => wordsRestart_of_pool_eq (by rfl) ⟨by rfl, by rfl⟩⟩

end ChaosLibs.Common.FireInvariant
