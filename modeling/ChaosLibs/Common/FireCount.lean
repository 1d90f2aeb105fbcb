import ChaosLibs.Common.FireBudget
import ChaosLibs.Common.FireInvariant

/-!
# The hit count of a slot

Under one ownership a slot counts the successful calls made with copies of
that ownership, as long as no call counts its hit late: after the slot it
checked was released and cleared for another rule.  `chaos_policy_fire`
checks the generation and counts in separate steps, and only a rule with
`@first` checks the ownership again in between, so a late count is possible
and lands on the slot's next owner.
-/

namespace ChaosLibs.Common.FireCount

open ChaosLibs.Machine
open ChaosLibs.Common.CString
open ChaosLibs.Common.HitSlots
open ChaosLibs.Common.SlotMachine
open ChaosLibs.Common.SlotInvariant
open ChaosLibs.Common.FireInvariant

variable {limit : Nat}

/-- The copy is one of the generation of the slot. -/
def isOwnCopy
    (slot : SlotId limit) (generation : Nat) (copy : RuleCopy limit) : Bool :=
  copy.slot == some slot && copy.generation == generation

theorem isOwnCopy_iff
    {slot : SlotId limit} {generation : Nat} {copy : RuleCopy limit} :
    isOwnCopy slot generation copy = true ↔
      copy.slot = some slot ∧ copy.generation = generation := by
  simp [isOwnCopy]

/-- The calls that counted a hit with a copy of the slot generation. -/
def firesOf
    (fired : List (RuleCopy limit)) (slot : SlotId limit) (generation : Nat) :
    Nat :=
  fired.countP (isOwnCopy slot generation)

/-- The count was last cleared for the slot's current owner. -/
def Owned (state : State limit) (slot : SlotId limit) : Prop :=
  state.history.countEra slot = (state.pool slot).generation

/--
A slot cleared for its current owner shows the number of successful calls with
copies of that ownership, in its 64-bit word.
-/
def CountsOwnFires (state : State limit) : Prop :=
  ∀ slot, Owned state slot →
    (state.pool slot).count =
      firesOf state.history.fired slot (state.pool slot).generation % 2 ^ 64

/-- A hit is counted while its slot still has, or no longer has, the copy's owner. -/
def CountsInTime (state : State limit) (action : Action limit) : Prop :=
  ∀ thread copy slot, action = .thread thread →
    state.threads thread = .record copy → copy.slot = some slot →
      Owned state slot → copy.generation = (state.pool slot).generation

/-- The invariant behind the counts. -/
structure CountInvariant (state : State limit) : Prop where
  copies : CopyInvariant state
  counts : CountsOwnFires state

theorem countInvariant_initial (limit : Nat) :
    CountInvariant (initial limit) where
  copies := copyInvariant_initial limit
  counts := by
    intro slot _
    simp [initial, chaosHitsPoolReset, HitSlot.reset, HitSlot.zero, firesOf]

theorem firesOf_cons
    (copy : RuleCopy limit) (fired : List (RuleCopy limit))
    (slot : SlotId limit) (generation : Nat) :
    firesOf (copy :: fired) slot generation =
      firesOf fired slot generation +
        if isOwnCopy slot generation copy = true then 1 else 0 := by
  simp only [firesOf, List.countP_cons]

/-- No call has counted a hit for a generation no copy carries yet. -/
theorem firesOf_eq_zero
    {fired : List (RuleCopy limit)} {slot : SlotId limit} {generation : Nat}
    (older : ∀ copy ∈ fired, copy.slot = some slot →
      copy.generation < generation) :
    firesOf fired slot generation = 0 := by
  refine List.countP_eq_zero.mpr fun copy member same => ?_
  rcases isOwnCopy_iff.mp same with ⟨holds, current⟩
  have before := older copy member holds
  omega

/-- Reload steps clear the count of a slot for an owner no call has fired for. -/
theorem CountInvariant.of_ownerStep
    {state next : State limit} (counted : CountInvariant state)
    (copies : CopyInvariant next) (stepped : ownerStep state = some next) :
    CountInvariant next := by
  rcases words_of_ownerStep counted.copies.ok stepped with ⟨kept, restart⟩
  refine ⟨copies, ?_⟩
  intro slot owned
  have grown := (restart slot).generation
  rw [kept.fired]
  rcases (restart slot).count with ⟨word, era⟩ | ⟨word, era, unused, settled⟩
  · have bound := counted.copies.countEra slot
    have same : (next.pool slot).generation = (state.pool slot).generation := by
      unfold Owned at owned
      omega
    rw [word, same]
    refine counted.counts slot ?_
    unfold Owned at owned ⊢
    rw [← era, owned, same]
  · have same : (next.pool slot).generation = (state.pool slot).generation := by
      unfold Owned at owned
      omega
    have older : ∀ copy ∈ state.history.fired, copy.slot = some slot →
        copy.generation < (state.pool slot).generation := by
      intro copy member holds
      have issued := counted.copies.firedIssued copy member
      exact counted.copies.issuedStale copy issued slot holds unused settled
    rw [word, same, firesOf_eq_zero older, Nat.zero_mod]

/-- A step that counts nothing and leaves counts and eras alone. -/
theorem CountInvariant.of_countsKept
    {state next : State limit} (counted : CountInvariant state)
    (copies : CopyInvariant next) (kept : OwnershipKept state next)
    (fired : next.history.fired = state.history.fired)
    (counts : ∀ slot, (next.pool slot).count = (state.pool slot).count) :
    CountInvariant next := by
  refine ⟨copies, ?_⟩
  intro slot owned
  simp only [Owned, kept.countEra, kept.generation] at owned
  rw [counts slot, fired, kept.generation slot]
  exact counted.counts slot owned

theorem count_count
    {state : State limit} {thread : Nat} {copy : RuleCopy limit}
    {slot : SlotId limit} :
    ((state.count thread copy).pool slot).count =
      if copy.slot = some slot then ((state.pool slot).count + 1) % 2 ^ 64
      else (state.pool slot).count := by
  cases held : copy.slot with
  | none => simp [State.count, held]
  | some other =>
      simp only [State.count, held, Pool.modify_apply, Option.some.injEq]
      by_cases same : slot = other
      · simp [same]
      · simp [same, Ne.symm same]

theorem count_claim
    {state : State limit} {thread : Nat} {copy : RuleCopy limit}
    {slot other : SlotId limit} :
    ((state.claim thread copy slot).pool other).count =
      (state.pool other).count := by
  simp only [State.claim, Pool.modify_apply]
  split <;> rfl

/-- A hit counted in time joins the count and the fires of the same ownership. -/
theorem CountInvariant.count
    {state : State limit} (counted : CountInvariant state)
    {thread : Nat} {copy : RuleCopy limit}
    (copies : CopyInvariant (state.count thread copy))
    (inTime : ∀ slot, copy.slot = some slot → Owned state slot →
      copy.generation = (state.pool slot).generation) :
    CountInvariant (state.count thread copy) := by
  have kept := ownershipKept_count state thread copy
  refine ⟨copies, ?_⟩
  intro slot owned
  simp only [Owned, kept.countEra, kept.generation] at owned
  have before := counted.counts slot owned
  have fired : (state.count thread copy).history.fired =
      copy :: state.history.fired :=
    rfl
  rw [count_count, fired, firesOf_cons, kept.generation slot]
  by_cases holds : copy.slot = some slot
  · have own : isOwnCopy slot (state.pool slot).generation copy = true :=
      isOwnCopy_iff.mpr ⟨holds, inTime slot holds owned⟩
    rw [if_pos holds, if_pos own, before]
    omega
  · have other : ¬ isOwnCopy slot (state.pool slot).generation copy = true := by
      rw [isOwnCopy_iff]
      exact fun same => holds same.1
    rw [if_neg holds, if_neg other, before, Nat.add_zero]

theorem countInvariant_step
    {state next : State limit} {action : Action limit}
    (counted : CountInvariant state) (stays : action.staysInProcess)
    (inTime : CountsInTime state action)
    (stepped : step state action = some next) :
    CountInvariant next := by
  have copies := copyInvariant_step counted.copies stays stepped
  cases action with
  | reload outcome =>
      obtain ⟨-, ⟨rules, -, rfl⟩ | rfl⟩ := reload_cases stepped
      · exact ⟨copies, counted.counts⟩
      · exact counted
  | owner => exact counted.of_ownerStep copies stepped
  | fire thread copy =>
      obtain ⟨-, -, rfl⟩ := fire_cases stepped
      exact ⟨copies, counted.counts⟩
  | thread thread =>
      rcases fireStep_cases stepped with
        ⟨pc, rfl, -⟩ | ⟨copy, slot, -, rfl⟩ | ⟨copy, phase, rfl⟩
      · exact ⟨copies, counted.counts⟩
      · exact counted.of_countsKept copies
          (ownershipKept_claim state thread copy slot) rfl
          fun other => count_claim
      · exact counted.count copies fun slot holds owned =>
          inTime thread copy slot rfl phase holds owned
  | fork => exact stays.elim

/-- A late hit is counted against an owner it was not fired for. -/
theorem not_countsOwnFires_of_late
    {state next : State limit} {action : Action limit}
    (counted : CountInvariant state) (late : ¬ CountsInTime state action)
    (stepped : step state action = some next) :
    ¬ CountsOwnFires next := by
  unfold CountsInTime at late
  push Not at late
  rcases late with ⟨thread, copy, slot, rfl, phase, holds, owned, stale⟩
  simp only [step, fireStep, phase, Option.some.injEq] at stepped
  subst stepped
  have kept := ownershipKept_count state thread copy
  have before := counted.counts slot owned
  intro counts
  have after := counts slot (by
    simpa only [Owned, kept.countEra, kept.generation] using owned)
  have fired : (state.count thread copy).history.fired =
      copy :: state.history.fired :=
    rfl
  have other : ¬ isOwnCopy slot (state.pool slot).generation copy = true := by
    rw [isOwnCopy_iff]
    exact fun same => stale same.2
  rw [count_count, if_pos holds, fired, firesOf_cons, kept.generation slot,
    if_neg other, before] at after
  omega

/--
Within one process the count of every owned slot is the number of its owner's
successful calls exactly as long as every hit is counted in time.
-/
theorem countsOwnFires_throughout_iff
    (labels : List (Action limit))
    (within : ∀ label ∈ labels, label.staysInProcess) :
    Throughout step CountsOwnFires (initial limit) labels ↔
      Meets step CountsInTime (initial limit) labels := by
  refine throughout_iff_meets ?_ ?_ ?_ within (countInvariant_initial limit)
  · intro state action next stays counted inTime stepped
    exact countInvariant_step counted stays inTime stepped
  · intro state counted
    exact counted.counts
  · intro state action next _ counted late stepped
    exact not_countsOwnFires_of_late counted late stepped

/-! ## A late hit -/

theorem openA_bounded :
    ([⟨bytes "/a:open:EIO:1.0", 0⟩] : List HitRule).length ≤ 256 := by
  decide

theorem openC_bounded :
    ([⟨bytes "/c:open:EIO:1.0", 0⟩] : List HitRule).length ≤ 256 := by
  decide

/--
A thread passes the generation check with a copy of the first rule; two
reloads release the rule's slot and give it to another rule; the thread then
counts its hit.
-/
def lateHit : List (Action 256) :=
  .reload (.accepted ⟨[⟨bytes "/a:open:EIO:1.0", 0⟩], openA_bounded⟩) ::
    List.replicate 522 .owner ++
  [.fire 0 ⟨bytes "/a:open:EIO:1.0", 0, some 0, 1⟩, .thread 0] ++
  .reload .missing :: List.replicate 517 .owner ++
  .reload (.accepted ⟨[⟨bytes "/c:open:EIO:1.0", 0⟩], openC_bounded⟩) ::
    List.replicate 522 .owner ++
  [.thread 0]

theorem lateHit_counts_against_next_owner :
    (∀ label ∈ lateHit, label.staysInProcess) ∧
      ∃ final, run step (initial 256) lateHit = some final ∧
        final.owner = .idle ∧
        final.active = [⟨bytes "/c:open:EIO:1.0", 0, some 0, 2⟩] ∧
        (final.pool 0).count = 1 ∧
        firesOf final.history.fired 0 2 = 0 ∧
        ¬ CountsOwnFires final := by
  refine ⟨by decide +kernel, ?_⟩
  have ended :
      (run step (initial 256) lateHit).map
        (fun final =>
          (final.owner, final.active, (final.pool 0).count,
            firesOf final.history.fired 0 2,
            final.history.countEra 0, (final.pool 0).generation)) =
        some (.idle, [⟨bytes "/c:open:EIO:1.0", 0, some 0, 2⟩], 1, 0, 2, 2) := by
    decide +kernel
  rcases Option.map_eq_some_iff.mp ended with ⟨final, ran, values⟩
  simp only [Prod.mk.injEq] at values
  rcases values with ⟨owner, active, count, fires, era, generation⟩
  refine ⟨final, ran, owner, active, count, fires, ?_⟩
  intro counts
  have shown := counts 0 (by rw [Owned, era, generation])
  rw [count, generation, fires] at shown
  exact absurd shown (by decide)

theorem countsOwnFires_throughout_iff_lateHit :
    (∀ label ∈ lateHit, label.staysInProcess) ∧
      (Throughout step CountsOwnFires (initial 256) lateHit ↔
        Meets step CountsInTime (initial 256) lateHit) := by
  have within : ∀ label ∈ lateHit, label.staysInProcess := by
    decide +kernel
  exact ⟨within, countsOwnFires_throughout_iff lateHit within⟩

end ChaosLibs.Common.FireCount
