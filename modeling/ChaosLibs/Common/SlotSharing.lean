import ChaosLibs.Common.SlotInvariant

/-!
# Slots across reloads and forks

Consequences of the structural invariant for the published snapshots: which
rules share a slot, which slots are used between reloads, and what a reload
leaves of a rule that survives it.
-/

namespace ChaosLibs.Common.SlotSharing

open ChaosLibs.Machine
open ChaosLibs.Common.CString
open ChaosLibs.Common.HitSlots
open ChaosLibs.Common.SlotMachine
open ChaosLibs.Common.SlotInvariant

variable {limit : Nat}

/-! ## Runs within one process -/

/-- The structural invariant holds along every run without forks. -/
theorem invariant_of_noFork
    {state final : State limit} {labels : List (Action limit)}
    (ok : Invariant state)
    (within : ∀ label ∈ labels, label.staysInProcess)
    (ran : run step state labels = some final) :
    Invariant final := by
  have throughout : Throughout step Invariant state labels := by
    refine throughout_of_preserved ?_ within ok
    intro before action after stays holds stepped
    refine invariant_step holds ?_ stepped
    rintro rfl
    exact stays.elim
  exact throughout.final ran

/-! ## Forks at any step of a reload -/

/--
Between reloads every rule of the active snapshot holds a slot, rules with
different texts hold different ones, and a slot is marked used exactly when
some rule of the active snapshot holds it.
-/
def SlotsAgree (state : State limit) : Prop :=
  state.owner = .idle →
    (∀ rule ∈ state.active, rule.slot ≠ none) ∧
      (∀ left ∈ state.active, ∀ right ∈ state.active,
        left.text ≠ right.text → left.slot ≠ right.slot) ∧
      ∀ slot, (state.pool slot).used = true ↔
        ∃ rule ∈ state.active, rule.slot = some slot

theorem holds_textSlots
    {rules : List (RuleCopy limit)} {slot : SlotId limit} :
    Holds (textSlots rules) slot ↔ ∃ rule ∈ rules, rule.slot = some slot := by
  simp [holds_iff, textSlots]

theorem slotsAgree_of_invariant
    {state : State limit} (ok : Invariant state) : SlotsAgree state := by
  intro between
  have ownerOk := ok.ownerOk
  simp only [OwnerOk, between] at ownerOk
  refine ⟨?_, ?_, ?_⟩
  · intro rule member
    exact ok.separated.held ⟨rule.text, rule.slot⟩
      (List.mem_map.mpr ⟨rule, member, rfl⟩)
  · intro left leftMember right rightMember
    exact ok.separated.distinct
      ⟨left.text, left.slot⟩ (List.mem_map.mpr ⟨left, leftMember, rfl⟩)
      ⟨right.text, right.slot⟩ (List.mem_map.mpr ⟨right, rightMember, rfl⟩)
  · intro slot
    rw [ownerOk slot, holds_textSlots]

/-- Along every run the slots agree between reloads exactly when every fork is safe. -/
theorem slotsAgree_throughout_iff
    (labels : List (Action limit)) :
    Throughout step SlotsAgree (initial limit) labels ↔
      Meets step (fun state action => action = .fork → ForkSafe state)
        (initial limit) labels := by
  have within : ∀ label ∈ labels, True := fun _ _ => trivial
  refine throughout_iff_meets ?_ ?_ ?_ within (invariant_initial limit)
  · intro state action next _ ok safe stepped
    exact invariant_step ok safe stepped
  · intro state ok
    exact slotsAgree_of_invariant ok
  · intro state action next _ ok inWindow stepped agree
    push Not at inWindow
    rcases inWindow with ⟨rfl, inWindow⟩
    simp only [step, Option.some.injEq] at stepped
    subst stepped
    rw [forkSafe_iff ok] at inWindow
    push Not at inWindow
    rcases inWindow with ⟨slot, held, unused⟩
    have childUsed := ((agree rfl).2.2 slot).mpr (holds_textSlots.mp held)
    exact unused ((used_forked state slot).mp childUsed).1

/--
A reload that drops the only rule is cut by a fork after it has released the
rule's slot; the child then loads a file that adds a rule before the old one.
-/
def forkInWindow : List (Action 256) :=
  .reload (.accepted ⟨[⟨bytes "/a:open:EIO:1.0", 0⟩], by decide⟩) ::
    List.replicate 522 .owner ++
  .reload (.accepted ⟨[⟨bytes "/c:open:EIO:1.0", 0⟩], by decide⟩) ::
    List.replicate 10 .owner ++
  .fork ::
  .reload
      (.accepted
        ⟨[⟨bytes "/b:open:EIO:1.0", 0⟩, ⟨bytes "/a:open:EIO:1.0", 0⟩],
          by decide⟩) ::
    List.replicate 525 .owner

/-- The child's rules have different texts and one slot. -/
theorem forkInWindow_shares_slot :
    ∃ final, run step (initial 256) forkInWindow = some final ∧
      final.owner = .idle ∧
      final.active =
        [⟨bytes "/b:open:EIO:1.0", 0, some 0, 2⟩,
          ⟨bytes "/a:open:EIO:1.0", 0, some 0, 2⟩] ∧
      ¬ SlotsAgree final := by
  have ended :
      (run step (initial 256) forkInWindow).map
          (fun final => (final.owner, final.active)) =
        some (.idle,
          [⟨bytes "/b:open:EIO:1.0", 0, some 0, 2⟩,
            ⟨bytes "/a:open:EIO:1.0", 0, some 0, 2⟩]) := by
    decide +kernel
  rcases Option.map_eq_some_iff.mp ended with ⟨final, ran, values⟩
  rcases Prod.mk.inj values with ⟨owner, active⟩
  refine ⟨final, ran, owner, active, ?_⟩
  intro agree
  have distinct := (agree owner).2.1
  rw [active] at distinct
  exact distinct _ List.mem_cons_self _
    (List.mem_cons_of_mem _ List.mem_cons_self) (by decide) rfl

/-! ## Rules with one text -/

/-- All rules of the active snapshot with one text hold one slot. -/
def SharesSlots (state : State limit) : Prop :=
  ∀ left ∈ state.active, ∀ right ∈ state.active,
    left.text = right.text → left.slot = right.slot

/-- A text that occurs twice in the list is the text of an active rule. -/
def RepeatsOnlyActive (active : List (TextSlot limit))
    (rules : List (TextSlot limit)) : Prop :=
  rules.Pairwise fun left right =>
    left.text = right.text → ∃ rule ∈ active, rule.text = left.text

/--
Condition on a publication: no text that the active snapshot lacks occurs
twice in the snapshot about to be published.
-/
def PublishesKnownRepeats (state : State limit) (action : Action limit) : Prop :=
  action = .owner → ∀ next, state.owner = .publish next →
    RepeatsOnlyActive (textSlots state.active) (textSlots next)

theorem Derived.shares_iff
    {active built : List (TextSlot limit)} (derived : Derived active built)
    (separated : Separated active) :
    (∀ left ∈ built, ∀ right ∈ built,
        left.text = right.text → left.slot = right.slot) ↔
      RepeatsOnlyActive active built := by
  constructor
  · intro shares
    refine derived.apart.imp_of_mem ?_
    intro left right leftMember rightMember apart same
    by_contra unknown
    have missing : inheritedSlot active left.text = none := by
      cases found : inheritedSlot active left.text with
      | none => rfl
      | some slot =>
          rcases exists_of_inheritedSlot found with ⟨rule, member, text, -⟩
          exact absurd ⟨rule, member, text⟩ unknown
    exact apart missing (same ▸ missing)
      (shares left leftMember right rightMember same)
  · intro repeats left leftMember right rightMember same
    cases found : inheritedSlot active left.text with
    | some slot =>
        rw [derived.inherits left leftMember slot found,
          derived.inherits right rightMember slot (same ▸ found)]
    | none =>
        by_contra different
        have symmetric : Std.Symm fun left right : TextSlot limit =>
            left.text = right.text →
              ∃ rule ∈ active, rule.text = left.text :=
          ⟨fun first second known equal => by
            rw [equal]
            exact known equal.symm⟩
        have apart : left ≠ right := fun equal => different (equal ▸ rfl)
        rcases repeats.forall leftMember rightMember apart same with
          ⟨rule, member, text⟩
        exact separated.text_not_mem_of_inheritedSlot found member text

theorem sharesSlots_iff_textSlots
    {rules : List (RuleCopy limit)} :
    (∀ left ∈ rules, ∀ right ∈ rules,
        left.text = right.text → left.slot = right.slot) ↔
      ∀ left ∈ textSlots rules, ∀ right ∈ textSlots rules,
        left.text = right.text → left.slot = right.slot := by
  simp [textSlots]

/-- A step that publishes nothing keeps the active snapshot. -/
theorem active_of_step
    {state next : State limit} {action : Action limit}
    (stepped : step state action = some next)
    (silent : action = .owner → ∀ built, state.owner ≠ .publish built) :
    next.active = state.active := by
  cases action with
  | reload outcome =>
      obtain ⟨-, ⟨rules, -, rfl⟩ | rfl⟩ := reload_cases stepped
      · rfl
      · rfl
  | owner =>
      cases ownerStep_cases stepped with
      | attach | capture | released => rfl
      | assign rule rest built freeSlot stage phase =>
          exact active_assignStep state rule rest built freeSlot stage
      | release slot dropped built phase =>
          exact active_releaseStep state slot dropped built
      | publish built phase => exact absurd phase (silent rfl built)
  | fire thread copy =>
      obtain ⟨-, -, rfl⟩ := fire_cases stepped
      rfl
  | thread thread =>
      exact (ownershipKept_fireStep stepped).active
  | fork =>
      simp only [step, Option.some.injEq] at stepped
      exact stepped ▸ rfl

/-- The structural invariant with the sharing of the active snapshot. -/
structure SharingInvariant (state : State limit) : Prop where
  ok : Invariant state
  shares : SharesSlots state

/--
Within one process every published snapshot gives rules with one text one
slot exactly when no publication repeats a text that the snapshot it replaces
lacks.
-/
theorem sharesSlots_throughout_iff
    (labels : List (Action limit))
    (within : ∀ label ∈ labels, label.staysInProcess) :
    Throughout step SharesSlots (initial limit) labels ↔
      Meets step PublishesKnownRepeats (initial limit) labels := by
  have start : SharingInvariant (initial limit) :=
    ⟨invariant_initial limit, by simp [SharesSlots, initial]⟩
  refine throughout_iff_meets
    ?_ ?_ ?_ within start
  · rintro state action next stays ⟨ok, shares⟩ known stepped
    have nextOk : Invariant next := by
      refine invariant_step ok ?_ stepped
      rintro rfl
      exact stays.elim
    refine ⟨nextOk, ?_⟩
    by_cases publishes : action = .owner ∧ ∃ built, state.owner = .publish built
    · rcases publishes with ⟨rfl, built, phase⟩
      have ownerOk := ok.ownerOk
      simp only [OwnerOk, phase] at ownerOk
      simp only [step, ownerStep, phase, Option.some.injEq] at stepped
      subst stepped
      exact sharesSlots_iff_textSlots.mpr
        ((Derived.shares_iff ownerOk.2.1 ok.separated).mpr
          (known rfl built phase))
    · have same : next.active = state.active := by
        refine active_of_step stepped ?_
        intro owner built phase
        exact publishes ⟨owner, built, phase⟩
      unfold SharesSlots
      rw [same]
      exact shares
  · intro state sharing
    exact sharing.shares
  · rintro state action next - ⟨ok, -⟩ unknown stepped shares
    unfold PublishesKnownRepeats at unknown
    push Not at unknown
    rcases unknown with ⟨rfl, built, phase, repeats⟩
    have ownerOk := ok.ownerOk
    simp only [OwnerOk, phase] at ownerOk
    simp only [step, ownerStep, phase, Option.some.injEq] at stepped
    subst stepped
    exact repeats
      ((Derived.shares_iff ownerOk.2.1 ok.separated).mp
        (sharesSlots_iff_textSlots.mp shares))

/-- One reload of a file that holds a new line twice. -/
def repeatedLine : List (Action 256) :=
  .reload
      (.accepted
        ⟨[⟨bytes "/a:open:EIO:1.0", 0⟩, ⟨bytes "/a:open:EIO:1.0", 0⟩],
          by decide⟩) ::
    List.replicate 528 .owner

theorem repeatedLine_separates_slots :
    (∀ label ∈ repeatedLine, label.staysInProcess) ∧
      ∃ final, run step (initial 256) repeatedLine = some final ∧
        final.owner = .idle ∧
        final.active =
          [⟨bytes "/a:open:EIO:1.0", 0, some 0, 1⟩,
            ⟨bytes "/a:open:EIO:1.0", 0, some 1, 1⟩] ∧
        ¬ SharesSlots final := by
  refine ⟨by decide +kernel, ?_⟩
  have ended :
      (run step (initial 256) repeatedLine).map
          (fun final => (final.owner, final.active)) =
        some (.idle,
          [⟨bytes "/a:open:EIO:1.0", 0, some 0, 1⟩,
            ⟨bytes "/a:open:EIO:1.0", 0, some 1, 1⟩]) := by
    decide +kernel
  rcases Option.map_eq_some_iff.mp ended with ⟨final, ran, values⟩
  rcases Prod.mk.inj values with ⟨owner, active⟩
  refine ⟨final, ran, owner, active, ?_⟩
  intro shares
  rw [SharesSlots, active] at shares
  have same := shares _ List.mem_cons_self _
    (List.mem_cons_of_mem _ List.mem_cons_self) rfl
  exact absurd same (by decide)

theorem sharesSlots_throughout_iff_repeatedLine :
    (∀ label ∈ repeatedLine, label.staysInProcess) ∧
      (Throughout step SharesSlots (initial 256) repeatedLine ↔
        Meets step PublishesKnownRepeats (initial 256) repeatedLine) := by
  have within : ∀ label ∈ repeatedLine, label.staysInProcess := by
    decide +kernel
  exact ⟨within, sharesSlots_throughout_iff repeatedLine within⟩

end ChaosLibs.Common.SlotSharing
