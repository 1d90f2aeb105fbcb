import ChaosLibs.Common.FireInvariant
import Mathlib.Data.List.Nodup

/-!
# The `@first` allowance

Within one process, the calls of `chaos_policy_fire` that succeed with copies
of one slot generation never outnumber the `@first` of the copies, and a copy
of an older generation leaves the claim word of the slot's newer owner alone.

The claim word carries 32 bits of the generation, so the compare-and-swap of
a claim tells two generations apart only while they are less than `2 ^ 32`
apart (`ClaimsClose`).
-/

namespace ChaosLibs.Common.FireBudget

open ChaosLibs.Machine
open ChaosLibs.Common.CString
open ChaosLibs.Common.HitSlots
open ChaosLibs.Common.SlotMachine
open ChaosLibs.Common.SlotInvariant
open ChaosLibs.Common.FireInvariant

variable {limit : Nat}

/-! ## Counting calls -/

/-- The copy is one of the generation of the slot, under `@first=first`. -/
def isCopyOf
    (slot : SlotId limit) (generation first : Nat) (copy : RuleCopy limit) :
    Bool :=
  copy.slot == some slot && copy.generation == generation &&
    copy.first == first

theorem isCopyOf_iff
    {slot : SlotId limit} {generation first : Nat} {copy : RuleCopy limit} :
    isCopyOf slot generation first copy = true ↔
      copy.slot = some slot ∧ copy.generation = generation ∧
        copy.first = first := by
  simp [isCopyOf, and_assoc]

/-- The calls among `copies` made with copies of one slot generation. -/
def callsOf
    (copies : List (RuleCopy limit)) (slot : SlotId limit)
    (generation first : Nat) : Nat :=
  copies.countP (isCopyOf slot generation first)

/-- The copy with which a thread is about to count a hit. -/
def recording : FirePc limit → Option (RuleCopy limit)
  | .record copy => some copy
  | _ => none

/-- The thread is about to count a hit with a copy of the slot generation. -/
def recordsOf
    (threads : Nat → FirePc limit) (slot : SlotId limit)
    (generation first : Nat) (thread : Nat) : Bool :=
  (recording (threads thread)).any (isCopyOf slot generation first)

/-- A claim of the copy goes through the claim word of a slot. -/
def Claims (copy : RuleCopy limit) : Prop :=
  copy.first ≠ 0 ∧ copy.slot ≠ none

/-- Where the claim loop stands, its copy claims the slot at hand. -/
def ClaimLoopOk : FirePc limit → Prop
  | .load copy slot => copy.slot = some slot ∧ copy.first ≠ 0
  | .swap copy slot claimed =>
      copy.slot = some slot ∧ copy.first ≠ 0 ∧
        claimRefused copy claimed = false
  | _ => True

/--
Every claim that has been made either belongs to a call that succeeded or to
a thread that is about to count its hit.
-/
structure ClaimBalance (state : State limit) : Prop where
  loops : ∀ thread, ClaimLoopOk (state.threads thread)
  distinct : state.history.claimants.Nodup
  claimants : ∀ thread, thread ∈ state.history.claimants ↔
    ∃ copy, recording (state.threads thread) = some copy ∧ Claims copy
  balance : ∀ slot generation first, first ≠ 0 →
    callsOf state.history.claims slot generation first =
      callsOf state.history.fired slot generation first +
        state.history.claimants.countP
          (recordsOf state.threads slot generation first)

theorem claimBalance_initial (limit : Nat) :
    ClaimBalance (initial limit) := by
  constructor <;> simp [initial, ClaimLoopOk, recording, callsOf]

theorem ClaimBalance.of_callsKept
    {state next : State limit} (balanced : ClaimBalance state)
    (kept : CallsKept state next) :
    ClaimBalance next where
  loops := by simpa only [kept.threads] using balanced.loops
  distinct := by simpa only [kept.claimants] using balanced.distinct
  claimants := by
    simpa only [kept.claimants, kept.threads] using balanced.claimants
  balance := by
    simpa only [kept.claims, kept.fired, kept.claimants, kept.threads] using
      balanced.balance

theorem recordsOf_update_of_ne
    {threads : Nat → FirePc limit} {slot : SlotId limit}
    {generation first thread other : Nat} {pc : FirePc limit}
    (different : other ≠ thread) :
    recordsOf (Function.update threads thread pc) slot generation first other =
      recordsOf threads slot generation first other := by
  simp [recordsOf, different]

/-- Threads outside the list do not matter to a count over it. -/
theorem countP_recordsOf_update
    {threads : Nat → FirePc limit} {claimants : List Nat} {thread : Nat}
    (outside : thread ∉ claimants) (pc : FirePc limit) (slot : SlotId limit)
    (generation first : Nat) :
    claimants.countP
        (recordsOf (Function.update threads thread pc) slot generation first) =
      claimants.countP (recordsOf threads slot generation first) := by
  refine List.countP_congr fun other member => ?_
  have different : other ≠ thread := by
    rintro rfl
    exact outside member
  rw [recordsOf_update_of_ne different]

/-- A thread that moves without counting a hit, and towards none with a claim. -/
theorem ClaimBalance.goto
    {state : State limit} (balanced : ClaimBalance state)
    {thread : Nat} {pc : FirePc limit} (loop : ClaimLoopOk pc)
    (before : recording (state.threads thread) = none)
    (after : ∀ copy, recording pc = some copy → ¬ Claims copy) :
    ClaimBalance (state.goto thread pc) := by
  have outside : thread ∉ state.history.claimants := by
    rw [balanced.claimants]
    simp [before]
  refine
    { loops := ?_
      distinct := balanced.distinct
      claimants := ?_
      balance := ?_ }
  · intro other
    simp only [State.goto, Function.update_apply]
    split
    · exact loop
    · exact balanced.loops other
  · intro other
    by_cases same : other = thread
    · subst same
      simp only [State.goto, Function.update_self, iff_false_left outside]
      rintro ⟨copy, records, claims⟩
      exact after copy records claims
    · simpa [State.goto, same] using balanced.claimants other
  · intro slot generation first positive
    simp only [State.goto]
    rw [countP_recordsOf_update outside pc]
    exact balanced.balance slot generation first positive

theorem recordsOf_self
    {threads : Nat → FirePc limit} {slot : SlotId limit}
    {generation first thread : Nat} {copy : RuleCopy limit} :
    recordsOf (Function.update threads thread (.record copy)) slot generation
        first thread =
      isCopyOf slot generation first copy := by
  simp [recordsOf, recording]

/-- A successful claim adds one claim and one claimant. -/
theorem ClaimBalance.claim
    {state : State limit} (balanced : ClaimBalance state)
    {thread : Nat} {copy : RuleCopy limit} {slot : SlotId limit}
    {claimed : Nat} (phase : state.threads thread = .swap copy slot claimed) :
    ClaimBalance (state.claim thread copy slot) := by
  have loop := balanced.loops thread
  simp only [phase, ClaimLoopOk] at loop
  have outside : thread ∉ state.history.claimants := by
    rw [balanced.claimants]
    simp [phase, recording]
  refine
    { loops := ?_
      distinct := List.nodup_cons.mpr ⟨outside, balanced.distinct⟩
      claimants := ?_
      balance := ?_ }
  · intro other
    simp only [State.claim, Function.update_apply]
    split
    · trivial
    · exact balanced.loops other
  · intro other
    by_cases same : other = thread
    · subst same
      simp [State.claim, recording, Claims, loop.1, loop.2.1]
    · simpa [State.claim, same] using balanced.claimants other
  · intro rule generation first positive
    have before := balanced.balance rule generation first positive
    simp only [callsOf] at before
    simp only [State.claim, callsOf, List.countP_cons, recordsOf_self,
      countP_recordsOf_update outside]
    omega

/-- Counting a hit turns the claim of its copy, if any, into a success. -/
theorem ClaimBalance.count
    {state : State limit} (balanced : ClaimBalance state)
    {thread : Nat} {copy : RuleCopy limit}
    (phase : state.threads thread = .record copy) :
    ClaimBalance (state.count thread copy) := by
  have gone : thread ∉ state.history.claimants.erase thread :=
    balanced.distinct.not_mem_erase
  refine
    { loops := ?_
      distinct := balanced.distinct.erase thread
      claimants := ?_
      balance := ?_ }
  · intro other
    simp only [State.count, Function.update_apply]
    split
    · trivial
    · exact balanced.loops other
  · intro other
    by_cases same : other = thread
    · subst same
      simp [State.count, recording, gone]
    · simp only [State.count, Function.update_of_ne same]
      rw [List.mem_erase_of_ne same]
      exact balanced.claimants other
  · intro slot generation first positive
    have before := balanced.balance slot generation first positive
    have here : recordsOf state.threads slot generation first thread =
        isCopyOf slot generation first copy := by
      simp [recordsOf, recording, phase]
    simp only [callsOf] at before
    simp only [State.count, callsOf, List.countP_cons,
      countP_recordsOf_update gone, List.countP_erase, here]
    by_cases counted : isCopyOf slot generation first copy = true
    · have claims : Claims copy := by
        rcases isCopyOf_iff.mp counted with ⟨holds, -, same⟩
        exact ⟨same ▸ positive, by simp [holds]⟩
      have member : thread ∈ state.history.claimants :=
        (balanced.claimants thread).mpr
          ⟨copy, by simp [phase, recording], claims⟩
      have some' : 0 < state.history.claimants.countP
          (recordsOf state.threads slot generation first) :=
        List.countP_pos_iff.mpr ⟨thread, member, here ▸ counted⟩
      simp only [counted, member, and_self, if_true]
      omega
    · simp only [counted, Bool.false_eq_true, and_false, if_false]
      omega

theorem claimBalance_fireStep
    {state next : State limit} (balanced : ClaimBalance state)
    {thread : Nat} (stepped : fireStep state thread = some next) :
    ClaimBalance next := by
  have loop := balanced.loops thread
  unfold fireStep at stepped
  cases phase : state.threads thread with
  | idle =>
      simp [phase] at stepped
  | check copy =>
      have before : recording (state.threads thread) = none := by
        simp [phase, recording]
      simp only [phase] at stepped
      split at stepped
      · rename_i unslotted
        simp only [Option.some.injEq] at stepped
        refine stepped ▸ balanced.goto trivial before ?_
        simp only [recording, Option.some.injEq]
        rintro other rfl claims
        exact claims.2 unslotted
      · rename_i slot holds
        split at stepped
        · split at stepped
          · rename_i positive
            simp only [Option.some.injEq] at stepped
            exact stepped ▸
              balanced.goto ⟨holds, positive⟩ before (by simp [recording])
          · rename_i unlimited
            simp only [Option.some.injEq] at stepped
            refine stepped ▸ balanced.goto trivial before ?_
            simp only [recording, Option.some.injEq]
            rintro other rfl claims
            exact unlimited claims.1
        · simp only [Option.some.injEq] at stepped
          exact stepped ▸ balanced.goto trivial before (by simp [recording])
  | load copy slot =>
      have before : recording (state.threads thread) = none := by
        simp [phase, recording]
      simp only [phase, ClaimLoopOk] at loop stepped
      split at stepped
      · simp only [Option.some.injEq] at stepped
        exact stepped ▸ balanced.goto trivial before (by simp [recording])
      · rename_i accepted
        simp only [Option.some.injEq] at stepped
        exact stepped ▸
          balanced.goto
            ⟨loop.1, loop.2, Bool.eq_false_of_not_eq_true accepted⟩
            before (by simp [recording])
  | swap copy slot claimed =>
      have before : recording (state.threads thread) = none := by
        simp [phase, recording]
      simp only [phase, ClaimLoopOk] at loop stepped
      split at stepped
      · simp only [Option.some.injEq] at stepped
        exact stepped ▸ balanced.claim phase
      · simp only [Option.some.injEq] at stepped
        exact stepped ▸
          balanced.goto ⟨loop.1, loop.2.1⟩ before (by simp [recording])
  | record copy =>
      simp only [phase, Option.some.injEq] at stepped
      exact stepped ▸ balanced.count phase

/-! ## The claim word bounds its claims -/

/-- The compare-and-swap of a claim compares generations less than `2 ^ 32` apart. -/
def SwapClose (claimEra : SlotId limit → Nat) : FirePc limit → Prop
  | .swap copy slot _ => claimEra slot < copy.generation + 2 ^ 32
  | _ => True

instance decidableSwapClose (claimEra : SlotId limit → Nat) :
    (pc : FirePc limit) → Decidable (SwapClose claimEra pc)
  | .swap copy slot _ =>
      inferInstanceAs (Decidable (claimEra slot < copy.generation + 2 ^ 32))
  | .idle | .check _ | .load _ _ | .record _ => isTrue trivial

/-- A thread's step compares close generations. -/
def ClaimsClose (state : State limit) : Action limit → Prop
  | .thread thread =>
      SwapClose state.history.claimEra (state.threads thread)
  | _ => True

instance decidableClaimsClose (state : State limit) :
    (action : Action limit) → Decidable (ClaimsClose state action)
  | .thread thread =>
      decidableSwapClose state.history.claimEra (state.threads thread)
  | .reload _ | .owner | .fire _ _ | .fork => isTrue trivial

/--
The claim word of a slot is tagged with its era and counts at least the claims
made under it; every generation stays within the allowance of its copies.
-/
structure BudgetInvariant (state : State limit) : Prop where
  copies : CopyInvariant state
  balanced : ClaimBalance state
  tagged : ∀ slot, chaosHitClaimsTag (state.pool slot).claimed =
    chaosHitClaimsNone (state.history.claimEra slot)
  counted : ∀ slot first,
    callsOf state.history.claims slot (state.history.claimEra slot) first ≤
      chaosHitClaims (state.pool slot).claimed
  within : ∀ slot generation first,
    callsOf state.history.claims slot generation first ≤
      min first (2 ^ 32 - 1)

theorem budgetInvariant_initial (limit : Nat) :
    BudgetInvariant (initial limit) where
  copies := copyInvariant_initial limit
  balanced := claimBalance_initial limit
  tagged := by
    simp [initial, chaosHitsPoolReset, HitSlot.reset, HitSlot.zero]
  counted := by simp [initial, callsOf]
  within := by simp [initial, callsOf]

/-- Claims of a generation no copy carries yet. -/
theorem callsOf_eq_zero
    {copies : List (RuleCopy limit)} {slot : SlotId limit} {generation : Nat}
    (older : ∀ copy ∈ copies, copy.slot = some slot →
      copy.generation < generation)
    (first : Nat) :
    callsOf copies slot generation first = 0 := by
  refine List.countP_eq_zero.mpr fun copy member same => ?_
  rcases isCopyOf_iff.mp same with ⟨holds, current, -⟩
  have before := older copy member holds
  omega

theorem BudgetInvariant.of_reload
    {state next : State limit} (budget : BudgetInvariant state)
    (copies : CopyInvariant next) (kept : CallsKept state next)
    (restart : ∀ slot, WordsRestart state next slot) :
    BudgetInvariant next where
  copies := copies
  balanced := budget.balanced.of_callsKept kept
  tagged := by
    intro slot
    rcases (restart slot).claimed with ⟨word, era⟩ | ⟨word, era, -, -⟩
    · rw [word, era]
      exact budget.tagged slot
    · rw [word, era, chaosHitClaimsTag_none]
  counted := by
    intro slot first
    rw [kept.claims]
    rcases (restart slot).claimed with ⟨word, era⟩ | ⟨word, era, unused, settled⟩
    · rw [word, era]
      exact budget.counted slot first
    · have older : ∀ copy ∈ state.history.claims, copy.slot = some slot →
          copy.generation < (state.pool slot).generation := by
        intro copy member holds
        have issued := budget.copies.claimsIssued copy member
        exact budget.copies.issuedStale copy issued slot holds unused settled
      rw [era, callsOf_eq_zero older]
      exact Nat.zero_le _
  within := by
    rw [kept.claims]
    exact budget.within

/-- A step that makes no claim and writes no claim word. -/
theorem BudgetInvariant.of_claimsKept
    {state next : State limit} (budget : BudgetInvariant state)
    (copies : CopyInvariant next) (balanced : ClaimBalance next)
    (era : next.history.claimEra = state.history.claimEra)
    (claims : next.history.claims = state.history.claims)
    (words : ∀ slot, (next.pool slot).claimed = (state.pool slot).claimed) :
    BudgetInvariant next where
  copies := copies
  balanced := balanced
  tagged := by simpa only [words, era] using budget.tagged
  counted := by simpa only [words, era, claims] using budget.counted
  within := by simpa only [claims] using budget.within

theorem claimed_count
    (state : State limit) (thread : Nat) (copy : RuleCopy limit)
    (slot : SlotId limit) :
    ((state.count thread copy).pool slot).claimed =
      (state.pool slot).claimed := by
  cases held : copy.slot with
  | none => simp [State.count, held]
  | some other =>
      simp only [State.count, held, Pool.modify_apply]
      split <;> rfl

theorem claimed_claim
    (state : State limit) (thread : Nat) (copy : RuleCopy limit)
    (slot other : SlotId limit) :
    ((state.claim thread copy slot).pool other).claimed =
      if other = slot then ((state.pool other).claimed + 1) % 2 ^ 64
      else (state.pool other).claimed := by
  simp only [State.claim, Pool.modify_apply]
  split <;> rfl

/-- A successful compare-and-swap found the word of its own generation. -/
theorem BudgetInvariant.era_of_swap
    {state : State limit} (budget : BudgetInvariant state)
    {thread : Nat} {copy : RuleCopy limit} {slot : SlotId limit}
    {claimed : Nat} (phase : state.threads thread = .swap copy slot claimed)
    (unchanged : (state.pool slot).claimed = claimed)
    (close : state.history.claimEra slot < copy.generation + 2 ^ 32) :
    copy.generation = state.history.claimEra slot := by
  have loop := budget.balanced.loops thread
  simp only [phase, ClaimLoopOk, claimRefused, Bool.or_eq_false_iff,
    bne_eq_false_iff_eq] at loop
  have issued := budget.copies.held thread copy (by simp [phase, FirePc.copy])
  have ordered := budget.copies.issuedTagged copy issued slot loop.1
  have sameTag : chaosHitClaimsNone copy.generation =
      chaosHitClaimsNone (state.history.claimEra slot) := by
    rw [← budget.tagged slot, unchanged, loop.2.2.1.1]
  exact generation_eq_of_claimsNone_eq ordered close sameTag

theorem BudgetInvariant.claim
    {state : State limit} (budget : BudgetInvariant state)
    {thread : Nat} {copy : RuleCopy limit} {slot : SlotId limit}
    {claimed : Nat} (phase : state.threads thread = .swap copy slot claimed)
    (unchanged : (state.pool slot).claimed = claimed)
    (close : state.history.claimEra slot < copy.generation + 2 ^ 32)
    (copies : CopyInvariant (state.claim thread copy slot)) :
    BudgetInvariant (state.claim thread copy slot) := by
  have era := budget.era_of_swap phase unchanged close
  have loop := budget.balanced.loops thread
  simp only [phase, ClaimLoopOk, claimRefused, Bool.or_eq_false_iff,
    decide_eq_false_iff_not, not_le, beq_eq_false_iff_ne,
    bne_eq_false_iff_eq] at loop
  rcases loop with ⟨holds, positive, ⟨tag, allowed⟩, unsaturated⟩
  rw [← unchanged] at tag allowed unsaturated
  have small : (state.pool slot).claimed + 1 < 2 ^ 64 := by
    simp only [chaosHitClaimsTag, chaosHitClaimsNone, chaosHitClaims] at *
    omega
  have word : ∀ other,
      ((state.claim thread copy slot).pool other).claimed =
        if other = slot then (state.pool other).claimed + 1
        else (state.pool other).claimed := by
    intro other
    rw [claimed_claim]
    split
    · rename_i same
      rw [same, Nat.mod_eq_of_lt small]
    · rfl
  have calls : ∀ other generation first,
      callsOf (state.claim thread copy slot).history.claims other generation
          first =
        callsOf state.history.claims other generation first +
          if isCopyOf other generation first copy = true then 1 else 0 := by
    intro other generation first
    simp only [State.claim, callsOf, List.countP_cons]
  refine
    { copies := copies
      balanced := budget.balanced.claim phase
      tagged := ?_
      counted := ?_
      within := ?_ }
  · intro other
    have before := budget.tagged other
    rw [word]
    split
    · rename_i same
      subst same
      rw [chaosHitClaimsTag_succ unsaturated]
      exact before
    · exact before
  · intro other first
    have before := budget.counted other first
    have eraKept :
        (state.claim thread copy slot).history.claimEra =
          state.history.claimEra :=
      rfl
    rw [word, eraKept, calls]
    by_cases same : other = slot
    · subst same
      rw [if_pos rfl, chaosHitClaims_succ unsaturated]
      split <;> omega
    · have apart :
          ¬ isCopyOf other (state.history.claimEra other) first copy = true := by
        rw [isCopyOf_iff, holds]
        rintro ⟨other', -, -⟩
        exact same (Option.some.inj other').symm
      rw [if_neg same, if_neg apart]
      exact before
  · intro other generation first
    have before := budget.within other generation first
    rw [calls]
    by_cases same : isCopyOf other generation first copy = true
    · rcases isCopyOf_iff.mp same with ⟨otherHolds, otherEra, otherFirst⟩
      rw [holds, Option.some.injEq] at otherHolds
      subst otherHolds
      have counted := budget.counted slot first
      rw [← era, otherEra] at counted
      have room : chaosHitClaims (state.pool slot).claimed < 2 ^ 32 - 1 := by
        have bound : chaosHitClaims (state.pool slot).claimed < 2 ^ 32 :=
          Nat.mod_lt _ (by decide)
        omega
      rw [if_pos same]
      omega
    · rw [if_neg same]
      exact before

/-- Every step of the process that compares close generations keeps the budget. -/
theorem budgetInvariant_step
    {state next : State limit} {action : Action limit}
    (budget : BudgetInvariant state) (stays : action.staysInProcess)
    (close : ClaimsClose state action)
    (stepped : step state action = some next) :
    BudgetInvariant next := by
  have copies := copyInvariant_step budget.copies stays stepped
  cases action with
  | reload outcome =>
      obtain ⟨-, ⟨rules, -, rfl⟩ | rfl⟩ := reload_cases stepped
      · exact budget.of_reload copies (by constructor <;> rfl)
          fun _ => wordsRestart_of_pool_eq (by rfl) ⟨by rfl, by rfl⟩
      · exact budget
  | owner =>
      rcases words_of_ownerStep budget.copies.ok stepped with ⟨kept, restart⟩
      exact budget.of_reload copies kept restart
  | fire thread copy =>
      obtain ⟨idle, -, rfl⟩ := fire_cases stepped
      have balanced : ClaimBalance (state.goto thread (.check copy)) :=
        budget.balanced.goto trivial (by simp [idle, recording])
          (by simp [recording])
      exact budget.of_claimsKept copies balanced rfl rfl fun _ => rfl
  | thread thread =>
      have balanced := claimBalance_fireStep budget.balanced stepped
      rcases fireStep_cases stepped with
        ⟨pc, rfl, -⟩ | ⟨copy, slot, phase, rfl⟩ | ⟨copy, -, rfl⟩
      · exact budget.of_claimsKept copies balanced rfl rfl fun _ => rfl
      · simp only [ClaimsClose, SwapClose, phase] at close
        exact budget.claim phase rfl close copies
      · exact budget.of_claimsKept copies balanced rfl rfl
          (claimed_count state thread copy)
  | fork => exact stays.elim

/-- A call with a copy older than the claim word's era leaves the word alone. -/
theorem BudgetInvariant.claimed_of_older
    {state next : State limit} (budget : BudgetInvariant state)
    {thread : Nat} (close : ClaimsClose state (.thread thread))
    (stepped : step state (.thread thread) = some next)
    {copy : RuleCopy limit} (inside : (state.threads thread).copy = some copy)
    {slot : SlotId limit} (holds : copy.slot = some slot)
    (older : copy.generation < state.history.claimEra slot) :
    (next.pool slot).claimed = (state.pool slot).claimed := by
  rcases fireStep_cases stepped with
    ⟨pc, rfl, -⟩ | ⟨other, claimedSlot, phase, rfl⟩ | ⟨other, -, rfl⟩
  · rfl
  · simp only [phase, FirePc.copy, Option.some.injEq] at inside
    subst inside
    have loop := budget.balanced.loops thread
    simp only [phase, ClaimLoopOk, holds, Option.some.injEq] at loop
    rcases loop with ⟨rfl, -⟩
    simp only [ClaimsClose, SwapClose, phase] at close
    have era := budget.era_of_swap phase rfl close
    omega
  · exact claimed_count state thread other slot

/-- The calls that succeeded so far stay within the allowance of their copies. -/
def WithinAllowance (state : State limit) : Prop :=
  ∀ slot generation first, first ≠ 0 →
    callsOf state.history.fired slot generation first ≤ min first (2 ^ 32 - 1)

theorem BudgetInvariant.withinAllowance
    {state : State limit} (budget : BudgetInvariant state) :
    WithinAllowance state := by
  intro slot generation first positive
  have claims := budget.within slot generation first
  have balance := budget.balanced.balance slot generation first positive
  omega

/--
In every run within one process whose claims compare close generations, the
successful calls with copies of one generation of a slot stay within their
`@first`, and a call with an older copy never changes the claim word of the
slot's newer owner.
-/
theorem fires_within_allowance
    (labels : List (Action limit))
    (within : ∀ label ∈ labels, label.staysInProcess)
    (close : Meets step ClaimsClose (initial limit) labels) :
    Throughout step WithinAllowance (initial limit) labels ∧
      ∀ before thread after state next,
        labels = before ++ .thread thread :: after →
        run step (initial limit) before = some state →
        step state (.thread thread) = some next →
        ∀ copy slot, (state.threads thread).copy = some copy →
          copy.slot = some slot →
          copy.generation < state.history.claimEra slot →
          (next.pool slot).claimed = (state.pool slot).claimed := by
  have budget : Throughout step BudgetInvariant (initial limit) labels :=
    throughout_of_meets
      (fun state action next stays holds met stepped =>
        budgetInvariant_step holds stays met stepped)
      within (budgetInvariant_initial limit) close
  constructor
  · intro before after middle split reached
    exact (budget before after middle split reached).withinAllowance
  · intro before thread after state next split reached stepped copy slot
      inside holds older
    have here := budget before (.thread thread :: after) state split reached
    rw [split] at close
    have met := (meets_append reached).mp close
    exact here.claimed_of_older ((meets_cons stepped).mp met.2).1 stepped
      inside holds older

/-- A rule with `@first=1` and two threads that call with a copy of it. -/
def oneAllowance : List (Action 1) :=
  .reload (.accepted ⟨[⟨bytes "/a:open:EIO:1.0@first=1", 1⟩], by decide⟩) ::
    List.replicate 12 .owner ++
  [.fire 0 ⟨bytes "/a:open:EIO:1.0@first=1", 1, some 0, 1⟩,
    .fire 1 ⟨bytes "/a:open:EIO:1.0@first=1", 1, some 0, 1⟩,
    .thread 0, .thread 1, .thread 0, .thread 1, .thread 0, .thread 1,
    .thread 0, .thread 1]

theorem fires_within_allowance_one :
    (∀ label ∈ oneAllowance, label.staysInProcess) ∧
      Meets step ClaimsClose (initial 1) oneAllowance ∧
      Throughout step WithinAllowance (initial 1) oneAllowance ∧
      (run step (initial 1) oneAllowance).map
          (fun final => callsOf final.history.fired 0 1 1) = some 1 := by
  have within : ∀ label ∈ oneAllowance, label.staysInProcess := by
    decide +kernel
  have close : Meets step ClaimsClose (initial 1) oneAllowance := by
    decide +kernel
  exact ⟨within, close, (fires_within_allowance oneAllowance within close).1,
    by decide +kernel⟩

end ChaosLibs.Common.FireBudget
