import ChaosLibs.Common.RuleFiring
import ChaosLibs.Init.Verdict
import ChaosLibs.Search.FirstAccepted

/-!
# Faults decided before and after a delay

A call may be delayed by one rule and failed by the first of some others that
fires.  Whether it matters at which clock reading the latter are decided: it
does not exactly when no rule that would fire otherwise has its window opened
or closed in between, unless an earlier one fires at both readings.
-/

namespace ChaosLibs.Init.FaultTiming

open ChaosLibs.Common.PolicyGates
open ChaosLibs.Common.RulePolicy
open ChaosLibs.Init.Verdict
open ChaosLibs.Search

variable {Rule : Type*}

section Faults

variable (policy : Rule → ChaosRulePolicy) (ready : Rule → Bool)

/-- Whether a rule that its other gates let fire fires at a clock reading. -/
def firesAt (time : Int) (rule : Rule) : Bool :=
  ready rule && chaosPolicyWindowOpen (policy rule) time

/--
No rule that is ready has its window opened or closed between two clock
readings, unless an earlier rule fires at both.
-/
def Undisturbed (now later : Int) (faults : List Rule) : Prop :=
  ∀ before rule after, faults = before ++ rule :: after →
    ready rule = true →
      chaosPolicyWindowOpen (policy rule) now ≠
        chaosPolicyWindowOpen (policy rule) later →
          ∃ earlier ∈ before, ready earlier = true ∧
            chaosPolicyWindowOpen (policy earlier) now = true ∧
              chaosPolicyWindowOpen (policy earlier) later = true

end Faults

section Outcomes

variable (latencyMs errnum : Rule → Nat)

/-- What becomes of a call, by the rule that delays it and the one that fails it. -/
def faultOutcome (latency failing : Option Rule) : Outcome Rule where
  delayMs := latency.elim 0 latencyMs
  result := failing.elim .runs fun rule => .fails (errnum rule)
  hits := latency.toList ++ failing.toList

end Outcomes

variable {policy : Rule → ChaosRulePolicy} {ready : Rule → Bool}
variable {latencyMs errnum : Rule → Nat}

theorem firesAt_ne_iff {now later : Int} {rule : Rule} :
    firesAt policy ready now rule ≠ firesAt policy ready later rule ↔
      ready rule = true ∧ chaosPolicyWindowOpen (policy rule) now ≠
        chaosPolicyWindowOpen (policy rule) later := by
  unfold firesAt
  cases ready rule with
  | true => rw [Bool.true_and, Bool.true_and, and_iff_right rfl]
  | false => exact iff_of_false (fun other => other rfl) nofun

theorem settled_iff_undisturbed {now later : Int} {faults : List Rule} :
    Settled (firesAt policy ready now) (firesAt policy ready later) faults ↔
      Undisturbed policy ready now later faults := by
  have both : ∀ rule, (firesAt policy ready now rule = true ∧
      firesAt policy ready later rule = true) ↔
        ready rule = true ∧ chaosPolicyWindowOpen (policy rule) now = true ∧
          chaosPolicyWindowOpen (policy rule) later = true := by
    intro rule
    unfold firesAt
    rw [Bool.and_eq_true, Bool.and_eq_true]
    tauto
  unfold Settled Undisturbed
  simp only [firesAt_ne_iff, both, and_imp]

theorem find?_firesAt_eq_iff
    {now later : Int} {faults : List Rule} (distinct : faults.Nodup) :
    faults.find? (firesAt policy ready now) =
        faults.find? (firesAt policy ready later) ↔
      Undisturbed policy ready now later faults :=
  (find?_eq_find?_iff distinct).trans settled_iff_undisturbed

/-- The outcomes tell the rules that fail the call apart. -/
theorem faultOutcome_injective (latency : Option Rule) :
    Function.Injective (faultOutcome latencyMs errnum latency) := by
  intro left right same
  have hits : left.toList = right.toList :=
    List.append_cancel_left (congrArg Outcome.hits same)
  calc
    left = left.toList.head? := Option.head?_toList.symm
    _ = right.toList.head? := by rw [hits]
    _ = right := Option.head?_toList

/-- When the delay is over, the same rule fails the call exactly when none is disturbed. -/
theorem faultOutcome_eq_iff
    {latency : Option Rule} {now later : Int} {faults : List Rule}
    (distinct : faults.Nodup) :
    faultOutcome latencyMs errnum latency
          (faults.find? (firesAt policy ready now)) =
        faultOutcome latencyMs errnum latency
          (faults.find? (firesAt policy ready later)) ↔
      Undisturbed policy ready now later faults := by
  rw [(faultOutcome_injective latency).eq_iff]
  exact find?_firesAt_eq_iff distinct

/-! ## The verdict of both decisions -/

/-- The verdict that delays a call, fails it, or does both. -/
def faultVerdict (latencyMs errnum : Rule → Nat) (latency failing : Option Rule) :
    ChaosInitVerdict :=
  let delayed : ChaosInitVerdict :=
    match latency with
    | none => .pass
    | some rule =>
        { ChaosInitVerdict.pass with
          action := .delay
          delayMs := latencyMs rule }
  match failing with
  | none => delayed
  | some rule =>
      { delayed with
        action := if delayed.action = .delay then .delay else .fail
        error := errnum rule }

/-- Carried out, it delays the call and then fails it or lets it run. -/
theorem carriedOut_faultVerdict
    {latency failing : Option Rule}
    (errors : ∀ rule, failing = some rule → errnum rule ≠ 0) :
    let verdict := faultVerdict latencyMs errnum latency failing
    ({ delayMs := verdict.carriedOut.1
       result := verdict.carriedOut.2
       hits := latency.toList ++ failing.toList } : Outcome Rule) =
      faultOutcome latencyMs errnum latency failing := by
  cases latency with
  | none =>
      cases failing with
      | none => rfl
      | some rule => rfl
  | some delaying =>
      cases failing with
      | none => rfl
      | some rule =>
          have fails : chaosInitReply (chaosInitDelayAnswer
              (faultVerdict latencyMs errnum (some delaying) (some rule))) =
                .fails (errnum rule) := by
            have error : errnum rule ≠ 0 := errors rule rfl
            simp [faultVerdict, chaosInitDelayAnswer, chaosInitReply, error]
          exact congrArg (fun result => Outcome.mk (latencyMs delaying) result
            [delaying, rule]) fails

end ChaosLibs.Init.FaultTiming
