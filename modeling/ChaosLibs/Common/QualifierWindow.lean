import ChaosLibs.Common.PolicyGates
import ChaosLibs.Common.QualifierWords

/-!
# The window of a rule

`chaos_policy_window_open` against the `@from` and `@until` that its line gives.  A bound
of 0 is how a policy says that none was given, so a given 0 is no bound at all.
-/

namespace ChaosLibs.Common.QualifierWindow

open ChaosLibs.Common.CString
open ChaosLibs.Common.PolicyGates
open ChaosLibs.Common.QualifierWords
open ChaosLibs.Common.RulePolicy

/-- The time is not before a given `@from`, and before a given `@until`. -/
def InWindow (lower upper : Option Nat) (now : Int) : Prop :=
  (∀ bound, lower = some bound → (bound : Int) ≤ now) ∧
    ∀ bound, upper = some bound → now < bound

/-- The policy of a line has its leftmost bounds, or 0 where it gives none. -/
theorem policy_of_accepted {line : Bytes} {policy : ChaosRulePolicy}
    (accepted : (chaosPolicyExtract line).2 = some policy) :
    policy.fromMs = (givenValue line .fromMs).getD 0 ∧
      policy.untilMs = (givenValue line .untilMs).getD 0 := by
  rw [chaosPolicyExtract_eq] at accepted
  unfold givenValue
  cases read : qualifiers line with
  | none =>
      rw [read] at accepted
      cases accepted
  | some given =>
      rw [read] at accepted
      dsimp only at accepted
      split at accepted
      · cases accepted
      · cases accepted
        exact ⟨rfl, rfl⟩

/-- The bound of a policy that is not below the time, with 0 for none. -/
theorem lower_iff (lower : Option Nat) (now : Int) :
    (lower.getD 0 = 0 ∨ (lower.getD 0 : Int) ≤ now) ↔
      lower = some 0 ∨ ∀ bound, lower = some bound → (bound : Int) ≤ now := by
  cases lower with
  | none => simp
  | some bound => simp

theorem upper_iff (upper : Option Nat) (now : Int) :
    (upper.getD 0 = 0 ∨ now < (upper.getD 0 : Int)) ↔
      upper = some 0 ∨ ∀ bound, upper = some bound → now < bound := by
  cases upper with
  | none => simp
  | some bound => simp

/-- The window as the code tests it. -/
theorem chaosPolicyWindowOpen_iff {policy : ChaosRulePolicy} {lower upper : Option Nat}
    (hasLower : policy.fromMs = lower.getD 0) (hasUpper : policy.untilMs = upper.getD 0)
    (now : Int) :
    chaosPolicyWindowOpen policy now = true ↔
      (lower = some 0 ∨ ∀ bound, lower = some bound → (bound : Int) ≤ now) ∧
        (upper = some 0 ∨ ∀ bound, upper = some bound → now < bound) := by
  rw [← lower_iff, ← upper_iff, ← hasLower, ← hasUpper, chaosPolicyWindowOpen]
  split
  · rename_i unbounded
    exact iff_of_true rfl ⟨Or.inl unbounded.1, Or.inl unbounded.2⟩
  · rw [Bool.and_eq_true, Bool.or_eq_true, Bool.or_eq_true, beq_iff_eq, beq_iff_eq,
      decide_eq_true_iff, decide_eq_true_iff]

/-- A bound that counts as none when it is 0 differs from one that does not. -/
theorem unbounded_iff (lower upper : Option Nat) (now : Int) :
    (((lower = some 0 ∨ ∀ bound, lower = some bound → (bound : Int) ≤ now) ∧
          (upper = some 0 ∨ ∀ bound, upper = some bound → now < bound)) ↔
        InWindow lower upper now) ↔
      (upper = some 0 → now < 0 ∨ ∃ bound, lower = some bound ∧ now < bound) ∧
        (lower = some 0 → 0 ≤ now) := by
  rw [InWindow]
  cases lower with
  | none =>
      cases upper with
      | none => simp
      | some upper =>
          simp only [reduceCtorEq, false_or, Option.some.injEq, forall_eq', false_and,
            exists_false, or_false, IsEmpty.forall_iff, implies_true, true_and, and_true]
          omega
  | some lower =>
      cases upper with
      | none =>
          simp only [Option.some.injEq, forall_eq', reduceCtorEq, IsEmpty.forall_iff,
            implies_true, or_true, and_true, exists_eq_left', true_and]
          omega
      | some upper =>
          simp only [Option.some.injEq, forall_eq', exists_eq_left']
          omega

/--
The window of an accepted line is the one its leftmost `@from` and `@until` give, except
for an `@until=0` once the window has begun, and for an `@from=0` before 1970.
-/
theorem windowOpen_iff_inWindow {line : Bytes} {policy : ChaosRulePolicy}
    (accepted : (chaosPolicyExtract line).2 = some policy) (now : Int) :
    (chaosPolicyWindowOpen policy now = true ↔
        InWindow (givenValue line .fromMs) (givenValue line .untilMs) now) ↔
      (givenValue line .untilMs = some 0 →
          now < 0 ∨ ∃ lower, givenValue line .fromMs = some lower ∧ now < lower) ∧
        (givenValue line .fromMs = some 0 → 0 ≤ now) := by
  rcases policy_of_accepted accepted with ⟨hasLower, hasUpper⟩
  rw [chaosPolicyWindowOpen_iff hasLower hasUpper]
  exact unbounded_iff _ _ now

theorem windowOpen_iff_inWindow_repeated :
    let line := bytes "/d:write:EIO:1 @until=9000 @from=5000 @until=7000"
    ∃ policy, (chaosPolicyExtract line).2 = some policy ∧
      (chaosPolicyWindowOpen policy 8000 = true ↔
        InWindow (givenValue line .fromMs) (givenValue line .untilMs) 8000) := by
  intro line
  refine ⟨{ fromMs := 5000, untilMs := 9000 }, by decide +kernel, ?_⟩
  refine (windowOpen_iff_inWindow (by decide +kernel) 8000).mpr ⟨fun zero => ?_, ?_⟩
  · exact absurd zero (by decide +kernel)
  · exact fun zero => absurd zero (by decide +kernel)

/-- A rule with `@until=0` is active in our time. -/
theorem windowOpen_untilZero :
    ¬ ∀ (line : Bytes) (policy : ChaosRulePolicy) (now : Int),
      (chaosPolicyExtract line).2 = some policy →
        (chaosPolicyWindowOpen policy now = true ↔
          InWindow (givenValue line .fromMs) (givenValue line .untilMs) now) := by
  intro exact
  have said := exact (bytes "/d:write:EIO:1 @until=0") {} 1760000000000
    (by decide +kernel)
  have closed : ¬ InWindow (givenValue (bytes "/d:write:EIO:1 @until=0") .fromMs)
      (givenValue (bytes "/d:write:EIO:1 @until=0") .untilMs) 1760000000000 :=
    fun inside => absurd (inside.2 0 (by decide +kernel)) (by decide)
  exact closed (said.mp (by decide))

end ChaosLibs.Common.QualifierWindow
