import ChaosLibs.Search.FirstBest
import Mathlib.Data.List.Basic
import Mathlib.Data.Prod.Lex

/-!
# The most specific rule

The loop by which `chaos_memory_config_select_rule`, `chaos_process_config_select_rule`
and `chaos_dns_config_select_rule_domain` choose among the rules that match a call:
a later rule replaces the one found so far only when it is strictly more
specific.
-/

namespace ChaosLibs.Common.RuleSelection

open ChaosLibs.Search

variable {Rule : Type*}

section Loop

variable (rank : Rule → Option Nat) (length : Rule → Nat)

/-- One round: the rule found so far, with `best_rank`, and the next rule. -/
def selectRound (best : Option (Rule × Nat)) (rule : Rule) :
    Option (Rule × Nat) :=
  match rank rule with
  | none => best
  | some found =>
      match best with
      | none => some (rule, found)
      | some (held, bestRank) =>
          if bestRank < found ∨ found = bestRank ∧ length held < length rule then
            some (rule, found)
          else
            some (held, bestRank)

/-- `chaos_<lib>_config_select_rule`; `rank` gives the rank of a rule that matches. -/
def selectRule (rules : List Rule) : Option Rule :=
  (rules.foldl (selectRound rank length) none).map Prod.fst

end Loop

variable {rank : Rule → Option Nat} {length : Rule → Nat}

theorem mem_of_foldl_selectRound
    {rules : List Rule} {best : Option (Rule × Nat)} {rule : Rule} {found : Nat}
    (selected : rules.foldl (selectRound rank length) best = some (rule, found)) :
    best = some (rule, found) ∨ rule ∈ rules ∧ rank rule = some found := by
  induction rules generalizing best with
  | nil => exact Or.inl selected
  | cons next rest induction =>
      rw [List.foldl_cons] at selected
      rcases induction selected with taken | ⟨member, ranked⟩
      · unfold selectRound at taken
        split at taken
        · exact Or.inl taken
        · rename_i rankOfNext
          split at taken
          · cases taken
            exact Or.inr ⟨List.mem_cons_self, rankOfNext⟩
          · split at taken
            · cases taken
              exact Or.inr ⟨List.mem_cons_self, rankOfNext⟩
            · exact Or.inl taken
      · exact Or.inr ⟨List.mem_cons_of_mem _ member, ranked⟩

/-- A rule that is selected is one of the rules, and matches. -/
theorem mem_of_selectRule
    {rules : List Rule} {rule : Rule}
    (selected : selectRule rank length rules = some rule) :
    rule ∈ rules ∧ ∃ found, rank rule = some found := by
  rcases Option.map_eq_some_iff.mp selected with ⟨⟨held, found⟩, scanned, rfl⟩
  rcases mem_of_foldl_selectRound scanned with nothing | ⟨member, ranked⟩
  · cases nothing
  · exact ⟨member, found, ranked⟩

/-! ## The first most specific rule -/

section Specificity

variable (rank : Rule → Option Nat) (length : Rule → Nat)

/-- The rules that match. -/
def Ranked (rule : Rule) : Prop :=
  (rank rule).isSome

instance : DecidablePred (Ranked rank) :=
  fun rule => inferInstanceAs (Decidable ((rank rule).isSome = true))

/-- The rank of a rule before its length. -/
def specificity (rule : Rule) : Nat ×ₗ Nat :=
  toLex ((rank rule).getD 0, length rule)

/-- What the loop holds: a rule with its rank. -/
def held (rule : Rule) : Rule × Nat :=
  (rule, (rank rule).getD 0)

end Specificity

theorem selectRound_of_ranked {rule : Rule} (ranked : Ranked rank rule) (best : Option Rule) :
    selectRound rank length (best.map (held rank)) rule =
      (keepBetter (specificity rank length) best rule).map (held rank) := by
  obtain ⟨found, matched⟩ := Option.isSome_iff_exists.mp ranked
  cases best with
  | none => simp [selectRound, matched, keepBetter, held]
  | some other =>
      simp only [selectRound, matched, Option.map_some, keepBetter, held, specificity,
        Prod.Lex.toLex_lt_toLex, Option.getD_some, eq_comm (a := found)]
      split
      · rw [Option.map_some, held, matched, Option.getD_some]
      · rfl

/-- The loop is the scan for the first most specific of the rules that match. -/
theorem selectRule_eq_firstBest (rules : List Rule) :
    selectRule rank length rules =
      firstBest (specificity rank length) (rules.filter fun rule => Ranked rank rule) := by
  have scan (best : Option Rule) :
      rules.foldl (selectRound rank length) (best.map (held rank)) =
        ((rules.filter fun rule => Ranked rank rule).foldl
          (keepBetter (specificity rank length)) best).map (held rank) := by
    induction rules generalizing best with
    | nil => rfl
    | cons rule rest induction =>
        rw [List.foldl_cons, List.filter_cons]
        by_cases ranked : Ranked rank rule
        · rw [selectRound_of_ranked ranked, induction, if_pos (decide_eq_true ranked),
            List.foldl_cons]
        · have passed : selectRound rank length (best.map (held rank)) rule =
              best.map (held rank) := by
            rw [selectRound, Option.not_isSome_iff_eq_none.mp ranked]
          rw [passed, induction, if_neg (by simpa using ranked)]
  have whole := scan none
  rw [Option.map_none] at whole
  have kept : Prod.fst ∘ held rank = id := rfl
  rw [selectRule, whole, Option.map_map, kept, Option.map_id, id, firstBest]

end ChaosLibs.Common.RuleSelection
