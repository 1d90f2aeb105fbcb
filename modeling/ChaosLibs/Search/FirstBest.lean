import Mathlib.Order.Lattice
import Mathlib.Data.List.Basic
import Mathlib.Data.List.Forall2

/-!
# The first best of a list

A scan that keeps the best candidate so far and replaces it only by a strictly
better one ends with the first of the best.  Candidates are compared by a
weight in any linear order.
-/

namespace ChaosLibs.Search

variable {Candidate Weight : Type*} [LinearOrder Weight]

section Scan

variable (weight : Candidate → Weight)

/-- Keep the better of what was found so far and a candidate, the former on a tie. -/
def keepBetter : Option Candidate → Candidate → Option Candidate
  | none, candidate => some candidate
  | some best, candidate =>
      if weight best < weight candidate then some candidate else some best

/-- The first best candidate of a list. -/
def firstBest (candidates : List Candidate) : Option Candidate :=
  candidates.foldl (keepBetter weight) none

/-- A list with its first best candidate marked. -/
structure IsFirstBest
    (candidates : List Candidate) (best : Candidate)
    (before after : List Candidate) : Prop where
  split : candidates = before ++ best :: after
  worse : ∀ candidate ∈ before, weight candidate < weight best
  notBetter : ∀ candidate ∈ after, weight candidate ≤ weight best

end Scan

variable {weight : Candidate → Weight}

/-- A scan of candidates that are not better keeps what it has. -/
theorem foldl_keepBetter_of_le
    {best : Candidate} {candidates : List Candidate}
    (notBetter : ∀ candidate ∈ candidates, weight candidate ≤ weight best) :
    candidates.foldl (keepBetter weight) (some best) = some best := by
  induction candidates with
  | nil => rfl
  | cons candidate rest induction =>
      have kept : keepBetter weight (some best) candidate = some best :=
        if_neg (not_lt.mpr (notBetter candidate List.mem_cons_self))
      rw [List.foldl_cons, kept]
      exact induction fun other member =>
        notBetter other (List.mem_cons_of_mem _ member)

/--
A scan ends with what it had, when no candidate is better, and with the first
best candidate otherwise.
-/
theorem foldl_keepBetter_eq_some
    {held best : Candidate} {candidates : List Candidate}
    (scanned : candidates.foldl (keepBetter weight) (some held) = some best) :
    (best = held ∧ ∀ candidate ∈ candidates, weight candidate ≤ weight held) ∨
      weight held < weight best ∧
        ∃ before after, IsFirstBest weight candidates best before after := by
  induction candidates generalizing held with
  | nil =>
      left
      exact ⟨(Option.some.inj scanned).symm, nofun⟩
  | cons candidate rest induction =>
      rw [List.foldl_cons] at scanned
      by_cases better : weight held < weight candidate
      · rw [keepBetter, if_pos better] at scanned
        right
        rcases induction scanned with ⟨rfl, notBetter⟩ | ⟨above, found⟩
        · exact ⟨better, [], rest, rfl, nofun, notBetter⟩
        · rcases found with ⟨before, after, split, worse, notBetter⟩
          refine ⟨better.trans above, candidate :: before, after, ?_, ?_,
            notBetter⟩
          · rw [split, List.cons_append]
          · intro other member
            rcases List.mem_cons.mp member with rfl | member
            · exact above
            · exact worse other member
      · rw [keepBetter, if_neg better] at scanned
        rcases induction scanned with ⟨rfl, notBetter⟩ | ⟨above, found⟩
        · left
          refine ⟨rfl, ?_⟩
          intro other member
          rcases List.mem_cons.mp member with rfl | member
          · exact not_lt.mp better
          · exact notBetter other member
        · rcases found with ⟨before, after, split, worse, notBetter⟩
          right
          refine ⟨above, candidate :: before, after, ?_, ?_, notBetter⟩
          · rw [split, List.cons_append]
          · intro other member
            rcases List.mem_cons.mp member with rfl | member
            · exact lt_of_le_of_lt (not_lt.mp better) above
            · exact worse other member

theorem isFirstBest_of_firstBest
    {best : Candidate} {candidates : List Candidate}
    (found : firstBest weight candidates = some best) :
    ∃ before after, IsFirstBest weight candidates best before after := by
  cases candidates with
  | nil => cases found
  | cons candidate rest =>
      rcases foldl_keepBetter_eq_some found with ⟨rfl, notBetter⟩ | ⟨above, found⟩
      · exact ⟨[], rest, rfl, nofun, notBetter⟩
      · rcases found with ⟨before, after, split, worse, notBetter⟩
        refine ⟨candidate :: before, after, ?_, ?_, notBetter⟩
        · rw [split, List.cons_append]
        · intro other member
          rcases List.mem_cons.mp member with rfl | member
          · exact above
          · exact worse other member

/-- Only an empty list has no best candidate. -/
theorem firstBest_eq_none {candidates : List Candidate} :
    firstBest weight candidates = none ↔ candidates = [] := by
  constructor
  · intro nothing
    cases candidates with
    | nil => rfl
    | cons candidate rest =>
        have some : ∀ (others : List Candidate) (held : Candidate),
            others.foldl (keepBetter weight) (some held) ≠ none := by
          intro others
          induction others with
          | nil => exact fun _ => nofun
          | cons other others induction =>
              intro held
              rw [List.foldl_cons, keepBetter]
              split
              · exact induction other
              · exact induction held
        exact absurd nothing (some rest candidate)
  · rintro rfl
    rfl

/-- Further candidates that are not better do not change the first best. -/
theorem firstBest_append_of_le
    {best : Candidate} {candidates others : List Candidate}
    (found : firstBest weight candidates = some best)
    (notBetter : ∀ other ∈ others, weight other ≤ weight best) :
    firstBest weight (candidates ++ others) = some best := by
  have first : candidates.foldl (keepBetter weight) none = some best :=
    found
  rw [firstBest, List.foldl_append, first]
  exact foldl_keepBetter_of_le notBetter

/-- The best of a list that begins with worse candidates. -/
theorem firstBest_of_isFirstBest {best : Candidate} {candidates before after : List Candidate}
    (first : IsFirstBest weight candidates best before after) :
    firstBest weight candidates = some best := by
  have taken : (before ++ [best]).foldl (keepBetter weight) none = some best := by
    rw [List.foldl_append]
    cases held : before.foldl (keepBetter weight) none with
    | none => rfl
    | some other =>
        rcases isFirstBest_of_firstBest held with ⟨earlier, later, split, -, -⟩
        have member : other ∈ before := by
          rw [split]
          exact List.mem_append_right _ List.mem_cons_self
        exact if_pos (first.worse other member)
  rw [first.split, List.append_cons]
  exact firstBest_append_of_le taken first.notBetter

/-! ## Among those that count -/

section Among

variable (counts : Candidate → Prop) (weight : Candidate → Weight)

/-- A list with the first best of the candidates that count marked. -/
structure IsFirstBestAmong
    (candidates : List Candidate) (best : Candidate)
    (before after : List Candidate) : Prop where
  split : candidates = before ++ best :: after
  counted : counts best
  worse : ∀ candidate ∈ before, counts candidate → weight candidate < weight best
  notBetter : ∀ candidate ∈ after, counts candidate → weight candidate ≤ weight best

end Among

variable {counts : Candidate → Prop} [DecidablePred counts]

theorem firstBest_filter_eq_some {best : Candidate} {candidates : List Candidate} :
    firstBest weight (candidates.filter fun candidate => counts candidate) = some best ↔
      ∃ before after, IsFirstBestAmong counts weight candidates best before after := by
  constructor
  · intro found
    rcases isFirstBest_of_firstBest found with ⟨before, after, split, worse, notBetter⟩
    rcases List.filter_eq_append_iff.mp split with ⟨front, back, parts, kept, rest⟩
    rcases List.filter_eq_cons_iff.mp rest with ⟨skipped, last, backParts, none, counted, kept'⟩
    refine ⟨front ++ skipped, last, ?_, of_decide_eq_true counted, ?_, ?_⟩
    · rw [parts, backParts, List.append_assoc]
    · intro candidate member counting
      rcases List.mem_append.mp member with earlier | between
      · refine worse candidate ?_
        rw [← kept]
        exact List.mem_filter.mpr ⟨earlier, decide_eq_true counting⟩
      · exact absurd (decide_eq_true counting) (none candidate between)
    · intro candidate member counting
      refine notBetter candidate ?_
      rw [← kept']
      exact List.mem_filter.mpr ⟨member, decide_eq_true counting⟩
  · rintro ⟨before, after, split, counted, worse, notBetter⟩
    have first : IsFirstBest weight (candidates.filter fun candidate => counts candidate) best
        (before.filter fun candidate => counts candidate)
        (after.filter fun candidate => counts candidate) := by
      refine ⟨?_, ?_, ?_⟩
      · rw [split, List.filter_append, List.filter_cons, decide_eq_true counted, if_pos rfl]
      · intro candidate member
        rcases List.mem_filter.mp member with ⟨inside, counting⟩
        exact worse candidate inside (of_decide_eq_true counting)
      · intro candidate member
        rcases List.mem_filter.mp member with ⟨inside, counting⟩
        exact notBetter candidate inside (of_decide_eq_true counting)
    exact firstBest_of_isFirstBest first

theorem firstBest_filter_eq_none {candidates : List Candidate} :
    firstBest weight (candidates.filter fun candidate => counts candidate) = none ↔
      ∀ candidate ∈ candidates, ¬ counts candidate := by
  rw [firstBest_eq_none, List.filter_eq_nil_iff]
  refine forall_congr' fun candidate => imp_congr_right fun _ => not_congr ?_
  exact decide_eq_true_iff

/-- What counts, and what it weighs, may be told in other words. -/
theorem IsFirstBestAmong.congr
    {counts counts' : Candidate → Prop} {weight weight' : Candidate → Weight}
    {candidates : List Candidate} {best : Candidate} {before after : List Candidate}
    (first : IsFirstBestAmong counts weight candidates best before after)
    (same : ∀ candidate ∈ candidates, (counts candidate ↔ counts' candidate))
    (equal : ∀ candidate ∈ candidates, counts candidate →
      weight candidate = weight' candidate) :
    IsFirstBestAmong counts' weight' candidates best before after := by
  rcases first with ⟨split, counted, worse, notBetter⟩
  have here : best ∈ candidates := by
    rw [split]
    exact List.mem_append_right _ List.mem_cons_self
  have inBefore : ∀ candidate ∈ before, candidate ∈ candidates := fun candidate member => by
    rw [split]
    exact List.mem_append_left _ member
  have inAfter : ∀ candidate ∈ after, candidate ∈ candidates := fun candidate member => by
    rw [split]
    exact List.mem_append_right _ (List.mem_cons_of_mem _ member)
  refine ⟨split, (same best here).mp counted, ?_, ?_⟩
  · intro candidate member counting
    have counting' := (same candidate (inBefore candidate member)).mpr counting
    rw [← equal candidate (inBefore candidate member) counting', ← equal best here counted]
    exact worse candidate member counting'
  · intro candidate member counting
    have counting' := (same candidate (inAfter candidate member)).mpr counting
    rw [← equal candidate (inAfter candidate member) counting', ← equal best here counted]
    exact notBetter candidate member counting'

/-! ## Lists related element by element -/

section Related

variable {Other : Type*} {alike : Candidate → Other → Prop}

theorem exists_alike_of_mem {candidates : List Candidate} {others : List Other}
    (pairs : List.Forall₂ alike candidates others) :
    ∀ other ∈ others, ∃ candidate ∈ candidates, alike candidate other := by
  induction pairs with
  | nil => exact fun _ member => absurd member List.not_mem_nil
  | cons pair pairs induction =>
      intro other member
      rcases List.mem_cons.mp member with rfl | later
      · exact ⟨_, List.mem_cons_self, pair⟩
      · rcases induction other later with ⟨candidate, inside, pair⟩
        exact ⟨candidate, List.mem_cons_of_mem _ inside, pair⟩

/-- A list alike to one with a place marked has the same place marked. -/
theorem exists_split_of_forall₂ {best : Candidate} {before after : List Candidate}
    {others : List Other}
    (pairs : List.Forall₂ alike (before ++ best :: after) others) :
    ∃ best' before' after', others = before' ++ best' :: after' ∧
      List.Forall₂ alike before before' ∧ alike best best' ∧
      List.Forall₂ alike after after' := by
  induction before generalizing others with
  | nil =>
      rcases pairs with _ | ⟨pair, pairs⟩
      exact ⟨_, [], _, rfl, .nil, pair, pairs⟩
  | cons candidate before induction =>
      rcases pairs with _ | ⟨pair, pairs⟩
      rcases induction pairs with ⟨best', before', after', rfl, earlier, here, later⟩
      exact ⟨best', _ :: before', after', rfl, .cons pair earlier, here, later⟩

/-- Lists whose elements count and weigh the same have the first best at the same place. -/
theorem IsFirstBestAmong.of_forall₂
    {counts : Candidate → Prop} {weight : Candidate → Weight}
    {counts' : Other → Prop} {weight' : Other → Weight}
    {candidates : List Candidate} {others : List Other}
    {best : Candidate} {before after : List Candidate}
    (first : IsFirstBestAmong counts weight candidates best before after)
    (pairs : List.Forall₂ alike candidates others)
    (same : ∀ candidate other, alike candidate other → (counts candidate ↔ counts' other))
    (equal : ∀ candidate other, alike candidate other → weight candidate = weight' other) :
    ∃ best' before' after', IsFirstBestAmong counts' weight' others best' before' after' ∧
      alike best best' ∧ before'.length = before.length := by
  rcases first with ⟨rfl, counted, worse, notBetter⟩
  rcases exists_split_of_forall₂ pairs with
    ⟨best', before', after', rfl, earlier, here, later⟩
  refine ⟨best', before', after', ⟨rfl, (same best best' here).mp counted, ?_, ?_⟩, here,
    earlier.length_eq.symm⟩
  · intro other member counting
    rcases exists_alike_of_mem earlier other member with ⟨candidate, inside, pair⟩
    rw [← equal candidate other pair, ← equal best best' here]
    exact worse candidate inside ((same candidate other pair).mpr counting)
  · intro other member counting
    rcases exists_alike_of_mem later other member with ⟨candidate, inside, pair⟩
    rw [← equal candidate other pair, ← equal best best' here]
    exact notBetter candidate inside ((same candidate other pair).mpr counting)

end Related

end ChaosLibs.Search
