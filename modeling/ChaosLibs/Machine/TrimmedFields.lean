import Mathlib.Data.List.Basic
import Mathlib.Data.List.TakeWhile

/-!
# Lists trimmed at both ends

The core of a list is what is left without the blanks before and after it.  A list
whose ends are no blanks is the core of exactly the lists that add blanks around it.
-/

namespace ChaosLibs.Machine.TrimmedFields

variable {Letter : Type*} {isBlank : Letter → Bool} {core text : List Letter}

/-- A list without the blanks at its ends. -/
def trimmed (isBlank : Letter → Bool) (text : List Letter) : List Letter :=
  ((text.dropWhile isBlank).reverse.dropWhile isBlank).reverse

/-- A list and blanks around it. -/
inductive Spaced (isBlank : Letter → Bool) (core : List Letter) : List Letter → Prop where
  | around {before after : List Letter} (lead : ∀ letter ∈ before, isBlank letter = true)
      (trail : ∀ letter ∈ after, isBlank letter = true) :
      Spaced isBlank core (before ++ (core ++ after))

/-- A list with no blank at either end. -/
structure Solid (isBlank : Letter → Bool) (core : List Letter) : Prop where
  first : ∀ letter ∈ core.head?, isBlank letter = false
  last : ∀ letter ∈ core.getLast?, isBlank letter = false

theorem spaced_append {after : List Letter} (trail : ∀ letter ∈ after, isBlank letter = true) :
    Spaced isBlank core (core ++ after) :=
  @Spaced.around _ _ core [] after nofun trail

theorem spaced_prepend {before : List Letter}
    (lead : ∀ letter ∈ before, isBlank letter = true) :
    Spaced isBlank core (before ++ core) := by
  have spaced := @Spaced.around _ _ core before [] lead nofun
  rwa [List.append_nil] at spaced

/-- Blanks around a list that has blanks around its core. -/
theorem Spaced.pad {before after : List Letter} (spaced : Spaced isBlank core text)
    (lead : ∀ letter ∈ before, isBlank letter = true)
    (trail : ∀ letter ∈ after, isBlank letter = true) :
    Spaced isBlank core (before ++ (text ++ after)) := by
  cases spaced with
  | @around first last firstLead lastTrail =>
      have whole : before ++ (first ++ (core ++ last) ++ after) =
          (before ++ first) ++ (core ++ (last ++ after)) := by
        simp only [List.append_assoc]
      rw [whole]
      refine .around (fun letter member => ?_) (fun letter member => ?_)
      · exact (List.mem_append.mp member).elim (lead letter) (firstLead letter)
      · exact (List.mem_append.mp member).elim (lastTrail letter) (trail letter)

theorem dropWhile_of_head (first : ∀ letter ∈ core.head?, isBlank letter = false) :
    core.dropWhile isBlank = core := by
  cases core with
  | nil => rfl
  | cons letter rest =>
      rw [List.dropWhile_cons_of_neg]
      rw [first letter rfl]
      exact Bool.false_ne_true

theorem head_dropWhile :
    ∀ letter ∈ (text.dropWhile isBlank).head?, isBlank letter = false := by
  intro letter member
  have stopped := List.head?_dropWhile_not isBlank text
  rw [Option.mem_def.mp member] at stopped
  exact stopped

/-- Nothing but blanks is cut off. -/
theorem spaced_trimmed (isBlank : Letter → Bool) (text : List Letter) :
    Spaced isBlank (trimmed isBlank text) text := by
  have front := @List.takeWhile_append_dropWhile _ isBlank text
  have back := @List.takeWhile_append_dropWhile _ isBlank (text.dropWhile isBlank).reverse
  have whole : text.takeWhile isBlank ++ (trimmed isBlank text ++
      ((text.dropWhile isBlank).reverse.takeWhile isBlank).reverse) = text := by
    rw [trimmed, ← List.reverse_append, back, List.reverse_reverse, front]
  have lead : ∀ letter ∈ text.takeWhile isBlank, isBlank letter = true :=
    fun letter member => List.mem_takeWhile_imp member
  have trail : ∀ letter ∈ ((text.dropWhile isBlank).reverse.takeWhile isBlank).reverse,
      isBlank letter = true :=
    fun letter member => List.mem_takeWhile_imp (List.mem_reverse.mp member)
  have spaced := @Spaced.around _ isBlank (trimmed isBlank text) _ _ lead trail
  rwa [whole] at spaced

theorem solid_trimmed (isBlank : Letter → Bool) (text : List Letter) :
    Solid isBlank (trimmed isBlank text) := by
  constructor
  · intro letter member
    -- The first letter of the core is the first one after the blanks.
    have prefixed : trimmed isBlank text <+: text.dropWhile isBlank := by
      rw [trimmed, ← List.reverse_suffix, List.reverse_reverse]
      exact List.dropWhile_suffix _
    rcases prefixed with ⟨rest, whole⟩
    refine @head_dropWhile _ isBlank text letter ?_
    rw [← whole, List.head?_append, Option.mem_def.mp member]
    rfl
  · rw [trimmed, List.getLast?_reverse]
    exact head_dropWhile

theorem trimmed_of_spaced (solid : Solid isBlank core) (spaced : Spaced isBlank core text) :
    trimmed isBlank text = core := by
  cases spaced with
  | @around before after lead trail =>
      by_cases empty : core = []
      · subst empty
        have blank : ∀ letter ∈ before ++ ([] ++ after), isBlank letter = true := by
          intro letter member
          rcases List.mem_append.mp member with inLead | inTrail
          · exact lead letter inLead
          · exact trail letter inTrail
        rw [trimmed, List.dropWhile_eq_nil_iff.mpr blank]
        rfl
      · have starts : ∀ letter ∈ (core ++ after).head?, isBlank letter = false := by
          rw [List.head?_append_of_ne_nil _ empty]
          exact solid.first
        have ends : ∀ letter ∈ core.reverse.head?, isBlank letter = false := by
          rw [List.head?_reverse]
          exact solid.last
        have trailing : ∀ letter ∈ after.reverse, isBlank letter = true :=
          fun letter member => trail letter (List.mem_reverse.mp member)
        rw [trimmed, List.dropWhile_append_of_pos lead, dropWhile_of_head starts,
          List.reverse_append, List.dropWhile_append_of_pos trailing,
          dropWhile_of_head ends, List.reverse_reverse]

/-- What is no blank is in a list when it is in its core. -/
theorem Spaced.mem {letter : Letter} (spaced : Spaced isBlank core text)
    (visible : isBlank letter = false) (member : letter ∈ text) : letter ∈ core := by
  have notBlank : ¬ isBlank letter = true := by
    rw [visible]
    exact Bool.false_ne_true
  cases spaced with
  | around lead trail =>
      rcases List.mem_append.mp member with before | within
      · exact absurd (lead letter before) notBlank
      · rcases List.mem_append.mp within with inCore | after
        · exact inCore
        · exact absurd (trail letter after) notBlank

theorem Spaced.within {letter : Letter} (spaced : Spaced isBlank core text)
    (member : letter ∈ core) : letter ∈ text := by
  cases spaced with
  | around => exact List.mem_append_right _ (List.mem_append_left _ member)

/-- A text between two fields of its own is trimmed at the outer ends of these. -/
theorem trimmed_between {first last firstRaw lastRaw : List Letter} (middle : List Letter)
    (solidFirst : Solid isBlank first) (solidLast : Solid isBlank last)
    (someFirst : first ≠ []) (someLast : last ≠ [])
    (atFirst : Spaced isBlank first firstRaw) (atLast : Spaced isBlank last lastRaw) :
    ∃ firstCut lastCut, trimmed isBlank (firstRaw ++ (middle ++ lastRaw)) =
        firstCut ++ (middle ++ lastCut) ∧
      Spaced isBlank first firstCut ∧ Spaced isBlank last lastCut := by
  cases atFirst with
  | @around lead trail leadBlank trailBlank =>
      cases atLast with
      | @around lastLead lastTrail lastLeadBlank lastTrailBlank =>
          let core := (first ++ trail) ++ (middle ++ (lastLead ++ last))
          have whole : lead ++ (first ++ trail) ++ (middle ++ (lastLead ++ (last ++ lastTrail))) =
              lead ++ (core ++ lastTrail) := by
            simp only [core, List.append_assoc]
          have solid : Solid isBlank core := by
            constructor
            · have starts : core = first ++ (trail ++ (middle ++ (lastLead ++ last))) := by
                simp only [core, List.append_assoc]
              rw [starts, List.head?_append_of_ne_nil _ someFirst]
              exact solidFirst.first
            · have ends : core = (first ++ trail ++ middle ++ lastLead) ++ last := by
                simp only [core, List.append_assoc]
              rw [ends, List.getLast?_append_of_ne_nil _ someLast]
              exact solidLast.last
          rw [whole, trimmed_of_spaced solid (.around leadBlank lastTrailBlank)]
          exact ⟨_, _, rfl, spaced_append trailBlank, spaced_prepend lastLeadBlank⟩

/-- The blanks that were trimmed off belong to the outer fields. -/
theorem exists_between {first middle last : List Letter}
    (cut : trimmed isBlank text = first ++ (middle ++ last)) :
    ∃ firstRaw lastRaw, text = firstRaw ++ (middle ++ lastRaw) ∧
      Spaced isBlank (trimmed isBlank first) firstRaw ∧
      Spaced isBlank (trimmed isBlank last) lastRaw := by
  have around := spaced_trimmed isBlank text
  rw [cut] at around
  cases around with
  | @around before after lead trail =>
      have front := (spaced_trimmed isBlank first).pad lead
        (@List.forall_mem_nil _ fun letter => isBlank letter = true)
      have back := (spaced_trimmed isBlank last).pad
        (@List.forall_mem_nil _ fun letter => isBlank letter = true) trail
      rw [List.append_nil] at front
      refine ⟨before ++ first, last ++ after, ?_, front, back⟩
      simp only [List.append_assoc]

end ChaosLibs.Machine.TrimmedFields
