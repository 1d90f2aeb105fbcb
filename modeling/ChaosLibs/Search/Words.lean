import Mathlib.Data.List.DropRight
import Mathlib.Data.List.Infix

/-!
# The words of a text

A text is split at its gaps, and each word loses the letters of another kind at
its end; a run of which nothing is left is no word.  A scan from the right that
looks for one word at a time finds the last word of what it has not yet read.
-/

namespace ChaosLibs.Search

variable {Letter : Type*}

/-- A word, and where in its text it begins. -/
structure Word (Letter : Type*) where
  start : Nat
  text : List Letter
deriving DecidableEq, Repr

section Split

variable (isGap isTail : Letter → Bool)

/-- The runs between the gaps of a text that begins at `start`. -/
def runs : Nat → List Letter → List (Word Letter)
  | start, [] => [⟨start, []⟩]
  | start, letter :: rest =>
      if isGap letter then
        ⟨start, []⟩ :: runs (start + 1) rest
      else
        match runs (start + 1) rest with
        | [] => [⟨start, [letter]⟩]
        | first :: others => ⟨start, letter :: first.text⟩ :: others

/-- A run without the tail letters at its end. -/
def Word.trimmed (run : Word Letter) : Word Letter :=
  { run with text := run.text.rdropWhile isTail }

/-- The words of a text that begins at `start`. -/
def words (start : Nat) (text : List Letter) : List (Word Letter) :=
  ((runs isGap start text).map (Word.trimmed isTail)).filter fun word =>
    !word.text.isEmpty

end Split

variable {isGap isTail : Letter → Bool}

/-- The first run is what stands before the first gap. -/
theorem runs_eq_cons (start : Nat) (text : List Letter) :
    ∃ others, runs isGap start text =
      ⟨start, text.takeWhile fun letter => !isGap letter⟩ :: others := by
  induction text generalizing start with
  | nil => exact ⟨[], rfl⟩
  | cons letter rest induction =>
      rw [runs]
      split
      · rename_i gap
        rw [List.takeWhile_cons_of_neg (by rw [gap]; exact Bool.false_ne_true)]
        exact ⟨_, rfl⟩
      · rename_i notGap
        rcases induction (start + 1) with ⟨others, first⟩
        have kept : (letter :: rest).takeWhile (fun letter => !isGap letter) =
            letter :: rest.takeWhile fun letter => !isGap letter :=
          List.takeWhile_cons_of_pos (by simpa using notGap)
        rw [first, kept]
        exact ⟨others, rfl⟩

theorem runs_ne_nil (start : Nat) (text : List Letter) :
    runs isGap start text ≠ [] := by
  rcases @runs_eq_cons _ isGap start text with ⟨others, first⟩
  rw [first]
  exact List.cons_ne_nil _ _

/-- A gap ends the runs before it. -/
theorem runs_append_gap (start : Nat) (before after : List Letter) {gap : Letter}
    (isGapGap : isGap gap = true) :
    runs isGap start (before ++ gap :: after) =
      runs isGap start before ++ runs isGap (start + before.length + 1) after := by
  induction before generalizing start with
  | nil =>
      exact if_pos isGapGap
  | cons letter rest induction =>
      have later := induction (start + 1)
      rw [Nat.add_right_comm start 1] at later
      rw [List.cons_append, runs, runs, later, List.length_cons, ← Nat.add_assoc]
      split
      · rfl
      · cases firsts : runs isGap (start + 1) rest with
        | nil => exact absurd firsts (runs_ne_nil _ _)
        | cons first others => rfl

/-- A text without a gap is one run. -/
theorem runs_of_noGap (start : Nat) {text : List Letter}
    (noGap : ∀ letter ∈ text, isGap letter = false) :
    runs isGap start text = [⟨start, text⟩] := by
  induction text generalizing start with
  | nil => rfl
  | cons letter rest induction =>
      rcases List.forall_mem_cons.mp noGap with ⟨here, later⟩
      rw [runs, if_neg (Bool.not_eq_true _ ▸ here), induction (start + 1) later]

/-- The letters of a run are letters of the text, and none of them is a gap. -/
theorem mem_of_mem_runs {start : Nat} {text : List Letter} {run : Word Letter}
    (member : run ∈ runs isGap start text) :
    ∀ letter ∈ run.text, letter ∈ text ∧ isGap letter = false := by
  induction text generalizing start run with
  | nil =>
      rw [List.mem_singleton.mp member]
      exact nofun
  | cons first rest induction =>
      rw [runs] at member
      intro letter inside
      split at member
      · rcases List.mem_cons.mp member with rfl | member
        · cases inside
        · rcases induction member letter inside with ⟨inRest, other⟩
          exact ⟨List.mem_cons_of_mem _ inRest, other⟩
      · rename_i notGap
        cases firsts : runs isGap (start + 1) rest with
        | nil => exact absurd firsts (runs_ne_nil _ _)
        | cons head others =>
            rw [firsts] at member
            have known : ∀ other ∈ runs isGap (start + 1) rest, ∀ letter ∈ other.text,
                letter ∈ first :: rest ∧ isGap letter = false := by
              intro other found letter inside
              rcases induction found letter inside with ⟨inRest, other⟩
              exact ⟨List.mem_cons_of_mem _ inRest, other⟩
            rw [firsts] at known
            rcases List.mem_cons.mp member with rfl | member
            · rcases List.mem_cons.mp inside with rfl | inside
              · exact ⟨List.mem_cons_self, Bool.not_eq_true _ ▸ notGap⟩
              · exact known head List.mem_cons_self letter inside
            · exact known run (List.mem_cons_of_mem _ member) letter inside

/-- A run stands in its text where it says. -/
theorem prefix_of_mem_runs {start : Nat} {text : List Letter} {run : Word Letter}
    (member : run ∈ runs isGap start text) :
    ∃ skipped, run.start = start + skipped ∧ run.text <+: text.drop skipped := by
  induction text generalizing start run with
  | nil =>
      rw [List.mem_singleton.mp member]
      exact ⟨0, rfl, List.prefix_refl _⟩
  | cons letter rest induction =>
      have shifted : ∀ other ∈ runs isGap (start + 1) rest,
          ∃ skipped, other.start = start + (skipped + 1) ∧
            other.text <+: rest.drop skipped := by
        intro other found
        rcases induction found with ⟨skipped, placed, stands⟩
        exact ⟨skipped, by rw [placed, Nat.add_right_comm, Nat.add_assoc], stands⟩
      rw [runs] at member
      split at member
      · rcases List.mem_cons.mp member with rfl | member
        · exact ⟨0, rfl, List.nil_prefix⟩
        · rcases shifted run member with ⟨skipped, placed, stands⟩
          exact ⟨skipped + 1, placed, stands⟩
      · rcases @runs_eq_cons _ isGap (start + 1) rest with ⟨others, first⟩
        rw [first] at member shifted
        rcases List.mem_cons.mp member with rfl | member
        · exact ⟨0, rfl, List.cons_prefix_cons.mpr ⟨rfl, List.takeWhile_prefix _⟩⟩
        · rcases shifted run (List.mem_cons_of_mem _ member) with
            ⟨skipped, placed, stands⟩
          exact ⟨skipped + 1, placed, stands⟩

/-- A word stands in its text where it says. -/
theorem prefix_of_mem_words {text : List Letter} {word : Word Letter}
    (member : word ∈ words isGap isTail 0 text) : word.text <+: text.drop word.start := by
  rcases List.mem_map.mp (List.mem_of_mem_filter member) with ⟨run, found, rfl⟩
  rcases prefix_of_mem_runs found with ⟨skipped, placed, stands⟩
  have start : (run.trimmed isTail).start = skipped := placed.trans (Nat.zero_add _)
  rw [start]
  exact (List.rdropWhile_prefix _ _).trans stands

theorem words_append_gap (start : Nat) (before after : List Letter) {gap : Letter}
    (isGapGap : isGap gap = true) :
    words isGap isTail start (before ++ gap :: after) =
      words isGap isTail start before ++
        words isGap isTail (start + before.length + 1) after := by
  rw [words, runs_append_gap start before after isGapGap, List.map_append,
    List.filter_append]
  rfl

/-- Gaps and tail letters make no word. -/
theorem words_of_blank (start : Nat) {text : List Letter}
    (blank : ∀ letter ∈ text, isGap letter = true ∨ isTail letter = true) :
    words isGap isTail start text = [] := by
  rw [words, List.filter_eq_nil_iff]
  intro word member
  rcases List.mem_map.mp member with ⟨run, found, rfl⟩
  have gone : run.text.rdropWhile isTail = [] := by
    rw [List.rdropWhile_eq_nil_iff]
    intro letter inside
    rcases mem_of_mem_runs found letter inside with ⟨inText, notGap⟩
    rcases blank letter inText with gap | tail
    · exact absurd (gap.symm.trans notGap) Bool.noConfusion
    · exact tail
  rw [Word.trimmed, gone]
  exact Bool.false_ne_true

/-- A run that only tail letters follow, to the end of the text or to a gap. -/
theorem words_of_run (start : Nat) {word blanks : List Letter}
    (noGap : ∀ letter ∈ word, isGap letter = false)
    (last : ∃ letter, word.getLast? = some letter ∧ isTail letter = false)
    (blank : ∀ letter ∈ blanks, isGap letter = true ∨ isTail letter = true) :
    words isGap isTail start (word ++ blanks) = [⟨start, word⟩] := by
  have tailLetters : ∀ letter ∈ blanks.takeWhile fun letter => !isGap letter,
      isGap letter = false ∧ isTail letter = true := by
    intro letter inside
    have notGap : isGap letter = false := by
      simpa using List.mem_takeWhile_imp inside
    rcases blank letter (List.takeWhile_sublist _ |>.subset inside) with gap | tail
    · exact absurd (gap.symm.trans notGap) Bool.noConfusion
    · exact ⟨notGap, tail⟩
  have trimmed : (word ++ blanks.takeWhile fun letter => !isGap letter).rdropWhile
      isTail = word := by
    rcases last with ⟨letter, ends, notTail⟩
    rcases List.getLast?_eq_some_iff.mp ends with ⟨front, rfl⟩
    have cut : ∀ extra : List Letter, (∀ other ∈ extra, isTail other = true) →
        (front ++ [letter] ++ extra).rdropWhile isTail = front ++ [letter] := by
      intro extra
      induction extra using List.reverseRecOn with
      | nil =>
          intro _
          rw [List.append_nil]
          exact List.rdropWhile_concat_neg _ _ _ (Bool.not_eq_true _ ▸ notTail)
      | append_singleton extra other induction =>
          intro tails
          rw [← List.append_assoc, List.rdropWhile_concat_pos _ _ _
            (tails other (List.mem_append_right _ List.mem_cons_self))]
          exact induction fun one member => tails one (List.mem_append_left _ member)
    exact cut _ fun other member => (tailLetters other member).2
  have nonempty : word.isEmpty = false := by
    rcases last with ⟨letter, ends, -⟩
    cases word with
    | nil => cases ends
    | cons first rest => rfl
  have oneRun : words isGap isTail start
      (word ++ blanks.takeWhile fun letter => !isGap letter) = [⟨start, word⟩] := by
    rw [words, runs_of_noGap start, List.map_singleton, Word.trimmed, trimmed,
      List.filter_cons_of_pos (by rw [nonempty]; rfl), List.filter_nil]
    intro letter member
    rcases List.mem_append.mp member with inWord | inBlanks
    · exact noGap letter inWord
    · exact (tailLetters letter inBlanks).1
  have whole := List.takeWhile_append_dropWhile (p := fun letter => !isGap letter)
    (l := blanks)
  cases rest : blanks.dropWhile fun letter => !isGap letter with
  | nil =>
      rw [rest, List.append_nil] at whole
      rw [whole] at oneRun
      exact oneRun
  | cons gap after =>
      have isGapGap : isGap gap = true := by
        have stopped := List.head?_dropWhile_not (fun letter => !isGap letter) blanks
        rw [rest] at stopped
        simpa using stopped
      rw [rest] at whole
      have later : ∀ letter ∈ after, isGap letter = true ∨ isTail letter = true := by
        intro letter member
        refine blank letter ?_
        rw [← whole]
        exact List.mem_append_right _ (List.mem_cons_of_mem _ member)
      rw [← whole, ← List.append_assoc, words_append_gap _ _ _ isGapGap, oneRun,
        words_of_blank _ later, List.append_nil]

/--
The last word of a text: it begins the text or follows a gap, and only gaps and tail
letters follow it.
-/
theorem words_append_word {before word blanks : List Letter}
    (bounded : before = [] ∨ ∃ front gap, before = front ++ [gap] ∧ isGap gap = true)
    (noGap : ∀ letter ∈ word, isGap letter = false)
    (last : ∃ letter, word.getLast? = some letter ∧ isTail letter = false)
    (blank : ∀ letter ∈ blanks, isGap letter = true ∨ isTail letter = true) :
    words isGap isTail 0 (before ++ (word ++ blanks)) =
      words isGap isTail 0 before ++ [⟨before.length, word⟩] := by
  rcases bounded with rfl | ⟨front, gap, rfl, isGapGap⟩
  · exact words_of_run 0 noGap last blank
  · have alone : words isGap isTail 0 (front ++ [gap]) = words isGap isTail 0 front := by
      rw [words_append_gap 0 front [] isGapGap]
      exact List.append_nil _
    rw [List.append_assoc, List.singleton_append,
      words_append_gap 0 front _ isGapGap, words_of_run _ noGap last blank, alone,
      List.length_append, List.length_singleton, Nat.zero_add]

end ChaosLibs.Search
