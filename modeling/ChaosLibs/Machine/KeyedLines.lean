import ChaosLibs.Machine.CompleteLines

/-!
# Reports of keyed lines

A report has one line for each of its entries: the key, a sign, the value and the end of
the line.  A reader cuts the text at the ends of its lines, and each line at its first
sign.  Where no key has a sign or an end and no value has an end, the reader gets back
exactly the entries, so a value cannot pass for another line.
-/

namespace ChaosLibs.Machine.KeyedLines

open ChaosLibs.Machine

variable {Letter : Type*} (sign stop : Letter)

/-- A key and its value. -/
abbrev Entry (Letter : Type*) := List Letter × List Letter

/-- The line of an entry. -/
def line (entry : Entry Letter) : List Letter :=
  entry.1 ++ sign :: (entry.2 ++ [stop])

/-- The lines of the entries. -/
def report (entries : List (Entry Letter)) : List Letter :=
  entries.flatMap (line sign stop)

variable {sign stop}

/-- An entry that its line gives back. -/
structure Clean (sign stop : Letter) (entry : Entry Letter) : Prop where
  keySign : sign ∉ entry.1
  keyStop : stop ∉ entry.1
  valueStop : stop ∉ entry.2
  distinct : sign ≠ stop

@[simp]
theorem report_nil : report sign stop ([] : List (Entry Letter)) = [] :=
  rfl

@[simp]
theorem report_cons (entry : Entry Letter) (rest : List (Entry Letter)) :
    report sign stop (entry :: rest) =
      line sign stop entry ++ report sign stop rest :=
  rfl

variable [DecidableEq Letter]

variable (sign stop) in
/-- A line cut at its first sign; `none` when it has none. -/
def entryOf (text : List Letter) : Option (Entry Letter) :=
  if sign ∈ text then
    some (text.takeWhile fun letter => letter ≠ sign,
      (text.dropWhile fun letter => letter ≠ sign).tail)
  else none

variable (sign stop) in
/-- The entries of the complete lines of a text. -/
def entries (text : List Letter) : List (Entry Letter) :=
  (CompleteLines.lines stop text).filterMap (entryOf sign)

variable (sign stop) in
/-- The value of the first line with the key. -/
def valueOf (key text : List Letter) : Option (List Letter) :=
  ((entries sign stop text).find? fun entry => entry.1 = key).map Prod.snd

theorem entryOf_line {key value : List Letter} (clean : sign ∉ key) :
    entryOf sign (key ++ sign :: value) = some (key, value) := by
  have inside : sign ∈ key ++ sign :: value :=
    List.mem_append_right _ List.mem_cons_self
  have other : ∀ letter ∈ key, decide (letter ≠ sign) = true :=
    fun letter member => decide_eq_true fun same => clean (same ▸ member)
  rw [entryOf, if_pos inside, List.takeWhile_append_of_pos other,
    List.dropWhile_append_of_pos other, List.takeWhile_cons_of_neg (by simp),
    List.dropWhile_cons_of_neg (by simp), List.append_nil, List.tail_cons]

theorem lines_line {entry : Entry Letter} (clean : Clean sign stop entry)
    (rest : List Letter) :
    CompleteLines.lines stop (line sign stop entry ++ rest) =
      (entry.1 ++ sign :: entry.2) :: CompleteLines.lines stop rest := by
  have free : stop ∉ entry.1 ++ sign :: entry.2 := by
    simp [clean.keyStop, clean.valueStop, clean.distinct.symm]
  have shape : line sign stop entry ++ rest =
      (entry.1 ++ sign :: entry.2) ++ stop :: rest := by
    simp [line]
  rw [shape]
  exact (CompleteLines.lines_first free rest).1

/-- A report of clean entries reads back. -/
theorem entries_report {written : List (Entry Letter)}
    (clean : ∀ entry ∈ written, Clean sign stop entry) :
    entries sign stop (report sign stop written) = written := by
  induction written with
  | nil => rfl
  | cons entry rest induction =>
      have first := clean entry List.mem_cons_self
      have later := induction fun other member =>
        clean other (List.mem_cons_of_mem _ member)
      rw [entries] at later
      rw [entries, report_cons, lines_line first, List.filterMap_cons,
        entryOf_line first.keySign, later]

end ChaosLibs.Machine.KeyedLines
