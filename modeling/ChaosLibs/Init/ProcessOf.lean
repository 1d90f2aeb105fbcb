import Mathlib.Data.List.GetD
import ChaosLibs.Common.PrintedNumbers
import ChaosLibs.Machine.SeparatedFields

/-!
# The identity of a process

`chaos_init_process_of` takes the thread group from the status text of a thread, and the
start time, the start of the code and of the stack from the stat text of the group.  The
name of the program stands in that text as it is, so the fields are counted from the last
parenthesis; the two addresses may be missing.
-/

namespace ChaosLibs.Init.ProcessOf

open ChaosLibs.Machine
open ChaosLibs.Common.CString
open ChaosLibs.Common.CountTexts
open ChaosLibs.Common.PrintedNumbers

/-! ## The code -/

/-- The files of `/proc/<pid>` that are read. -/
inductive ProcFile where
  | status
  | stat
deriving DecidableEq, Repr

/-- A buffer behind a read: the bytes read, a NUL, and what was there. -/
def fill (buffer read : Bytes) : Bytes :=
  read ++ 0 :: buffer.drop (read.length + 1)

/-- `strchr(text, stop)` in a buffer; `none` for `NULL`. -/
def strchr (stop : UInt8) (text : Bytes) : Option Bytes :=
  if stop ∈ cutAt 0 text then some (text.drop (cutAt stop text).length)
  else none

/-- `strrchr(text, stop)` in a buffer. -/
def strrchr (stop : UInt8) (text : Bytes) : Option Bytes :=
  if stop ∈ cutAt 0 text then
    some (text.drop ((cutAt 0 text).length - 1 -
      ((cutAt 0 text).reverse.takeWhile fun ch => ch != stop).length))
  else none

/-- `strstr(text, literal)` in a buffer. -/
def strstr (literal text : Bytes) : Option Bytes :=
  (cutAt 0 text).tails.find? (startsWith literal)

/-- `sscanf(field, "\nTgid: %ld", &group)`. -/
def scanTgid (field : Bytes) : Option Int :=
  let body := field.dropWhile isSpace
  if startsWith (bytes "Tgid:") body then strtol (body.drop 5) else none

/-- `sscanf(field, " %llu", &number)` of the string at a position. -/
def scanNumber (field : Bytes) : Option Nat :=
  (strtoul (cutAt 0 field)).map Prod.fst

/-- A value converted to `pid_t`. -/
def pidT (value : Int) : Int :=
  value.bmod (2 ^ 32)

/-- `strchr(field + 1, ' ')`. -/
def nextField (field : Bytes) : Option Bytes :=
  strchr (byte ' ') (field.drop 1)

/-- So many steps of `field = strchr(field + 1, ' ')`. -/
def skipFields : Nat → Bytes → Option Bytes
  | 0, field => some field
  | count + 1, field => (nextField field).bind (skipFields count)

/-- The factor of the field behind an index of the second loop. -/
def factor (index : Nat) : UInt64 :=
  if index = 25 then 0x9e3779b97f4a7c15 else 0xbf58476d1ce4e5b9

/-- The number that the second loop reads, 0 when there is none. -/
def addressOf (number : Option Nat) : UInt64 :=
  UInt64.ofNat (number.getD 0)

/-- The rounds of the second loop, from an index on. -/
def mixFields : Nat → Nat → Bytes → UInt64 → UInt64
  | 0, _, _, ticks => ticks
  | rounds + 1, index, field, ticks =>
      match nextField field with
      | none => ticks
      | some next =>
          mixFields rounds (index + 1) next
            (if index = 25 ∨ index = 27 then
              ticks ^^^ addressOf (scanNumber next) * factor index
            else ticks)

/-- What identifies a process image. -/
structure ProcessIdentity where
  tgid : Int
  start : UInt64
deriving DecidableEq, Repr

/-- `chaos_init_process_of`; `read` is `CHAOS_INIT_PROC_READ`, and `garbage` is
what the buffer holds before. -/
def chaosInitProcessOf
    (read : Int → ProcFile → Option Bytes) (garbage : Bytes) (tid : Int) :
    Option ProcessIdentity :=
  (read tid .status).bind fun status =>
    (strstr (bytes "\nTgid:") (fill garbage status)).bind fun line =>
      (scanTgid line).bind fun group =>
        (read (pidT group) .stat).bind fun stat =>
          (strrchr (byte ')') (fill (fill garbage status) stat)).bind
            fun paren =>
              (skipFields 19 (paren.drop 1)).bind fun field =>
                (scanNumber field).map fun ticks =>
                  ⟨pidT group, mixFields 6 22 field (UInt64.ofNat ticks)⟩

/-! ## What the kernel prints -/

/-- A stat text: the fields from 4 on are integers, and 22 is among them. -/
structure StatLine where
  pid : Nat
  comm : Bytes
  state : UInt8
  numbers : List Int
  proper : 0 ∉ comm
  letter : byte 'A' ≤ state
  enough : 19 ≤ numbers.length

/-- The fields behind the name, from field 3 on. -/
def StatLine.fields (line : StatLine) : List Bytes :=
  [line.state] :: line.numbers.map intText

/-- The text in front of the last parenthesis. -/
def StatLine.front (line : StatLine) : Bytes :=
  natText line.pid ++ (bytes " (" ++ line.comm)

/-- The whole text. -/
def StatLine.text (line : StatLine) : Bytes :=
  line.front ++ byte ')' ::
    (SeparatedFields.joined (byte ' ') line.fields ++ [byte '\n'])

/-- The length of the text through a field of the kernel's numbering. -/
def StatLine.through (line : StatLine) (field : Nat) : Nat :=
  line.front.length + 1 +
    (SeparatedFields.joined (byte ' ') (line.fields.take (field - 2))).length

/-- The fields that a cut behind so many bytes leaves, from field 3 on. -/
def StatLine.left (line : StatLine) (cut : Nat) : List Bytes :=
  SeparatedFields.pieces line.fields (cut - line.front.length - 1)

/-- A number field of the kernel's numbering, as an unsigned word. -/
def StatLine.word (line : StatLine) (field : Nat) : UInt64 :=
  UInt64.ofNat (wrapped (line.numbers.getD (field - 4) 0))

/-- What is left of a field as a number, 0 when there is none of it. -/
def leftWord (left : List Bytes) (field : Nat) : UInt64 :=
  addressOf ((strtoul (left.getD (field - 3) [])).map Prod.fst)

/-- The value formed from fields 22, 26 and 28. -/
def mixed (start code stack : UInt64) : UInt64 :=
  start ^^^ code * 0x9e3779b97f4a7c15 ^^^ stack * 0xbf58476d1ce4e5b9

/-- The status text of a thread names its group. -/
structure NamesGroup (status : Bytes) (group : Nat) : Prop where
  proper : 0 ∉ status
  line : ∃ after, strstr (bytes "\nTgid:") status =
    some (bytes "\nTgid:\t" ++ (natText group ++ byte '\n' :: after))
  fits : group < 2 ^ 31

/-- What is read for a thread: a status text that names its group, and the stat
text of the group, cut behind field 22. -/
structure Printed
    (read : Int → ProcFile → Option Bytes) (tid : Int) (group : Nat)
    (line : StatLine) (cut : Nat) : Prop where
  status : ∃ status, read tid .status = some status ∧ NamesGroup status group
  stat : read group .stat = some (line.text.take cut)
  behind : line.through 22 ≤ cut

/-! ## Strings in a buffer -/

theorem cutAt_append {stop : UInt8} {text rest : Bytes} (clean : stop ∉ text) :
    cutAt stop (text ++ stop :: rest) = text := by
  rw [cutAt, List.takeWhile_append_of_pos, List.takeWhile_cons_of_neg,
    List.append_nil]
  · exact fun same => absurd rfl (bne_iff_ne.mp same)
  · intro ch member
    rw [bne_iff_ne]
    rintro rfl
    exact clean member

/-- The first place of a byte in a string. -/
theorem strchr_eq
    {stop : UInt8} {before after stale : Bytes}
    (proper : 0 ∉ before ++ stop :: after) (clean : stop ∉ before) :
    strchr stop (before ++ stop :: after ++ 0 :: stale) =
      some (stop :: after ++ 0 :: stale) := by
  have first : cutAt stop (before ++ stop :: (after ++ 0 :: stale)) = before :=
    cutAt_append clean
  have inside : stop ∈ before ++ stop :: after :=
    List.mem_append_right _ List.mem_cons_self
  rw [strchr, cutAt_append proper, if_pos inside, List.append_assoc,
    List.cons_append, first, List.drop_left]

theorem strchr_eq_none
    {stop : UInt8} {text stale : Bytes}
    (proper : 0 ∉ text) (clean : stop ∉ text) :
    strchr stop (text ++ 0 :: stale) = none := by
  rw [strchr, cutAt_append proper, if_neg clean]

/-- The last place of a byte in a string. -/
theorem strrchr_eq
    {stop : UInt8} {before after stale : Bytes}
    (proper : 0 ∉ before ++ stop :: after) (clean : stop ∉ after) :
    strrchr stop (before ++ stop :: after ++ 0 :: stale) =
      some (stop :: after ++ 0 :: stale) := by
  have inside : stop ∈ before ++ stop :: after :=
    List.mem_append_right _ List.mem_cons_self
  have last : (before ++ stop :: after).reverse.takeWhile
      (fun ch => ch != stop) = after.reverse := by
    rw [List.reverse_append, List.reverse_cons, List.append_assoc,
      List.takeWhile_append_of_pos, List.singleton_append,
      List.takeWhile_cons_of_neg, List.append_nil]
    · exact fun same => absurd rfl (bne_iff_ne.mp same)
    · intro ch member
      rw [bne_iff_ne]
      rintro rfl
      exact clean (List.mem_reverse.mp member)
  have place : (before ++ stop :: after).length - 1 - after.length =
      before.length := by
    rw [List.length_append, List.length_cons]
    omega
  rw [strrchr, cutAt_append proper, if_pos inside, last, List.length_reverse,
    place, List.append_assoc, List.drop_left]

/-! ## Walking the fields -/

/-- A field that stands behind a space, or the start of one. -/
structure Clean (piece : Bytes) : Prop where
  space : byte ' ' ∉ piece
  paren : byte ')' ∉ piece
  proper : 0 ∉ piece
  start : ∀ ch, piece.head? = some ch → isSpace ch = false

/-- The fields that are left, the end of the line if it is, and the buffer. -/
def view (left : List Bytes) (ending stale : Bytes) : Bytes :=
  SeparatedFields.joined (byte ' ') left ++ ending ++ 0 :: stale

variable {left : List Bytes} {ending stale : Bytes}

theorem not_mem_joined {ch : UInt8} (apart : ch ≠ byte ' ')
    (clean : ∀ piece ∈ left, ch ∉ piece)
    (newline : ∀ ch ∈ ending, ch = byte '
') (other : ch ≠ byte '
') :
    ch ∉ SeparatedFields.joined (byte ' ') left ++ ending := by
  intro member
  rcases List.mem_append.mp member with inside | last
  · rcases List.mem_flatMap.mp inside with ⟨piece, mem, here⟩
    rcases List.mem_cons.mp here with same | within
    · exact apart same
    · exact clean piece mem within
  · exact other (newline ch last)

/-- The pieces and the end of a line that a cut left. -/
structure Cut (left : List Bytes) (ending : Bytes) : Prop where
  clean : ∀ piece ∈ left, Clean piece
  sound : SeparatedFields.Sound (fun piece => piece ≠ []) left
  newline : ∀ ch ∈ ending, ch = byte '\n'

theorem Cut.proper (cut : Cut left ending) :
    0 ∉ SeparatedFields.joined (byte ' ') left ++ ending :=
  not_mem_joined (by decide) (fun piece member =>
    (cut.clean piece member).proper) cut.newline (by decide)

theorem Cut.tail {piece : Bytes} (cut : Cut (piece :: left) ending) :
    Cut left ending where
  clean other member := cut.clean other (List.mem_cons_of_mem _ member)
  sound := by
    have sound := cut.sound
    cases left with
    | nil => trivial
    | cons next rest => exact sound.2
  newline := cut.newline

theorem Cut.drop (cut : Cut left ending) (count : Nat) :
    Cut (left.drop count) ending := by
  induction count generalizing left with
  | zero => exact cut
  | succ count induction =>
      cases left with
      | nil => exact cut
      | cons piece rest => exact induction cut.tail

/-- A step to the next field. -/
theorem nextField_view {piece : Bytes} (cut : Cut (piece :: left) ending) :
    nextField (view (piece :: left) ending stale) =
      if left = [] then none else some (view left ending stale) := by
  have own := cut.clean piece List.mem_cons_self
  have proper := cut.proper
  rw [SeparatedFields.joined_cons, List.cons_append, List.mem_cons,
    not_or] at proper
  rw [nextField, view, SeparatedFields.joined_cons, List.cons_append,
    List.cons_append, List.drop_one, List.tail_cons]
  cases left with
  | nil =>
      rw [if_pos rfl]
      apply strchr_eq_none proper.2
      rw [SeparatedFields.joined_nil, List.append_nil, List.mem_append, not_or]
      exact ⟨own.space, fun member =>
        absurd (cut.newline _ member) (by decide)⟩
  | cons next rest =>
      have split : piece ++
          SeparatedFields.joined (byte ' ') (next :: rest) ++ ending =
          piece ++ byte ' ' ::
            (next ++ SeparatedFields.joined (byte ' ') rest ++ ending) := by
        rw [SeparatedFields.joined_cons, List.append_assoc, List.cons_append]
      rw [if_neg (List.cons_ne_nil _ _), split]
      rw [split] at proper
      exact strchr_eq proper.2 own.space

theorem skipFields_view
    {count : Nat} (cut : Cut left ending) (more : count < left.length) :
    skipFields count (view left ending stale) =
      some (view (left.drop count) ending stale) := by
  induction count generalizing left with
  | zero => rfl
  | succ count induction =>
      cases left with
      | nil => cases more
      | cons piece rest =>
          have others : rest ≠ [] := by
            rintro rfl
            exact absurd (Nat.lt_of_succ_lt_succ more) (Nat.not_lt_zero _)
          rw [skipFields, nextField_view cut, if_neg others, Option.bind_some,
            induction cut.tail (Nat.lt_of_succ_lt_succ more)]
          rfl

/-- The number at a field. -/
theorem scanNumber_view {piece : Bytes} (cut : Cut (piece :: left) ending) :
    scanNumber (view (piece :: left) ending stale) =
      (strtoul piece).map Prod.fst := by
  rw [scanNumber, view, cutAt_append cut.proper, SeparatedFields.joined_cons,
    List.cons_append, List.append_assoc]
  cases piece with
  | nil =>
      -- Nothing is left behind a space that ends the text.
      have last : left = [] := by
        cases left with
        | nil => rfl
        | cons next rest => exact absurd rfl cut.sound.1
      have blank : ∀ ch ∈ ending, isSpace ch = true := by
        intro ch member
        rw [cut.newline ch member]
        decide
      have spaces : (byte ' ' :: ending).dropWhile isSpace = [] := by
        rw [List.dropWhile_cons_of_pos (by decide)]
        exact List.dropWhile_eq_nil_iff.mpr blank
      rw [last, SeparatedFields.joined_nil, List.nil_append, List.nil_append,
        strtoul_eq, spaces]
      rfl
  | cons first rest =>
      apply strtoul_append rest
      · exact (cut.clean _ List.mem_cons_self).start first rfl
      · intro ch head
        cases left with
        | nil =>
            rw [SeparatedFields.joined_nil, List.nil_append] at head
            rw [cut.newline ch (List.mem_of_head? head)]
            decide
        | cons next more =>
            rw [SeparatedFields.joined_cons] at head
            rw [← Option.some.inj head]
            decide

/-- The second loop on the pieces behind the field it starts from. -/
def mixPieces : Nat → Nat → List Bytes → UInt64 → UInt64
  | 0, _, _, ticks => ticks
  | _ + 1, _, [], ticks => ticks
  | rounds + 1, index, piece :: rest, ticks =>
      mixPieces rounds (index + 1) rest
        (if index = 25 ∨ index = 27 then
          ticks ^^^ addressOf ((strtoul piece).map Prod.fst) * factor index
        else ticks)

theorem mixFields_view
    {piece : Bytes} (cut : Cut (piece :: left) ending)
    (rounds index : Nat) (ticks : UInt64) :
    mixFields rounds index (view (piece :: left) ending stale) ticks =
      mixPieces rounds index left ticks := by
  induction rounds generalizing piece left index ticks with
  | zero => rfl
  | succ rounds induction =>
      rw [mixFields, nextField_view cut]
      cases left with
      | nil =>
          rw [if_pos rfl]
          rfl
      | cons next rest =>
          rw [if_neg (List.cons_ne_nil _ _)]
          dsimp only
          rw [induction cut.tail, scanNumber_view cut.tail]
          rfl

/-- The second loop mixes in the fourth and the sixth piece. -/
theorem mixPieces_eq (pieces : List Bytes) (ticks : UInt64) :
    mixPieces 6 22 pieces ticks =
      mixed ticks
        (addressOf ((strtoul (pieces.getD 3 [])).map Prod.fst))
        (addressOf ((strtoul (pieces.getD 5 [])).map Prod.fst)) := by
  have absent : addressOf ((strtoul []).map Prod.fst) = 0 := by decide
  rcases pieces with _ | ⟨a, _ | ⟨b, _ | ⟨c, _ | ⟨d, _ | ⟨e, _ | ⟨f, rest⟩⟩⟩⟩⟩⟩
  all_goals
    simp [mixPieces, mixed, factor, absent]

/-! ## The status text -/

/-- `%ld` behind a tab reads a printed number. -/
theorem strtol_natText {group : Nat} (fits : group < 2 ^ 31) (after : Bytes) :
    strtol (byte '\t' :: (natText group ++ byte '\n' :: after)) =
      some (group : Int) := by
  have digits : ∀ ch ∈ natText group, isDigit ch = true :=
    fun ch => isDigit_of_mem_natText
  have value : decimal (natText group) = group := decimal_natText group
  have run : (natText group ++ byte '\n' :: after).takeWhile isDigit =
      natText group := by
    rw [List.takeWhile_append_of_pos digits,
      List.takeWhile_cons_of_neg (by decide), List.append_nil]
  have nonempty := natText_ne_nil group
  generalize natText group = text at digits value run nonempty
  cases text with
  | nil => exact absurd rfl nonempty
  | cons first rest =>
      have digit := digits first List.mem_cons_self
      have start : ¬isSpace first = true := by
        rw [not_isSpace_of_isDigit digit]
        exact Bool.false_ne_true
      unfold strtol
      rw [List.dropWhile_cons_of_pos (by decide), List.cons_append,
        List.dropWhile_cons_of_neg start, takeSign_of_isDigit digit]
      rw [List.cons_append] at run
      dsimp only
      rw [run, if_neg nonempty, signedValue, if_neg Bool.false_ne_true, run,
        value]
      congr 1
      omega

theorem scanTgid_of_named {group : Nat} (fits : group < 2 ^ 31) (after : Bytes) :
    scanTgid (bytes "\nTgid:\t" ++ (natText group ++ byte '\n' :: after)) =
      some (group : Int) := by
  have literal : bytes "\nTgid:\t" = byte '\n' :: bytes "Tgid:" ++ [byte '\t'] := by
    decide
  have mark : (bytes "Tgid:").length = 5 := by decide
  have first : (bytes "Tgid:").head? = some (byte 'T') := by decide
  have body : ∀ rest, (bytes "\nTgid:\t" ++ rest).dropWhile isSpace =
      bytes "Tgid:" ++ byte '\t' :: rest := by
    intro rest
    rw [literal, List.append_assoc, List.cons_append,
      List.dropWhile_cons_of_pos (by decide)]
    cases whole : bytes "Tgid:" with
    | nil =>
        rw [whole] at mark
        cases mark
    | cons start others =>
        rw [whole] at first
        rw [List.cons_append, List.dropWhile_cons_of_neg]
        · rfl
        · rw [Option.some.inj first]
          decide
  have starts : startsWith (bytes "Tgid:")
      (bytes "Tgid:" ++ byte '\t' :: (natText group ++ byte '\n' :: after)) =
        true :=
    List.isPrefixOf_iff_prefix.mpr (List.prefix_append _ _)
  rw [scanTgid, body, if_pos starts, ← mark, List.drop_left, strtol_natText fits]

theorem pidT_of_fits {group : Nat} (fits : group < 2 ^ 31) :
    pidT (group : Int) = group :=
  Int.bmod_eq_of_le (by omega) (by omega)

/-- The status text gives the group. -/
theorem group_of_status
    {status : Bytes} {group : Nat} (names : NamesGroup status group)
    (garbage : Bytes) :
    (strstr (bytes "\nTgid:") (fill garbage status)).bind scanTgid =
      some (group : Int) := by
  rcases names.line with ⟨after, found⟩
  have same : strstr (bytes "\nTgid:") (fill garbage status) =
      strstr (bytes "\nTgid:") status := by
    rw [strstr, strstr, fill, cutAt_append names.proper,
      cutAt_of_not_mem names.proper]
  rw [same, found, Option.bind_some, scanTgid_of_named names.fits]

/-! ## The stat text -/

theorem clean_intText (number : Int) :
    Clean (intText number) ∧ intText number ≠ [] := by
  have digits : ∀ ch ∈ natText number.natAbs, isDigit ch = true :=
    fun ch => isDigit_of_mem_natText
  have absent : ∀ ch, isDigit ch = false → ch ≠ byte '-' →
      ch ∉ intText number := by
    intro ch other sign member
    unfold intText at member
    split at member
    · rcases List.mem_cons.mp member with minus | inside
      · exact sign minus
      · rw [digits ch inside] at other
        cases other
    · rw [digits ch member] at other
      cases other
  refine ⟨⟨absent _ (by decide) (by decide), absent _ (by decide) (by decide),
    absent _ (by decide) (by decide), ?_⟩, ?_⟩
  · intro ch head
    unfold intText at head
    split at head
    · rw [← Option.some.inj head]
      decide
    · exact not_isSpace_of_isDigit (digits ch (List.mem_of_head? head))
  · unfold intText
    split
    · exact List.cons_ne_nil _ _
    · exact natText_ne_nil _

theorem clean_state {state : UInt8} (letter : byte 'A' ≤ state) :
    Clean [state] := by
  have apart : ∀ ch : UInt8, ch < byte 'A' → ch ∉ [state] := by
    intro ch small member
    rw [List.mem_singleton.mp member] at small
    exact absurd letter (UInt8.not_le.mpr small)
  refine ⟨apart _ (by decide), apart _ (by decide), apart _ (by decide), ?_⟩
  intro ch head
  cases head
  exact not_isSpace_of_above (UInt8.lt_of_lt_of_le (by decide) letter)

/-- The fields that the kernel prints. -/
theorem clean_of_mem_fields
    {line : StatLine} {field : Bytes} (member : field ∈ line.fields) :
    Clean field ∧ field ≠ [] := by
  rcases List.mem_cons.mp member with rfl | number
  · exact ⟨clean_state line.letter, List.cons_ne_nil _ _⟩
  · rcases List.mem_map.mp number with ⟨value, _, rfl⟩
    exact clean_intText value

theorem Clean.take {field : Bytes} (clean : Clean field) (size : Nat) :
    Clean (field.take size) where
  space member := clean.space (List.mem_of_mem_take member)
  paren member := clean.paren (List.mem_of_mem_take member)
  proper member := clean.proper (List.mem_of_mem_take member)
  start ch head := by
    cases size with
    | zero => cases head
    | succ size =>
        cases field with
        | nil => cases head
        | cons first rest => exact clean.start ch head

/-- What a cut leaves of the end of the line. -/
theorem cut_left (line : StatLine) (cut size : Nat) :
    Cut (line.left cut) ([byte '\n'].take size) where
  clean piece member := by
    rcases SeparatedFields.exists_of_mem_pieces member with
      ⟨field, inside, size, rfl⟩
    exact (clean_of_mem_fields inside).1.take size
  sound := SeparatedFields.sound_pieces fun field member =>
    (clean_of_mem_fields member).2
  newline ch member := List.mem_singleton.mp (List.mem_of_mem_take member)

/-- A cut text: the name with its parentheses, and the pieces of the fields. -/
theorem take_text
    {line : StatLine} {cut : Nat} (behind : line.through 22 ≤ cut) :
    ∃ size, line.text.take cut = line.front ++ byte ')' ::
      (SeparatedFields.joined (byte ' ') (line.left cut) ++
        [byte '\n'].take size) := by
  unfold StatLine.through at behind
  refine ⟨cut - line.front.length - 1 -
    (SeparatedFields.joined (byte ' ') line.fields).length, ?_⟩
  have more : cut - line.front.length = cut - line.front.length - 1 + 1 := by
    omega
  rw [StatLine.text, List.take_append, List.take_of_length_le (by omega), more,
    List.take_succ_cons, List.take_append, StatLine.left,
    SeparatedFields.joined_pieces]
  rfl

theorem length_fields (line : StatLine) :
    line.fields.length = line.numbers.length + 1 := by
  rw [StatLine.fields, List.length_cons, List.length_map]

/-- The fields through one that the cut lies behind are whole. -/
theorem left_of_through
    {line : StatLine} {field cut : Nat} (behind : line.through field ≤ cut) :
    ∃ others, line.left cut = line.fields.take (field - 2) ++ others ∧
      (line.fields.length ≤ field - 2 → others = []) := by
  unfold StatLine.through at behind
  refine ⟨SeparatedFields.pieces (line.fields.drop (field - 2))
    (cut - line.front.length - 1 - (SeparatedFields.joined (byte ' ')
      (line.fields.take (field - 2))).length), ?_, ?_⟩
  · rw [← SeparatedFields.pieces_append (by omega), List.take_append_drop]
    rfl
  · intro all
    rw [List.drop_eq_nil_of_le all]
    rfl

/-- A number field as it is printed. -/
theorem getElem?_fields (line : StatLine) (place : Nat) :
    line.fields[place + 1]? = line.numbers[place]?.map intText := by
  rw [StatLine.fields, List.getElem?_cons_succ, List.getElem?_map]

/-- A whole field is read as its number; one that no line has is 0. -/
theorem leftWord_of_through
    {line : StatLine} {field cut : Nat} (number : 4 ≤ field)
    (behind : line.through field ≤ cut) :
    leftWord (line.left cut) field = line.word field := by
  rcases left_of_through behind with ⟨others, left, last⟩
  have index : field - 3 = field - 4 + 1 := by omega
  unfold leftWord StatLine.word addressOf
  rw [left, index]
  by_cases there : field - 4 < line.numbers.length
  · have whole : (line.fields.take (field - 2) ++ others)[field - 4 + 1]? =
        some (intText line.numbers[field - 4]) := by
      rw [List.getElem?_append_left (by
        rw [List.length_take, length_fields]; omega),
        List.getElem?_take_of_lt (by omega), getElem?_fields,
        List.getElem?_eq_getElem there]
      rfl
    rw [List.getD_eq_getElem?_getD, whole, Option.getD_some, strtoul_intText,
      Option.getD_some, List.getD_eq_getElem _ _ there]
  · have short : (line.fields.take (field - 2) ++ others).length ≤
        field - 4 + 1 := by
      rw [last (by rw [length_fields]; omega), List.append_nil,
        List.length_take, length_fields]
      omega
    rw [List.getD_eq_default _ _ short, List.getD_eq_default _ _ (by omega)]
    rfl

/-- The read comes to field 22 and what is left behind it. -/
theorem walk_of_printed
    {line : StatLine} {cut : Nat} (behind : line.through 22 ≤ cut)
    (buffer : Bytes) :
    ((strrchr (byte ')') (fill buffer (line.text.take cut))).bind fun paren =>
      skipFields 19 (paren.drop 1)).bind (fun field =>
        (scanNumber field).map fun ticks =>
          mixFields 6 22 field (UInt64.ofNat ticks)) =
      some (mixed (line.word 22) (leftWord (line.left cut) 26)
        (leftWord (line.left cut) 28)) := by
  rcases take_text behind with ⟨size, text⟩
  rcases left_of_through behind with ⟨others, left, _⟩
  have cutLine := cut_left line cut size
  have enough := line.enough
  have length : (line.fields.take (22 - 2)).length = 20 := by
    rw [List.length_take, length_fields]
    omega
  have proper : 0 ∉ line.front ++ byte ')' ::
      (SeparatedFields.joined (byte ' ') (line.left cut) ++
        [byte '\n'].take size) := by
    rw [List.mem_append, List.mem_cons, not_or, not_or]
    refine ⟨?_, by decide, cutLine.proper⟩
    rw [StatLine.front, List.mem_append, List.mem_append, not_or, not_or]
    refine ⟨fun member => ?_, by decide, line.proper⟩
    exact absurd (isDigit_of_mem_natText member) (by decide)
  have clean : byte ')' ∉ SeparatedFields.joined (byte ' ') (line.left cut) ++
      [byte '\n'].take size :=
    not_mem_joined (by decide) (fun piece member =>
      (cutLine.clean piece member).paren) cutLine.newline (by decide)
  have start : (line.left cut).drop 19 =
      intText (line.numbers.getD 18 0) :: others := by
    have place : line.fields[19]? = some (intText (line.numbers.getD 18 0)) := by
      rw [getElem?_fields, List.getElem?_eq_getElem (by omega),
        List.getD_eq_getElem _ _ (by omega)]
      rfl
    have last : (line.fields.take 20).drop 19 =
        [intText (line.numbers.getD 18 0)] := by
      rw [List.drop_take, List.drop_eq_getElem_cons (by
        rw [length_fields]; omega)]
      rw [List.getElem?_eq_getElem (by rw [length_fields]; omega)] at place
      rw [Option.some.inj place]
      rfl
    rw [left, List.drop_append_of_le_length (by omega)]
    exact congrArg (· ++ others) last
  have many : 19 < (line.left cut).length := by
    rw [left, List.length_append]
    omega
  have later : Cut (intText (line.numbers.getD 18 0) :: others)
      ([byte '\n'].take size) := by
    rw [← start]
    exact cutLine.drop 19
  have third : (line.left cut).getD 23 [] = others.getD 3 [] := by
    rw [left, List.getD_append_right _ _ _ _ (by omega), length]
  have fifth : (line.left cut).getD 25 [] = others.getD 5 [] := by
    rw [left, List.getD_append_right _ _ _ _ (by omega), length]
  have paren : strrchr (byte ')') (fill buffer (line.text.take cut)) =
      some (byte ')' :: (SeparatedFields.joined (byte ' ') (line.left cut) ++
        [byte '\n'].take size) ++
          0 :: buffer.drop ((line.text.take cut).length + 1)) := by
    rw [fill, text]
    exact strrchr_eq proper clean
  have walk := @skipFields_view (line.left cut) ([byte '\n'].take size)
    (buffer.drop ((line.text.take cut).length + 1)) 19 cutLine many
  rw [start] at walk
  rw [paren, Option.bind_some]
  show (skipFields 19 (view (line.left cut) ([byte '\n'].take size)
    (buffer.drop ((line.text.take cut).length + 1)))).bind _ = _
  rw [walk, Option.bind_some, scanNumber_view later, strtoul_intText,
    Option.map_some, mixFields_view later, mixPieces_eq, ← third, ← fifth]
  rfl

theorem identity_of_printed
    {read : Int → ProcFile → Option Bytes} {tid : Int} {group : Nat}
    {line : StatLine} {cut : Nat} (printed : Printed read tid group line cut)
    (garbage : Bytes) :
    chaosInitProcessOf read garbage tid =
      some ⟨group, mixed (line.word 22) (leftWord (line.left cut) 26)
        (leftWord (line.left cut) 28)⟩ := by
  rcases printed.status with ⟨status, statusRead, names⟩
  have walk := walk_of_printed printed.behind (fill garbage status)
  rw [Option.bind_assoc] at walk
  have pid := pidT_of_fits names.fits
  rw [chaosInitProcessOf, statusRead, Option.bind_some, ← Option.bind_assoc,
    group_of_status names garbage, Option.bind_some, pid, printed.stat,
    Option.bind_some]
  have identity := congrArg
    (Option.map fun start => (⟨group, start⟩ : ProcessIdentity)) walk
  simp only [Option.map_bind, Function.comp_def, Option.map_map,
    Option.map_some] at identity
  exact identity

/-- The group of the status text and the value of the three fields of the stat
text, whole fields as their numbers; threads whose texts agree on these have
one identity. -/
theorem processOf_exact
    {read : Int → ProcFile → Option Bytes} {tid : Int} {group : Nat}
    {line : StatLine} {cut : Nat} (printed : Printed read tid group line cut)
    (garbage : Bytes) :
    chaosInitProcessOf read garbage tid =
        some ⟨group, mixed (line.word 22) (leftWord (line.left cut) 26)
          (leftWord (line.left cut) 28)⟩ ∧
      (∀ field, 4 ≤ field → line.through field ≤ cut →
        leftWord (line.left cut) field = line.word field) ∧
      ∀ (otherRead : Int → ProcFile → Option Bytes) (otherGarbage : Bytes)
        (otherTid : Int) (otherLine : StatLine) (otherCut : Nat),
        Printed otherRead otherTid group otherLine otherCut →
        otherLine.word 22 = line.word 22 →
        leftWord (otherLine.left otherCut) 26 = leftWord (line.left cut) 26 →
        leftWord (otherLine.left otherCut) 28 = leftWord (line.left cut) 28 →
        chaosInitProcessOf otherRead otherGarbage otherTid =
          chaosInitProcessOf read garbage tid := by
  have exact : ∀ {read : Int → ProcFile → Option Bytes} {tid : Int}
      {line : StatLine} {cut : Nat}, Printed read tid group line cut →
      ∀ garbage, chaosInitProcessOf read garbage tid =
        some ⟨group, mixed (line.word 22) (leftWord (line.left cut) 26)
          (leftWord (line.left cut) 28)⟩ :=
    fun printed garbage => identity_of_printed printed garbage
  refine ⟨exact printed garbage, fun field => leftWord_of_through, ?_⟩
  intro otherRead otherGarbage otherTid otherLine otherCut other start code stack
  rw [exact other, exact printed, start, code, stack]

/-- A program named `a) R (b`; fields 22, 26 and 28 are 500, 4096 and 8192. -/
def renamedProgram : StatLine where
  pid := 7
  comm := bytes "a) R (b"
  state := byte 'S'
  numbers := [1, 7, 7, 0, -1, 4194304, 88, 0, 0, 0, 1, 2, 0, 0, 20, 0, 1, 0,
    500, 6553, 210, 99, 4096, 5000, 8192, 0]
  proper := by decide
  letter := by decide
  enough := by decide

/-- The files of its thread 9; the stat text ends in field 28. -/
def renamedProc (pid : Int) : ProcFile → Option Bytes
  | .status =>
      if pid = 9 then some (bytes "Name:\ta\nTgid:\t7\nNgid:\t0\n") else none
  | .stat =>
      if pid = 7 then
        some (renamedProgram.text.take (renamedProgram.through 28))
      else none

theorem processOf_exact_renamedProgram :
    chaosInitProcessOf renamedProc [] 9 =
      some ⟨7, mixed 500 4096 8192⟩ := by
  have printed : Printed renamedProc 9 7 renamedProgram
      (renamedProgram.through 28) :=
    { status := ⟨_, rfl, by decide, ⟨bytes "Ngid:\t0\n", by decide⟩, by decide⟩
      stat := rfl
      behind := by decide }
  have exact := processOf_exact printed []
  rw [exact.1, exact.2.1 26 (by decide) (by decide),
    exact.2.1 28 (by decide) (by decide)]
  rfl

end ChaosLibs.Init.ProcessOf
