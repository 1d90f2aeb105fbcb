import ChaosLibs.Common.Buffer
import ChaosLibs.Io.PathStack

/-!
# Paths are normalised in place

`chaos_io_normalize_path` on the buffer of its path.  One cursor reads the components, the
other ends what is written; between two rounds the buffer starts with the text that the
components read so far leave, and the bytes still to read are those of the path.
-/

namespace ChaosLibs.Io.NormalizeInPlace

open ChaosLibs.Common.CString
open ChaosLibs.Common.Buffer
open ChaosLibs.Io.PathText
open ChaosLibs.Io.PathStack

/-! ## The call -/

/-- The buffer, `read_at` and `write_at`. -/
structure Cursors where
  contents : Bytes
  readAt : Nat
  writeAt : Nat

/-- `while (path[read_at] == '/') ++read_at`. -/
def skipSlashes (contents : Bytes) (readAt : Nat) : Nat :=
  readAt + ((contents.drop readAt).takeWhile fun ch => ch == byte '/').length

/-- `while (path[read_at] != '\0' && path[read_at] != '/') ++read_at`. -/
def skipComponent (contents : Bytes) (readAt : Nat) : Nat :=
  readAt + ((contents.drop readAt).takeWhile fun ch => ch != 0 && ch != byte '/').length

/-- `while (write_at > 1 && path[write_at - 1] != '/') --write_at`. -/
def backUp (contents : Bytes) : Nat → Nat
  | 0 => 0
  | writeAt + 1 =>
      if 1 < writeAt + 1 && contents[writeAt]? != some (byte '/') then
        backUp contents writeAt
      else
        writeAt + 1

/-- `write_at` after a `..`. -/
def stepBack (contents : Bytes) (writeAt : Nat) : Nat :=
  let kept := backUp contents writeAt
  if 1 < kept then kept - 1 else kept

/-- `start`. -/
def componentStart (s : Cursors) : Nat :=
  skipSlashes s.contents s.readAt

/-- `write_at` once the slash before a component is written. -/
def writeTarget (s : Cursors) : Nat :=
  if 1 < s.writeAt then s.writeAt + 1 else s.writeAt

/-- The buffer once the slash before a component is written. -/
def slashed (s : Cursors) : Bytes :=
  if 1 < s.writeAt then s.contents.set s.writeAt (byte '/') else s.contents

/-- One round of the loop of `chaos_io_normalize_path`. -/
def round (s : Cursors) : Cursors :=
  let start := componentStart s
  let readAt := skipComponent s.contents start
  let length := readAt - start
  if length == 0 || length == 1 && s.contents[start]? == some (byte '.') then
    ⟨s.contents, readAt, s.writeAt⟩
  else if length == 2 && s.contents[start]? == some (byte '.') &&
      s.contents[start + 1]? == some (byte '.') then
    ⟨s.contents, readAt, stepBack s.contents s.writeAt⟩
  else
    ⟨memmove (slashed s) (writeTarget s) start length, readAt, writeTarget s + length⟩

/-- `path[read_at] != '\0'`. -/
def moreToRead (s : Cursors) : Bool :=
  (s.contents[s.readAt]?).getD 0 != 0

/-- The loop of `chaos_io_normalize_path`; `none` when `fuel` rounds are too few. -/
def normalizeLoop : Nat → Cursors → Option Cursors
  | 0, s => if moreToRead s then none else some s
  | fuel + 1, s => if moreToRead s then normalizeLoop fuel (round s) else some s

/-- The cursors before the first round. -/
def initial (contents : Bytes) : Cursors :=
  ⟨contents, 1, 1⟩

/-- `chaos_io_normalize_path`: the buffer as the call leaves it. -/
def normalizeInPlace (contents : Bytes) : Option Bytes :=
  if contents.head? != some (byte '/') then
    some contents
  else
    (normalizeLoop contents.length (initial contents)).map fun s =>
      s.contents.set s.writeAt 0

example :
    normalizeInPlace (bytes "/tmp/pd/x/../data/./f//" ++ [0]) =
      some (bytes "/tmp/pd/data/f" ++ 0 :: bytes "ta/./f//" ++ [0]) := by
  decide +kernel

/-! ## Components that are read -/

/-- The bytes still to read. -/
def unread (s : Cursors) : Bytes :=
  stringAt s.contents s.readAt

/-- The bytes written so far. -/
def written (s : Cursors) : Bytes :=
  s.contents.take s.writeAt

/-- The slashes, the component and the rest of the bytes still to read. -/
def slashes (s : Cursors) : Bytes :=
  (unread s).takeWhile fun ch => ch == byte '/'

def component (s : Cursors) : Bytes :=
  ((unread s).dropWhile fun ch => ch == byte '/').takeWhile fun ch => ch != byte '/'

def rest (s : Cursors) : Bytes :=
  ((unread s).dropWhile fun ch => ch == byte '/').dropWhile fun ch => ch != byte '/'

variable {s : Cursors}

theorem unread_eq (s : Cursors) : unread s = slashes s ++ (component s ++ rest s) := by
  rw [slashes, component, rest, List.takeWhile_append_dropWhile,
    List.takeWhile_append_dropWhile]

theorem noSlash_component (s : Cursors) : byte '/' ∉ component s := fun member =>
  bne_iff_ne.mp (List.mem_takeWhile_imp (p := fun ch => ch != byte '/') member) rfl

theorem head?_rest (s : Cursors) : rest s = [] ∨ (rest s).head? = some (byte '/') := by
  refine or_iff_not_imp_left.mpr fun some => ?_
  have stopped := List.head_dropWhile_not (fun ch => ch != byte '/') some
  rw [List.head?_eq_some_head some]
  exact congrArg Option.some (bne_eq_false_iff_eq.mp stopped)

/-- Of the bytes up to a NUL, those before it are read. -/
theorem takeWhile_drop (contents : Bytes) (position : Nat) (reads : UInt8 → Bool) :
    (contents.drop position).takeWhile (fun ch => ch != 0 && reads ch) =
      (stringAt contents position).takeWhile reads := by
  rw [stringAt, cutAt, List.takeWhile_takeWhile]
  congr 1
  funext ch
  rw [Bool.decide_and, Bool.decide_eq_true, Bool.decide_eq_true, Bool.and_comm]

theorem componentStart_eq (s : Cursors) :
    componentStart s = s.readAt + (slashes s).length := by
  rw [componentStart, skipSlashes, slashes, unread, ← takeWhile_drop]
  congr 3
  funext ch
  by_cases slash : ch = byte '/'
  · cases slash
    rfl
  · simp [slash]

theorem stringAt_componentStart (s : Cursors) :
    stringAt s.contents (componentStart s) = component s ++ rest s := by
  have split := unread_eq s
  rw [componentStart_eq, stringAt_add, ← unread, split, List.drop_left]
  rw [← unread, split, List.length_append]
  omega

/-- The component that a round reads. -/
theorem drop_componentStart (s : Cursors) :
    ∃ more, s.contents.drop (componentStart s) = component s ++ more ∧
      (s.contents.drop (componentStart s)).takeWhile (fun ch => ch != 0 && ch != byte '/') =
        component s := by
  have read := takeWhile_drop s.contents (componentStart s) fun ch => ch != byte '/'
  have whole : component s ++ rest s = (unread s).dropWhile fun ch => ch == byte '/' :=
    List.takeWhile_append_dropWhile
  rw [stringAt_componentStart, whole, ← component] at read
  exact ⟨_, by rw [← read, List.takeWhile_append_dropWhile], read⟩

theorem skipComponent_componentStart (s : Cursors) :
    skipComponent s.contents (componentStart s) = componentStart s + (component s).length := by
  obtain ⟨-, -, read⟩ := drop_componentStart s
  rw [skipComponent, read]

theorem moreToRead_iff (s : Cursors) : moreToRead s = true ↔ unread s ≠ [] := by
  rw [moreToRead, ← List.head?_drop, unread, stringAt, cutAt]
  cases s.contents.drop s.readAt with
  | nil => exact iff_of_false (by decide) (fun some => some rfl)
  | cons ch others =>
      rw [List.takeWhile_cons, List.head?_cons, Option.getD_some]
      cases ch != 0 with
      | false => exact iff_of_false Bool.false_ne_true (fun some => some rfl)
      | true => exact iff_of_true rfl (List.cons_ne_nil _ _)

/-! ## One round -/

/-- What one round does, by the component it reads. -/
theorem round_cases (s : Cursors) :
    (round s).readAt = componentStart s + (component s).length ∧
      (((component s = [] ∨ component s = [byte '.']) ∧
          (round s).contents = s.contents ∧ (round s).writeAt = s.writeAt) ∨
        (component s = [byte '.', byte '.'] ∧
          (round s).contents = s.contents ∧
          (round s).writeAt = stepBack s.contents s.writeAt) ∨
        (component s ≠ [] ∧ component s ≠ [byte '.'] ∧ component s ≠ [byte '.', byte '.'] ∧
          (round s).contents =
            memmove (slashed s) (writeTarget s) (componentStart s) (component s).length ∧
          (round s).writeAt = writeTarget s + (component s).length)) := by
  obtain ⟨more, read, -⟩ := drop_componentStart s
  have first : s.contents[componentStart s]? = (component s ++ more)[0]? := by
    rw [← read, List.getElem?_drop, Nat.add_zero]
  have second : s.contents[componentStart s + 1]? = (component s ++ more)[1]? := by
    rw [← read, List.getElem?_drop]
  rw [round, skipComponent_componentStart, Nat.add_sub_cancel_left, first, second]
  generalize component s = component
  match component with
  | [] => exact ⟨rfl, .inl ⟨.inl rfl, rfl, rfl⟩⟩
  | [ch] =>
      by_cases dot : ch = byte '.'
      · cases dot
        exact ⟨rfl, .inl ⟨.inr rfl, rfl, rfl⟩⟩
      · simp [dot]
  | [ch, next] =>
      by_cases dots : ch = byte '.' ∧ next = byte '.'
      · obtain ⟨rfl, rfl⟩ := dots
        exact ⟨rfl, .inr (.inl ⟨rfl, rfl, rfl⟩)⟩
      · simp [dots]
  | ch :: next :: third :: others => simp

theorem length_slashed (s : Cursors) : (slashed s).length = s.contents.length := by
  rw [slashed]
  split
  · exact List.length_set
  · rfl

theorem take_slashed (inBuffer : s.writeAt < s.contents.length) :
    (slashed s).take (writeTarget s) =
      written s ++ if 1 < s.writeAt then [byte '/'] else [] := by
  rw [slashed, writeTarget, written]
  split
  · rw [List.take_succ_eq_append_getElem (by rw [List.length_set]; exact inBuffer),
      List.take_set_of_le (Nat.le_refl _), List.getElem_set_self]
  · rw [List.append_nil]

theorem drop_slashed {position : Nat} (behind : writeTarget s ≤ position) :
    (slashed s).drop position = s.contents.drop position := by
  rw [writeTarget] at behind
  rw [slashed]
  split
  · next nested =>
      rw [if_pos nested] at behind
      exact List.drop_set_of_lt behind
  · rfl

/-! ## What holds between two rounds -/

/--
The cursors between two rounds on a path: what is written is a stack of kept components,
what is still to read are bytes of the path, and a slash parts the two once a component is
written.
-/
structure Sound (original : Bytes) (s : Cursors) : Prop where
  sameLength : s.contents.length = original.length
  sameUnread : s.contents.drop s.readAt = original.drop s.readAt
  inText : s.readAt ≤ (stringAt original 0).length
  behind : s.writeAt ≤ s.readAt
  stacked : ∃ stack, (∀ each ∈ stack, Kept each) ∧ written s = render stack
  noNul : 0 ∉ written s
  separated : 1 < s.writeAt → unread s = [] ∨ (unread s).head? = some (byte '/')

variable {original : Bytes}

theorem unread_of_sound (sound : Sound original s) :
    unread s = (stringAt original 0).drop s.readAt := by
  rw [unread, stringAt, sound.sameUnread, ← stringAt]
  have later : stringAt original (0 + s.readAt) = _ := stringAt_add sound.inText
  rw [Nat.zero_add] at later
  exact later

/-- The cursors stay inside the buffer. -/
theorem readAt_lt_length (terminated : 0 ∈ original) (sound : Sound original s) :
    s.readAt < s.contents.length := by
  rw [sound.sameLength]
  exact sound.inText.trans_lt (length_text_lt terminated)

theorem length_written (terminated : 0 ∈ original) (sound : Sound original s) :
    (written s).length = s.writeAt :=
  List.length_take_of_le (sound.behind.trans (readAt_lt_length terminated sound).le)

/-- The slash before a component and the component fit in front of what is still to read. -/
theorem writeTarget_le_componentStart (sound : Sound original s) (more : unread s ≠ []) :
    writeTarget s ≤ componentStart s := by
  rw [writeTarget, componentStart_eq]
  have behind := sound.behind
  split
  · next nested =>
      have slash := (sound.separated nested).resolve_left more
      obtain ⟨others, split⟩ := List.head?_eq_some_iff.mp slash
      have skipped : 0 < (slashes s).length := by
        rw [slashes, split, List.takeWhile_cons_of_pos rfl]
        exact Nat.succ_pos _
      omega
  · omega

/-- The read cursor after a round, in the text. -/
theorem componentStop_le (sound : Sound original s) :
    componentStart s + (component s).length ≤ (stringAt original 0).length := by
  have split := congrArg List.length (unread_eq s)
  rw [unread_of_sound sound, List.length_drop, List.length_append, List.length_append] at split
  have := sound.inText
  rw [componentStart_eq]
  omega

/-! ## Steps back -/

theorem backUp_le (contents : Bytes) (writeAt : Nat) : backUp contents writeAt ≤ writeAt := by
  induction writeAt with
  | zero => exact Nat.le_refl 0
  | succ writeAt induction =>
      rw [backUp]
      split
      · exact Nat.le_succ_of_le induction
      · exact Nat.le_refl _

theorem one_le_backUp (contents : Bytes) {writeAt : Nat} (some : 1 ≤ writeAt) :
    1 ≤ backUp contents writeAt := by
  induction writeAt with
  | zero => exact some
  | succ writeAt induction =>
      rw [backUp]
      split
      · next back =>
          refine induction (Nat.le_of_lt_succ ?_)
          exact of_decide_eq_true (Bool.and_eq_true_iff.mp back).1
      · exact some

/-- The bytes up to the last slash. -/
theorem take_backUp {contents : Bytes} (rooted : contents.head? = some (byte '/'))
    {writeAt : Nat} (inBuffer : writeAt ≤ contents.length) :
    contents.take (backUp contents writeAt) =
      ((contents.take writeAt).reverse.dropWhile fun ch => ch != byte '/').reverse := by
  induction writeAt with
  | zero => rfl
  | succ writeAt induction =>
      have last : contents[writeAt]? = some contents[writeAt] :=
        List.getElem?_eq_getElem inBuffer
      rw [backUp, List.take_succ_eq_append_getElem inBuffer, List.reverse_append,
        List.reverse_singleton, List.singleton_append, last]
      by_cases slash : contents[writeAt] = byte '/'
      · rw [slash, if_neg (by simp), List.dropWhile_cons_of_neg (by simp), List.reverse_cons,
          List.reverse_reverse, ← slash, List.take_succ_eq_append_getElem inBuffer]
      · have nested : 1 < writeAt + 1 := by
          refine Nat.succ_lt_succ (Nat.pos_of_ne_zero fun zero => ?_)
          subst zero
          rw [List.head?_eq_getElem?, last] at rooted
          exact slash (Option.some.inj rooted)
        rw [if_pos (by simp [nested, slash]), List.dropWhile_cons,
          if_pos (bne_iff_ne.mpr slash)]
        exact induction (Nat.le_of_succ_le inBuffer)

/-- `..` takes the last component away. -/
theorem take_stepBack {contents : Bytes} (rooted : contents.head? = some (byte '/'))
    {writeAt : Nat} (some : 1 ≤ writeAt) (inBuffer : writeAt < contents.length) :
    contents.take (stepBack contents writeAt) = dropComponent (contents.take writeAt) := by
  have kept := List.reverse_eq_iff.mp (take_backUp rooted inBuffer.le).symm
  have atLeast := one_le_backUp contents some
  have short := (backUp_le contents writeAt).trans_lt inBuffer
  rw [stepBack, dropComponent, kept, List.length_reverse, List.length_take_of_le short.le]
  by_cases nested : 1 < backUp contents writeAt
  · rw [if_pos nested, if_neg (Nat.not_le.mpr nested), List.tail_reverse, List.reverse_reverse,
      List.dropLast_take short]
  · rw [if_neg nested, if_pos (Nat.not_lt.mp nested),
      Nat.le_antisymm (Nat.not_lt.mp nested) atLeast]
    obtain ⟨others, rfl⟩ := List.head?_eq_some_iff.mp rooted
    rfl

theorem stepBack_le (contents : Bytes) (writeAt : Nat) : stepBack contents writeAt ≤ writeAt := by
  have := backUp_le contents writeAt
  rw [stepBack]
  split <;> omega

/-! ## A round keeps it -/

theorem head?_contents (sound : Sound original s) : s.contents.head? = some (byte '/') := by
  obtain ⟨stack, -, same⟩ := sound.stacked
  have split := List.take_append_drop s.writeAt s.contents
  rw [← written, same] at split
  rw [← split]
  rfl

theorem one_le_writeAt (sound : Sound original s) : 1 ≤ s.writeAt := by
  obtain ⟨stack, -, same⟩ := sound.stacked
  refine Nat.pos_of_ne_zero fun zero => ?_
  rw [written, zero, List.take_zero] at same
  exact absurd same (List.cons_ne_nil _ _).symm

/-- A round writes the component it reads, as the list model does. -/
theorem written_round (terminated : 0 ∈ original) (sound : Sound original s)
    (more : unread s ≠ []) :
    written (round s) = writeComponent (written s) (component s) := by
  have inBuffer := readAt_lt_length terminated sound
  have behind := sound.behind
  have ahead := writeTarget_le_componentStart sound more
  have stop := (componentStop_le sound).trans_lt (length_text_lt terminated)
  rw [← sound.sameLength] at stop
  obtain ⟨-, ⟨skipped, contents, writeAt⟩ | ⟨up, contents, writeAt⟩ |
    ⟨ne_nil, ne_dot, ne_dots, contents, writeAt⟩⟩ := round_cases s
  · rw [written, contents, writeAt, ← written, writeComponent_of_skipped skipped]
  · rw [written, contents, writeAt, take_stepBack (head?_contents sound)
      (one_le_writeAt sound) (behind.trans_lt inBuffer), ← written, up]
    rfl
  · obtain ⟨bytes, read, -⟩ := drop_componentStart s
    rw [written, contents, writeAt,
      take_memmove ahead (by rw [length_slashed]; exact stop.le),
      take_slashed (behind.trans_lt inBuffer), drop_slashed ahead, read, List.take_left,
      writeComponent_of_named ne_nil ne_dot ne_dots, length_written terminated sound]

theorem noNul_component (s : Cursors) : 0 ∉ component s := fun member =>
  bne_iff_ne.mp (@ne_nul_of_mem s.contents (componentStart s) 0
    (stringAt_componentStart s ▸ List.mem_append_left (rest s) member)) rfl

theorem readAt_le_componentStart (s : Cursors) : s.readAt ≤ componentStart s := by
  rw [componentStart_eq]
  exact Nat.le_add_right _ _

theorem writeAt_round_le (sound : Sound original s) (more : unread s ≠ []) :
    (round s).writeAt ≤ (round s).readAt := by
  have behind := sound.behind
  have ahead := writeTarget_le_componentStart sound more
  have start := readAt_le_componentStart s
  have back := stepBack_le s.contents s.writeAt
  obtain ⟨readAt, ⟨-, -, writeAt⟩ | ⟨-, -, writeAt⟩ | ⟨-, -, -, -, writeAt⟩⟩ := round_cases s <;>
    omega

/-- A round keeps the length of the buffer, and the bytes that it has not read. -/
theorem contents_round (terminated : 0 ∈ original) (sound : Sound original s)
    (more : unread s ≠ []) :
    (round s).contents.length = s.contents.length ∧
      (round s).contents.drop (round s).readAt = s.contents.drop (round s).readAt := by
  have ahead := writeTarget_le_componentStart sound more
  have stop := (componentStop_le sound).trans_lt (length_text_lt terminated)
  rw [← sound.sameLength, ← length_slashed] at stop
  obtain ⟨readAt, ⟨-, contents, -⟩ | ⟨-, contents, -⟩ | ⟨-, -, -, contents, -⟩⟩ := round_cases s
  · rw [contents]
    exact ⟨rfl, rfl⟩
  · rw [contents]
    exact ⟨rfl, rfl⟩
  · rw [contents, readAt, length_memmove ahead stop.le, length_slashed,
      drop_memmove ahead stop.le (Nat.add_le_add_right ahead _),
      drop_slashed (ahead.trans (Nat.le_add_right _ _))]
    exact ⟨rfl, rfl⟩

/-- A round leaves the rest behind its component to read. -/
theorem unread_round (terminated : 0 ∈ original) (sound : Sound original s)
    (more : unread s ≠ []) : unread (round s) = rest s := by
  have inText : (component s).length ≤ (stringAt s.contents (componentStart s)).length := by
    rw [stringAt_componentStart, List.length_append]
    exact Nat.le_add_right _ _
  rw [unread, stringAt, (contents_round terminated sound more).2, ← stringAt,
    (round_cases s).1, stringAt_add inText, stringAt_componentStart, List.drop_left]

theorem sound_round (terminated : 0 ∈ original) (sound : Sound original s)
    (more : unread s ≠ []) : Sound original (round s) := by
  obtain ⟨sameLength, sameUnread⟩ := contents_round terminated sound more
  have read : (round s).readAt = s.readAt + ((round s).readAt - s.readAt) := by
    have := readAt_le_componentStart s
    have := (round_cases s).1
    omega
  obtain ⟨stack, kept, same⟩ := sound.stacked
  exact
    { sameLength := sameLength.trans sound.sameLength
      sameUnread := by
        rw [sameUnread, read, ← List.drop_drop, sound.sameUnread, List.drop_drop]
      inText := (round_cases s).1 ▸ componentStop_le sound
      behind := writeAt_round_le sound more
      stacked := by
        refine ⟨foldComponent stack (component s),
          kept_foldComponent kept (noSlash_component s), ?_⟩
        rw [written_round terminated sound more, same, writeComponent_render kept]
      noNul := by
        rw [written_round terminated sound more]
        intro nul
        rcases mem_writeComponent nul with before | added | slash
        · exact sound.noNul before
        · exact noNul_component s added
        · exact absurd slash (by decide)
      separated := fun _ => by
        rw [unread_round terminated sound more]
        exact head?_rest s }

/-! ## The whole loop -/

/-- The path that the rounds to come leave. -/
def remaining (s : Cursors) : Bytes :=
  ((unread s).splitOn (byte '/')).foldl writeComponent (written s)

theorem remaining_round (terminated : 0 ∈ original) (sound : Sound original s)
    (more : unread s ≠ []) : remaining (round s) = remaining s := by
  have split : component s ++ rest s = (unread s).dropWhile fun ch => ch == byte '/' :=
    List.takeWhile_append_dropWhile
  rw [remaining, unread_round terminated sound more, written_round terminated sound more,
    ← foldl_component_append (noSlash_component s) (head?_rest s), split,
    foldl_dropWhile_slash, ← remaining]

/-- A round reads at least one byte. -/
theorem length_rest_lt (more : unread s ≠ []) : (rest s).length < (unread s).length := by
  have split := congrArg List.length (unread_eq s)
  rw [List.length_append, List.length_append] at split
  by_cases none : slashes s = [] ∧ component s = []
  · have whole := unread_eq s
    rw [none.1, none.2, List.nil_append, List.nil_append] at whole
    have slash := (head?_rest s).resolve_left (whole ▸ more)
    obtain ⟨others, first⟩ := List.head?_eq_some_iff.mp slash
    have some : slashes s ≠ [] := by
      rw [slashes, whole, first, List.takeWhile_cons_of_pos rfl]
      exact List.cons_ne_nil _ _
    exact absurd none.1 some
  · rw [← List.length_eq_zero_iff, ← List.length_eq_zero_iff] at none
    omega

/-- The loop ends, with nothing left to read. -/
theorem normalizeLoop_of_sound (terminated : 0 ∈ original) {fuel : Nat}
    (sound : Sound original s) (enough : (unread s).length ≤ fuel) :
    ∃ last, normalizeLoop fuel s = some last ∧ Sound original last ∧
      written last = remaining s := by
  have ended (last : Cursors) (done : unread last = []) : written last = remaining last := by
    rw [remaining, done, List.splitOn_nil, List.foldl_cons, List.foldl_nil,
      writeComponent_of_skipped (.inl rfl)]
  induction fuel generalizing s with
  | zero =>
      have done := List.eq_nil_of_length_eq_zero (Nat.le_zero.mp enough)
      refine ⟨s, ?_, sound, ended s done⟩
      rw [normalizeLoop, if_neg (fun more => (moreToRead_iff s).mp more done)]
  | succ fuel induction =>
      rw [normalizeLoop]
      by_cases done : unread s = []
      · rw [if_neg (fun more => (moreToRead_iff s).mp more done)]
        exact ⟨s, rfl, sound, ended s done⟩
      · rw [if_pos ((moreToRead_iff s).mpr done), ← remaining_round terminated sound done]
        refine induction (sound_round terminated sound done) ?_
        rw [unread_round terminated sound done]
        exact Nat.le_of_lt_succ ((length_rest_lt done).trans_le enough)

/-! ## The whole call -/

/-- The cursors at the head of the loop in a call on a buffer. -/
inductive Reached (contents : Bytes) : Cursors → Prop where
  | start (rooted : contents.head? = some (byte '/')) : Reached contents (initial contents)
  | round {s : Cursors} (reached : Reached contents s) (more : moreToRead s = true) :
      Reached contents (round s)

theorem sound_initial (terminated : 0 ∈ original)
    (rooted : original.head? = some (byte '/')) : Sound original (initial original) := by
  obtain ⟨others, rfl⟩ := List.head?_eq_some_iff.mp rooted
  exact
    { sameLength := rfl
      sameUnread := rfl
      inText := Nat.succ_le_succ (Nat.zero_le _)
      behind := Nat.le_refl 1
      stacked := ⟨[], fun _ member => absurd member List.not_mem_nil, rfl⟩
      noNul := fun member => absurd (List.mem_singleton.mp member) (by decide)
      separated := fun nested => absurd nested (Nat.lt_irrefl 1) }

theorem sound_of_reached (terminated : 0 ∈ original) (reached : Reached original s) :
    Sound original s := by
  induction reached with
  | start rooted => exact sound_initial terminated rooted
  | round reached more induction =>
      exact sound_round terminated induction ((moreToRead_iff _).mp more)

theorem isAbsolute_text (contents : Bytes) :
    IsAbsolute (stringAt contents 0) ↔ contents.head? = some (byte '/') := by
  cases contents with
  | nil => exact Iff.rfl
  | cons ch others =>
      rw [IsAbsolute, stringAt, List.drop_zero, cutAt, List.takeWhile_cons]
      cases nul : ch != 0 with
      | true => exact Iff.rfl
      | false =>
          cases bne_eq_false_iff_eq.mp nul
          exact iff_of_false (by simp) (by simp; decide)

/-- On an absolute path the call leaves what the list model computes. -/
theorem normalizeInPlace_of_absolute (buffer : TextBuffer) (absolute : IsAbsolute buffer.text) :
    ∃ result : TextBuffer, normalizeInPlace buffer.contents = some result.contents ∧
      result.text = chaosIoNormalizePath buffer.text ∧
      result.text.length ≤ buffer.text.length := by
  have rooted := (isAbsolute_text buffer.contents).mp absolute
  have start := sound_initial buffer.terminated rooted
  have enough : (unread (initial buffer.contents)).length ≤ buffer.contents.length := by
    rw [unread_of_sound start, List.length_drop]
    exact (Nat.sub_le _ _).trans (length_text_lt buffer.terminated).le
  obtain ⟨last, looped, sound, left⟩ := normalizeLoop_of_sound buffer.terminated start enough
  have inBuffer := readAt_lt_length buffer.terminated sound
  have stop := sound.behind.trans_lt inBuffer
  refine ⟨⟨last.contents.set last.writeAt 0, List.mem_set stop 0⟩, ?_, ?_⟩
  · rw [normalizeInPlace, if_neg (by simp [rooted]), looped, Option.map_some]
  · have text : stringAt (last.contents.set last.writeAt 0) 0 = written last :=
      stringAt_set_nul sound.noNul (Nat.zero_le _) stop
    change stringAt (last.contents.set last.writeAt 0) 0 = _ ∧
      (stringAt (last.contents.set last.writeAt 0) 0).length ≤ _
    rw [text, length_written buffer.terminated sound]
    refine ⟨?_, sound.behind.trans sound.inText⟩
    obtain ⟨others, split⟩ : ∃ others, buffer.text = byte '/' :: others :=
      List.head?_eq_some_iff.mp absolute
    rw [left, remaining, unread_of_sound start, ← TextBuffer.text, split, chaosIoNormalizePath,
      if_pos (beq_self_eq_true _), components_eq_splitOn]
    obtain ⟨bytes, whole⟩ := List.head?_eq_some_iff.mp rooted
    rw [written, whole]
    rfl

theorem normalizeInPlace_of_relative (buffer : TextBuffer)
    (relative : ¬ IsAbsolute buffer.text) :
    normalizeInPlace buffer.contents = some buffer.contents := by
  rw [normalizeInPlace, if_pos]
  exact bne_iff_ne.mpr (mt (isAbsolute_text buffer.contents).mpr relative)

/-- The call is the list model. -/
theorem normalizeInPlace_text (buffer : TextBuffer) :
    ∃ result : TextBuffer, normalizeInPlace buffer.contents = some result.contents ∧
      result.text = chaosIoNormalizePath buffer.text ∧
      result.text.length ≤ buffer.text.length := by
  by_cases absolute : IsAbsolute buffer.text
  · exact normalizeInPlace_of_absolute buffer absolute
  · refine ⟨buffer, normalizeInPlace_of_relative buffer absolute, ?_, Nat.le_refl _⟩
    rw [chaosIoNormalizePath_of_relative absolute]

/-- What a call does to the path in its buffer. -/
structure Normalizes (buffer result : TextBuffer) : Prop where
  /-- The call returns. -/
  returns : normalizeInPlace buffer.contents = some result.contents
  refines :
    result.text = if IsAbsolute buffer.text then normalized buffer.text else buffer.text
  shorter : result.text.length ≤ buffer.text.length
  /-- At the head of the loop, and where a component is moved. -/
  behind : ∀ s, Reached buffer.contents s →
    s.writeAt ≤ s.readAt ∧ (moreToRead s = true → writeTarget s ≤ componentStart s)
  /-- What is written names no directory above the root. -/
  rooted : ∀ s, Reached buffer.contents s →
    ∃ stack, (∀ each ∈ stack, Kept each) ∧ s.contents.take s.writeAt = render stack
  once : ∃ again : TextBuffer, normalizeInPlace result.contents = some again.contents ∧
    again.text = result.text

theorem exists_normalizes (buffer : TextBuffer) :
    ∃ result : TextBuffer, Normalizes buffer result := by
  obtain ⟨result, returns, text, shorter⟩ := normalizeInPlace_text buffer
  obtain ⟨again, returnsAgain, textAgain, -⟩ := normalizeInPlace_text result
  refine ⟨result,
    { returns := returns
      refines := ?_
      shorter := shorter
      behind := fun s reached => ?_
      rooted := fun s reached => (sound_of_reached buffer.terminated reached).stacked
      once := ⟨again, returnsAgain, ?_⟩ }⟩
  · split
    · next absolute => rw [text, chaosIoNormalizePath_eq_normalized absolute]
    · next relative => rw [text, chaosIoNormalizePath_of_relative relative]
  · have sound := sound_of_reached buffer.terminated reached
    exact ⟨sound.behind, fun more =>
      writeTarget_le_componentStart sound ((moreToRead_iff s).mp more)⟩
  · rw [textAgain, text, chaosIoNormalizePath_idem]

/-- A relative path is not normalised. -/
theorem relative_ne_normalized :
    ¬ ∀ buffer result : TextBuffer, normalizeInPlace buffer.contents = some result.contents →
      result.text = normalized buffer.text := by
  intro refines
  have relative := refines ⟨bytes "a//b" ++ [0], by decide⟩ ⟨bytes "a//b" ++ [0], by decide⟩ rfl
  exact absurd relative (by decide +kernel)

end ChaosLibs.Io.NormalizeInPlace
