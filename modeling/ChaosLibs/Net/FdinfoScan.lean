import ChaosLibs.Common.Buffer
import ChaosLibs.Common.PrintedNumbers
import ChaosLibs.Machine.CompleteLines

/-!
# Scanning the fdinfo of an epoll instance

A wait on an epoll instance looks for the `tfd:` line of a descriptor with a POLL rule.  The
text is read in pieces into a small buffer: a cut line is carried over, and a line longer
than the buffer is skipped.  Whatever the sizes of the reads, the lines examined are those
of the whole text that are shorter than the buffer, up to the first match.
-/

namespace ChaosLibs.Net.FdinfoScan

open ChaosLibs.Machine
open ChaosLibs.Common.CString
open ChaosLibs.Common.PrintedNumbers

/-- `CHAOS_NET_FDINFO_CHUNK`. -/
def chaosNetFdinfoChunk : Nat := 512

/-- `CHAOS_NET_FDINFO_MAX`. -/
def chaosNetFdinfoMax : Nat := 256 * 1024

/-- `ch != '\n'`. -/
def inLine (ch : UInt8) : Bool :=
  ch ≠ byte '\n'

/-- The descriptor of a `tfd:` line has a POLL rule; `watched` is
`chaos_net_wait_match_fd_loaded`. -/
def namesWatched (watched : Int → Bool) (line : Bytes) : Bool :=
  match strtol (line.drop 4) with
  | none => false
  | some target => decide (0 ≤ target) && watched (target.bmod (2 ^ 32))

/-- `strncmp(line, "tfd:", 4) == 0`. -/
def isTfdLine (line : Bytes) : Bool :=
  startsWith (bytes "tfd:") line

theorem length_rest_lt {text rest : Bytes} {ending : UInt8}
    (behind : text.dropWhile inLine = ending :: rest) :
    rest.length < text.length := by
  have suffix := (@List.dropWhile_suffix _ text inLine).length_le
  rw [behind, List.length_cons] at suffix
  omega

/-- `chaos_net_wait_scan_fdinfo`: the `tfd:` lines examined, and the result. -/
def chaosNetWaitScanFdinfo (watched : Int → Bool) (text : Bytes) :
    List Bytes × Bool :=
  match _behind : text.dropWhile inLine with
  | [] => ([], false)
  | _ :: rest =>
      if isTfdLine (text.takeWhile inLine) then
        if namesWatched watched (text.takeWhile inLine) then
          ([text.takeWhile inLine], true)
        else
          (text.takeWhile inLine :: (chaosNetWaitScanFdinfo watched rest).1,
            (chaosNetWaitScanFdinfo watched rest).2)
      else chaosNetWaitScanFdinfo watched rest
termination_by text.length
decreasing_by all_goals exact length_rest_lt _behind

/-- The reading loop between two reads, with the lines examined so far. -/
structure ScanState where
  buffer : Bytes
  skipping : Bool
  found : Bool
  examined : List Bytes

/-- The string of a buffer through its last newline. -/
def throughNewline (buffer : Bytes) : Bytes :=
  (cutAt 0 buffer).take ((cutAt 0 buffer).length -
    ((cutAt 0 buffer).reverse.takeWhile inLine).length)

/-- The lines to scan: without the rest of an overlong line. -/
def linesOf (skipping : Bool) (head : Bytes) : Bytes :=
  if skipping then (head.dropWhile inLine).drop 1 else head

/-- One round of the loop with the bytes read. -/
def absorb (watched : Int → Bool) (state : ScanState) (piece : Bytes) :
    ScanState :=
  let buffer := state.buffer ++ piece
  if byte '\n' ∉ cutAt 0 buffer then
    if buffer.length = chaosNetFdinfoChunk - 1 then
      { state with buffer := [], skipping := true }
    else { state with buffer := buffer }
  else
    let lines := linesOf state.skipping (throughNewline buffer)
    let scanned :=
      if lines = [] then ([], false) else chaosNetWaitScanFdinfo watched lines
    { buffer := buffer.drop (throughNewline buffer).length
      skipping := false
      found := scanned.2
      examined := state.examined ++ scanned.1 }

/-- What a `read` returns: at most what it wants to, the room and the rest. -/
def readCount (size : Nat) (state : ScanState) (rest : Bytes) : Nat :=
  min size (min (chaosNetFdinfoChunk - 1 - state.buffer.length) rest.length)

/-- The loop of `chaos_net_wait_match_epoll_fdinfo` over the rest of the text;
`sizes` are the sizes of the reads to come. -/
def readLoop (watched : Int → Bool) (sizes : Nat → Nat)
    (index total : Nat) (rest : Bytes) (state : ScanState) : ScanState :=
  if state.found then state
  else if _stop : readCount (sizes index) state rest = 0 ∨
      chaosNetFdinfoMax < total then state
  else
    readLoop watched sizes (index + 1)
      (total + readCount (sizes index) state rest)
      (rest.drop (readCount (sizes index) state rest))
      (absorb watched state (rest.take (readCount (sizes index) state rest)))
termination_by rest.length
decreasing_by
  have most : readCount (sizes index) state rest ≤ rest.length :=
    Nat.le_trans (Nat.min_le_right _ _) (Nat.min_le_right _ _)
  rw [List.length_drop]
  omega

/-- `chaos_net_wait_match_epoll_fdinfo` on an fdinfo text. -/
def chaosNetWaitMatchEpollFdinfo
    (watched : Int → Bool) (sizes : Nat → Nat) (text : Bytes) : ScanState :=
  readLoop watched sizes 0 0 text ⟨[], false, false, []⟩

/-! ## Lines -/

variable {watched : Int → Bool}

/-- The `tfd:` lines among some lines through the first that matches. -/
def examine (watched : Int → Bool) : List Bytes → List Bytes × Bool
  | [] => ([], false)
  | line :: rest =>
      if isTfdLine line then
        if namesWatched watched line then ([line], true)
        else (line :: (examine watched rest).1, (examine watched rest).2)
      else examine watched rest

/-- The lines that are, with their newline, shorter than the buffer. -/
def short (lines : List Bytes) : List Bytes :=
  lines.filter fun line => line.length + 1 < chaosNetFdinfoChunk

theorem split_at_newline (text : Bytes) :
    (text.dropWhile inLine = [] ∧ byte '\n' ∉ text) ∨
      ∃ rest, text.dropWhile inLine = byte '\n' :: rest ∧
        text = text.takeWhile inLine ++ byte '\n' :: rest ∧
        byte '\n' ∉ text.takeWhile inLine := by
  have whole := @List.takeWhile_append_dropWhile _ inLine text
  have clean : byte '\n' ∉ text.takeWhile inLine := by
    intro member
    exact absurd (List.mem_takeWhile_imp member) (by decide)
  cases behind : text.dropWhile inLine with
  | nil =>
      left
      rw [behind, List.append_nil] at whole
      exact ⟨rfl, whole ▸ clean⟩
  | cons ending rest =>
      right
      have stops : ¬inLine ending = true := by
        have head := @List.head_dropWhile_not _ inLine text (by
          rw [behind]; exact List.cons_ne_nil _ _)
        simp only [behind, List.head_cons] at head
        rw [head]
        exact Bool.false_ne_true
      have newline : ending = byte '\n' := by
        by_contra other
        exact stops (decide_eq_true other)
      subst newline
      rw [behind] at whole
      exact ⟨rest, rfl, whole.symm, clean⟩

/-- The scan of a text is that of its lines. -/
theorem scan_eq (watched : Int → Bool) (text : Bytes) :
    chaosNetWaitScanFdinfo watched text =
      examine watched (CompleteLines.lines (byte '\n') text) := by
  induction length : text.length using Nat.strong_induction_on
    generalizing text with
  | _ length induction =>
      unfold chaosNetWaitScanFdinfo
      rcases split_at_newline text with ⟨none, clean⟩ | ⟨rest, some, whole, clean⟩
      · have empty : CompleteLines.lines (byte '\n') text = [] :=
          congrArg Prod.fst (CompleteLines.split_of_not_mem clean)
        rw [empty]
        split
        · rfl
        · next behind =>
          rw [none] at behind
          cases behind
      · have lines := (CompleteLines.lines_first clean rest).1
        rw [← whole] at lines
        have later := induction rest.length
          (by rw [← length]; exact length_rest_lt some) rest rfl
        rw [lines, examine]
        split
        · next behind =>
          rw [some] at behind
          cases behind
        · next behind =>
          rw [some] at behind
          cases behind
          rw [later]

theorem examine_append (lines others : List Bytes) :
    examine watched (lines ++ others) =
      if (examine watched lines).2 then examine watched lines
      else ((examine watched lines).1 ++ (examine watched others).1,
        (examine watched others).2) := by
  induction lines with
  | nil => rfl
  | cons line rest induction =>
      rw [List.cons_append, examine, examine, induction]
      by_cases tfd : isTfdLine line = true
      · rw [if_pos tfd, if_pos tfd]
        by_cases matched : namesWatched watched line = true
        · rw [if_pos matched, if_pos matched]
          rfl
        · rw [if_neg matched, if_neg matched]
          dsimp only
          split <;> rfl
      · rw [if_neg tfd, if_neg tfd]

/-! ## Rounds -/

/-- The loop has come behind `done`: the buffer holds the line that goes on
there, or an end of it when it is overlong, and the short lines of `done` have
been examined. -/
structure Follows (watched : Int → Bool) (done : Bytes) (state : ScanState) :
    Prop where
  proper : 0 ∉ state.buffer
  room : state.buffer.length + 1 < chaosNetFdinfoChunk
  carried : state.skipping = false →
    state.buffer = CompleteLines.carry (byte '\n') done
  overlong : state.skipping = true →
    chaosNetFdinfoChunk ≤
      (CompleteLines.carry (byte '\n') done).length + 1 ∧
      ∃ before, CompleteLines.carry (byte '\n') done = before ++ state.buffer
  examined : (state.examined, state.found) =
    examine watched (short (CompleteLines.lines (byte '\n') done))

theorem Follows.clean {done : Bytes} {state : ScanState}
    (follows : Follows watched done state) :
    byte '\n' ∉ state.buffer := by
  have none := @CompleteLines.not_mem_carry _ _ (byte '\n') done
  cases skips : state.skipping with
  | false => rwa [follows.carried skips]
  | true =>
      rcases (follows.overlong skips).2 with ⟨before, split⟩
      rw [split] at none
      exact fun member => none (List.mem_append_right _ member)

/-- The lines of a buffer with its last newline are those of its string through
that newline, and the rest is carried. -/
theorem throughNewline_spec
    {buffer : Bytes} (proper : 0 ∉ buffer) :
    CompleteLines.lines (byte '\n') (throughNewline buffer) =
        CompleteLines.lines (byte '\n') buffer ∧
      CompleteLines.carry (byte '\n') (throughNewline buffer) = [] ∧
      buffer.drop (throughNewline buffer).length =
        CompleteLines.carry (byte '\n') buffer := by
  have carried : CompleteLines.carry (byte '\n') buffer =
      (buffer.reverse.takeWhile inLine).reverse :=
    CompleteLines.carry_eq buffer
  have less : (buffer.reverse.takeWhile inLine).length ≤ buffer.length := by
    have most := (@List.takeWhile_prefix _ buffer.reverse inLine).length_le
    rwa [List.length_reverse] at most
  have head : throughNewline buffer =
      buffer.take (buffer.length -
        (buffer.reverse.takeWhile inLine).length) := by
    rw [throughNewline, cutAt_of_not_mem proper]
  have tail : buffer.drop (buffer.length -
      (buffer.reverse.takeWhile inLine).length) =
        CompleteLines.carry (byte '\n') buffer := by
    have suffix : (buffer.reverse.takeWhile inLine).reverse <:+ buffer := by
      rw [← List.reverse_prefix, List.reverse_reverse]
      exact List.takeWhile_prefix _
    have drop := List.suffix_iff_eq_drop.mp suffix
    rw [List.length_reverse] at drop
    rw [carried, ← drop]
  have whole : throughNewline buffer ++
      CompleteLines.carry (byte '\n') buffer = buffer := by
    rw [head, ← tail, List.take_append_drop]
  have clean : byte '\n' ∉ CompleteLines.carry (byte '\n')
      (throughNewline buffer) ++ CompleteLines.carry (byte '\n') buffer := by
    rw [List.mem_append, not_or]
    exact ⟨CompleteLines.not_mem_carry _, CompleteLines.not_mem_carry _⟩
  have parts := CompleteLines.split_append_of_not_mem clean
  rw [whole] at parts
  refine ⟨parts.1.symm, List.self_eq_append_left.mp parts.2, ?_⟩
  rw [head, List.length_take, Nat.min_eq_left (Nat.sub_le _ _), tail]

/-- Lines within the buffer are short. -/
theorem short_of_fits
    {text : Bytes} (fits : text.length < chaosNetFdinfoChunk) :
    short (CompleteLines.lines (byte '\n') text) =
      CompleteLines.lines (byte '\n') text := by
  apply List.filter_eq_self.mpr
  intro line member
  have less := (CompleteLines.length_parts text).1 line member
  exact decide_eq_true (Nat.lt_of_le_of_lt less fits)

theorem short_append (lines others : List Bytes) :
    short (lines ++ others) = short lines ++ short others :=
  List.filter_append ..

/-- The lines of a round are scanned behind those examined before. -/
theorem examine_of_scanned
    {lines others : List Bytes} {state : ScanState} {scanned : Bytes}
    (live : state.found = false)
    (examined : (state.examined, state.found) = examine watched lines)
    (same : CompleteLines.lines (byte '\n') scanned = others) :
    (state.examined ++ (if scanned = [] then ([], false)
        else chaosNetWaitScanFdinfo watched scanned).1,
      (if scanned = [] then ([], false)
        else chaosNetWaitScanFdinfo watched scanned).2) =
      examine watched (lines ++ others) := by
  have scan : (if scanned = [] then ([], false)
      else chaosNetWaitScanFdinfo watched scanned) =
        examine watched others := by
    rw [← same]
    by_cases empty : scanned = []
    · rw [if_pos empty, empty]
      rfl
    · rw [if_neg empty, scan_eq]
  have found : (examine watched lines).2 = false := by
    rw [← examined]
    exact live
  have before : state.examined = (examine watched lines).1 := by
    rw [← examined]
  rw [scan, examine_append, found, if_neg Bool.false_ne_true, before]

/-- A round without a newline in the buffer. -/
theorem follows_without_newline
    {done piece : Bytes} {state : ScanState}
    (follows : Follows watched done state) (proper : 0 ∉ state.buffer ++ piece)
    (fits : (state.buffer ++ piece).length < chaosNetFdinfoChunk)
    (none : byte '\n' ∉ state.buffer ++ piece) :
    Follows watched (done ++ piece)
      (if (state.buffer ++ piece).length = chaosNetFdinfoChunk - 1 then
        { state with buffer := [], skipping := true }
      else { state with buffer := state.buffer ++ piece }) := by
  have clean : byte '\n' ∉ CompleteLines.carry (byte '\n') done ++ piece := by
    rw [List.mem_append, not_or] at none ⊢
    exact ⟨CompleteLines.not_mem_carry _, none.2⟩
  have parts := CompleteLines.split_append_of_not_mem clean
  have examined : (state.examined, state.found) =
      examine watched (short (CompleteLines.lines (byte '\n')
        (done ++ piece))) := by
    rw [parts.1, follows.examined]
  have behind : state.skipping = true → ∃ before,
      CompleteLines.carry (byte '\n') (done ++ piece) =
        before ++ (state.buffer ++ piece) := by
    intro skips
    rcases (follows.overlong skips).2 with ⟨before, split⟩
    exact ⟨before, by rw [parts.2, split, List.append_assoc]⟩
  have long : state.skipping = true → chaosNetFdinfoChunk ≤
      (CompleteLines.carry (byte '\n') (done ++ piece)).length + 1 := by
    intro skips
    have already := (follows.overlong skips).1
    rw [parts.2, List.length_append]
    omega
  by_cases full :
      (state.buffer ++ piece).length = chaosNetFdinfoChunk - 1
  · rw [if_pos full]
    exact
      { proper := List.not_mem_nil
        room := by
          show 0 + 1 < chaosNetFdinfoChunk
          decide
        carried := fun kept => Bool.noConfusion kept
        overlong := fun _ => by
          refine ⟨?_, _, (List.append_nil _).symm⟩
          cases skips : state.skipping with
          | true => exact long skips
          | false =>
              rw [parts.2, ← follows.carried skips, full]
              decide
        examined := examined }
  · rw [if_neg full]
    exact
      { proper := proper
        room := by
          show (state.buffer ++ piece).length + 1 < chaosNetFdinfoChunk
          omega
        carried := fun kept => by rw [parts.2, ← follows.carried kept]
        overlong := fun skips => ⟨long skips, behind skips⟩
        examined := examined }

/-- What is carried out of a buffer with a newline leaves room. -/
theorem room_of_newline
    {buffer : Bytes} (some : byte '\n' ∈ buffer)
    (fits : buffer.length < chaosNetFdinfoChunk) :
    (CompleteLines.carry (byte '\n') buffer).length + 1 <
      chaosNetFdinfoChunk := by
  rcases split_at_newline buffer with
    ⟨_, none⟩ | ⟨rest, behind, whole, clean⟩
  · exact absurd some none
  · have most := (@CompleteLines.length_parts _ _ (byte '\n') rest).2
    have carried := (CompleteLines.lines_first clean rest).2
    have less := length_rest_lt behind
    rw [← whole] at carried
    rw [carried]
    omega

/-- A round that ends an overlong line: its end is not scanned. -/
theorem lines_of_overlong
    {done piece : Bytes} {state : ScanState}
    (follows : Follows watched done state) (skips : state.skipping = true)
    (proper : 0 ∉ state.buffer ++ piece)
    (fits : (state.buffer ++ piece).length < chaosNetFdinfoChunk)
    (some : byte '\n' ∈ state.buffer ++ piece) :
    short (CompleteLines.lines (byte '\n')
        (CompleteLines.carry (byte '\n') done ++ piece)) =
      CompleteLines.lines (byte '\n')
        (linesOf true (throughNewline (state.buffer ++ piece))) ∧
      CompleteLines.carry (byte '\n')
          (CompleteLines.carry (byte '\n') done ++ piece) =
        CompleteLines.carry (byte '\n') (state.buffer ++ piece) := by
  rcases follows.overlong skips with ⟨long, before, split⟩
  rcases split_at_newline (state.buffer ++ piece) with
    ⟨_, none⟩ | ⟨rest, firstLine, whole, clean⟩
  · exact absurd some none
  have buffered : state.buffer.length ≤
      ((state.buffer ++ piece).takeWhile inLine).length := by
    have inside : ∀ ch ∈ state.buffer, inLine ch = true := by
      intro ch member
      apply decide_eq_true
      rintro rfl
      exact follows.clean member
    rw [List.takeWhile_append_of_pos inside, List.length_append]
    exact Nat.le_add_right _ _
  have text : CompleteLines.carry (byte '\n') done ++ piece =
      (before ++ (state.buffer ++ piece).takeWhile inLine) ++
        byte '\n' :: rest := by
    rw [split, List.append_assoc, List.append_assoc, ← whole]
  have cleanLine : byte '\n' ∉
      before ++ (state.buffer ++ piece).takeWhile inLine := by
    have none := @CompleteLines.not_mem_carry _ _ (byte '\n') done
    rw [split, List.mem_append, not_or] at none
    rw [List.mem_append, not_or]
    exact ⟨none.1, clean⟩
  have first := CompleteLines.lines_first cleanLine rest
  have own := CompleteLines.lines_first clean rest
  rw [← whole] at own
  have dropped : ¬(before ++
      (state.buffer ++ piece).takeWhile inLine).length + 1 <
        chaosNetFdinfoChunk := by
    have length := congrArg List.length split
    rw [List.length_append] at length ⊢
    omega
  have restFits : rest.length < chaosNetFdinfoChunk :=
    Nat.lt_trans (length_rest_lt firstLine) fits
  -- The scanned lines are those behind the first newline.
  have head := (throughNewline_spec proper).1
  rw [own.1] at head
  have scanned : CompleteLines.lines (byte '\n')
      (linesOf true (throughNewline (state.buffer ++ piece))) =
        CompleteLines.lines (byte '\n') rest := by
    rcases split_at_newline (throughNewline (state.buffer ++ piece)) with
      ⟨_, none⟩ | ⟨others, behind, line, lineClean⟩
    · have empty : CompleteLines.lines (byte '\n')
          (throughNewline (state.buffer ++ piece)) = [] :=
        congrArg Prod.fst (CompleteLines.split_of_not_mem none)
      rw [empty] at head
      cases head
    · have lines := (CompleteLines.lines_first lineClean others).1
      rw [← line, head] at lines
      rw [linesOf, if_pos rfl, behind]
      exact (List.cons.inj lines).2.symm
  constructor
  · rw [text, first.1, scanned]
    show List.filter _ (_ :: _) = _
    rw [List.filter_cons_of_neg (by
      rw [decide_eq_true_iff]; exact dropped)]
    exact short_of_fits restFits
  · rw [text, first.2, own.2]

/-- A round keeps the loop behind the text it has read. -/
theorem follows_absorb
    {done piece : Bytes} {state : ScanState}
    (follows : Follows watched done state) (live : state.found = false)
    (clean : 0 ∉ piece)
    (fits : state.buffer.length + piece.length < chaosNetFdinfoChunk) :
    Follows watched (done ++ piece) (absorb watched state piece) := by
  have proper : 0 ∉ state.buffer ++ piece := by
    rw [List.mem_append, not_or]
    exact ⟨follows.proper, clean⟩
  rw [← List.length_append] at fits
  unfold absorb
  dsimp only
  rw [cutAt_of_not_mem proper]
  by_cases none : byte '\n' ∉ state.buffer ++ piece
  · rw [if_pos none]
    exact follows_without_newline follows proper fits none
  · rw [if_neg none]
    rw [not_not] at none
    rcases throughNewline_spec proper with ⟨lines, _, carried⟩
    have parts := @CompleteLines.split_append _ _ (byte '\n') done piece
    have onward : short (CompleteLines.lines (byte '\n')
        (CompleteLines.carry (byte '\n') done ++ piece)) =
          CompleteLines.lines (byte '\n') (linesOf state.skipping
            (throughNewline (state.buffer ++ piece))) ∧
        CompleteLines.carry (byte '\n')
            (CompleteLines.carry (byte '\n') done ++ piece) =
          CompleteLines.carry (byte '\n') (state.buffer ++ piece) := by
      cases skips : state.skipping with
      | true => exact lines_of_overlong follows skips proper fits none
      | false =>
          rw [← follows.carried skips, linesOf, if_neg Bool.false_ne_true,
            lines, short_of_fits fits]
          exact ⟨rfl, rfl⟩
    exact
      { proper := by
          dsimp only
          rw [carried]
          intro member
          apply proper
          rw [← List.take_append_drop
            (throughNewline (state.buffer ++ piece)).length
            (state.buffer ++ piece), carried]
          exact List.mem_append_right _ member
        room := by
          dsimp only
          rw [carried]
          exact room_of_newline none fits
        carried := fun _ => by
          dsimp only
          rw [carried, parts.2, onward.2]
        overlong := fun skips => Bool.noConfusion skips
        examined := by
          rw [parts.1, short_append]
          exact examine_of_scanned live follows.examined onward.1.symm }

/-! ## The loop -/

/-- A match among the lines so far stays the result. -/
theorem examine_of_found
    {done : Bytes} {state : ScanState} (rest : Bytes)
    (follows : Follows watched done state) (found : state.found = true) :
    (state.examined, state.found) =
      examine watched (short (CompleteLines.lines (byte '\n')
        (done ++ rest))) := by
  have parts := (@CompleteLines.split_append _ _ (byte '\n') done rest).1
  have already : (examine watched (short
      (CompleteLines.lines (byte '\n') done))).2 = true := by
    rw [← follows.examined]
    exact found
  rw [parts, short_append, examine_append, already, if_pos rfl,
    follows.examined]

/-- The loop ends behind the whole text, or with a match. -/
theorem readLoop_examines
    {sizes : Nat → Nat} (positive : ∀ index, 0 < sizes index)
    {done rest : Bytes} (index : Nat) {state : ScanState}
    (follows : Follows watched done state)
    (proper : 0 ∉ rest) (total : (done ++ rest).length ≤ chaosNetFdinfoMax) :
    ((readLoop watched sizes index done.length rest state).examined,
      (readLoop watched sizes index done.length rest state).found) =
      examine watched (short (CompleteLines.lines (byte '\n')
        (done ++ rest))) := by
  induction length : rest.length using Nat.strong_induction_on
    generalizing done rest index state with
  | _ length induction =>
      unfold readLoop
      cases live : state.found with
      | true =>
          rw [if_pos rfl]
          exact examine_of_found rest follows live
      | false =>
          rw [if_neg Bool.false_ne_true]
          have count : readCount (sizes index) state rest = 0 ↔ rest = [] := by
            have size := positive index
            have room := follows.room
            rw [← List.length_eq_zero_iff, readCount]
            omega
          have within : ¬chaosNetFdinfoMax < done.length := by
            rw [List.length_append] at total
            omega
          by_cases ended : rest = []
          · rw [dif_pos (Or.inl (count.mpr ended)), ended, List.append_nil,
              follows.examined]
          · have some : readCount (sizes index) state rest ≠ 0 :=
              fun zero => ended (count.mp zero)
            have most : readCount (sizes index) state rest ≤ rest.length :=
              Nat.le_trans (Nat.min_le_right _ _) (Nat.min_le_right _ _)
            have fits : state.buffer.length +
                readCount (sizes index) state rest < chaosNetFdinfoChunk := by
              have room := follows.room
              unfold readCount
              omega
            have taken : (rest.take
                (readCount (sizes index) state rest)).length =
                  readCount (sizes index) state rest :=
              List.length_take_of_le most
            have next := follows_absorb follows live
              (fun member => proper (List.mem_of_mem_take member))
              (by rw [taken]; exact fits)
            have whole : done ++
                rest.take (readCount (sizes index) state rest) ++
                  rest.drop (readCount (sizes index) state rest) =
                    done ++ rest := by
              rw [List.append_assoc, List.take_append_drop]
            have later := induction
              (rest.drop (readCount (sizes index) state rest)).length
              (by rw [List.length_drop]; omega) (index + 1) next
              (fun member => proper (List.mem_of_mem_drop member))
              (by rw [whole]; exact total) rfl
            rw [dif_neg (by
              rw [not_or]
              exact ⟨some, within⟩)]
            rw [whole, List.length_append, taken] at later
            exact later

/-- Only `tfd:` lines count. -/
theorem examine_short
    {lines : List Bytes}
    (fits : ∀ line ∈ lines, isTfdLine line = true →
      line.length + 1 < chaosNetFdinfoChunk) :
    examine watched (short lines) = examine watched lines := by
  induction lines with
  | nil => rfl
  | cons line rest induction =>
      have later := induction fun other member =>
        fits other (List.mem_cons_of_mem _ member)
      rw [examine]
      by_cases tfd : isTfdLine line = true
      · have kept : short (line :: rest) = line :: short rest :=
          List.filter_cons_of_pos
            (decide_eq_true (fits line List.mem_cons_self tfd))
        rw [kept, examine, later]
      · rw [if_neg tfd, ← later]
        by_cases fit : line.length + 1 < chaosNetFdinfoChunk
        · have kept : short (line :: rest) = line :: short rest :=
            List.filter_cons_of_pos (decide_eq_true fit)
          rw [kept, examine, if_neg tfd]
        · have dropped : short (line :: rest) = short rest :=
            List.filter_cons_of_neg (by rw [decide_eq_true_iff]; exact fit)
          rw [dropped]

theorem mem_of_mem_examine
    {lines : List Bytes} {line : Bytes}
    (member : line ∈ (examine watched lines).1) :
    line ∈ lines ∧ isTfdLine line = true := by
  induction lines with
  | nil => cases member
  | cons first rest induction =>
      rw [examine] at member
      split at member
      · next tfd =>
        split at member
        · rw [List.mem_singleton.mp member]
          exact ⟨List.mem_cons_self, tfd⟩
        · rcases List.mem_cons.mp member with rfl | later
          · exact ⟨List.mem_cons_self, tfd⟩
          · have found := induction later
            exact ⟨List.mem_cons_of_mem _ found.1, found.2⟩
      · have found := induction member
        exact ⟨List.mem_cons_of_mem _ found.1, found.2⟩

/-- Whatever the sizes of the reads, the loop examines the `tfd:` lines of the
text that are shorter than the buffer, in their order and up to the first match;
all of them are whole lines of the text; and where every `tfd:` line is that
short, it does as a scan of the whole text does. -/
theorem scan_of_chunks
    (watched : Int → Bool) {sizes : Nat → Nat} {text : Bytes}
    (positive : ∀ index, 0 < sizes index)
    (proper : 0 ∉ text) (within : text.length ≤ chaosNetFdinfoMax) :
    let scan := chaosNetWaitMatchEpollFdinfo watched sizes text
    (scan.examined, scan.found) =
        examine watched (short (CompleteLines.lines (byte '\n') text)) ∧
      (∀ line ∈ scan.examined,
        line ∈ CompleteLines.lines (byte '\n') text ∧
          isTfdLine line = true) ∧
      ((∀ line ∈ CompleteLines.lines (byte '\n') text,
        isTfdLine line = true → line.length + 1 < chaosNetFdinfoChunk) →
          (scan.examined, scan.found) =
            chaosNetWaitScanFdinfo watched text) := by
  have start : Follows watched [] ⟨[], false, false, []⟩ :=
    { proper := List.not_mem_nil
      room := by
        show 0 + 1 < chaosNetFdinfoChunk
        decide
      carried := fun _ => rfl
      overlong := fun skips => Bool.noConfusion skips
      examined := rfl }
  have examined := readLoop_examines positive 0 start proper within
  refine ⟨examined, ?_, ?_⟩
  · intro line member
    have same : (chaosNetWaitMatchEpollFdinfo watched sizes text).examined =
        (examine watched
          (short (CompleteLines.lines (byte '\n') text))).1 :=
      congrArg Prod.fst examined
    have inside := mem_of_mem_examine (same ▸ member)
    exact ⟨(List.mem_filter.mp inside.1).1, inside.2⟩
  · intro fits
    rw [scan_eq, ← examine_short fits]
    exact examined

/-- A text of two descriptors read a byte at a time. -/
theorem scan_of_chunks_twoDescriptors :
    ((chaosNetWaitMatchEpollFdinfo (fun fd => fd == 12) (fun _ => 1)
        (bytes "pos:\t0\ntfd:  3\ntfd: 12\n")).examined,
      (chaosNetWaitMatchEpollFdinfo (fun fd => fd == 12) (fun _ => 1)
        (bytes "pos:\t0\ntfd:  3\ntfd: 12\n")).found) =
      ([bytes "tfd:  3", bytes "tfd: 12"], true) := by
  have scan := scan_of_chunks (fun fd => fd == 12) (fun _ => Nat.zero_lt_one)
    (by decide : 0 ∉ bytes "pos:\t0\ntfd:  3\ntfd: 12\n") (by decide)
  rw [scan.1]
  decide

end ChaosLibs.Net.FdinfoScan
