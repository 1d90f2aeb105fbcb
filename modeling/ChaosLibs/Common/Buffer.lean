import ChaosLibs.Common.CString

/-!
# Text buffers

A buffer is the list of all its bytes; the string at a position ends at the first NUL from
there.  The functions of the C sources that work in place take such buffers, and `memmove`
copies inside one.
-/

namespace ChaosLibs.Common.Buffer

open ChaosLibs.Common.CString

/-- A buffer that holds a NUL-terminated text. -/
structure TextBuffer where
  contents : Bytes
  terminated : 0 ∈ contents

/-- The string at a position of a buffer. -/
def stringAt (contents : Bytes) (position : Nat) : Bytes :=
  cutAt 0 (contents.drop position)

/-- The text that a buffer holds. -/
def TextBuffer.text (buffer : TextBuffer) : Bytes :=
  stringAt buffer.contents 0

/-- `memmove(buffer + target, buffer + source, length)`. -/
def memmove (contents : Bytes) (target source length : Nat) : Bytes :=
  contents.take target ++ (contents.drop source).take length ++
    contents.drop (target + length)

variable {contents : Bytes}

/-! ## Strings of a buffer -/

theorem ne_nul_of_mem {position : Nat} {ch : UInt8}
    (member : ch ∈ stringAt contents position) : (ch != 0) = true :=
  List.mem_takeWhile_imp (p := fun ch => ch != 0) member

theorem stringAt_zero_eq_take (contents : Bytes) :
    stringAt contents 0 = contents.take (stringAt contents 0).length :=
  cutAt_eq_take 0 contents

/-- A NUL ends the text inside its buffer. -/
theorem length_text_lt (terminated : 0 ∈ contents) :
    (stringAt contents 0).length < contents.length := by
  refine lt_of_le_of_ne (length_cutAt_le 0 contents) fun whole => ?_
  have same : stringAt contents 0 = contents :=
    List.IsPrefix.eq_of_length (List.takeWhile_prefix _) whole
  rw [← same] at terminated
  exact absurd (ne_nul_of_mem terminated) Bool.false_ne_true

theorem getElem?_text {position : Nat} (inText : position < (stringAt contents 0).length) :
    (stringAt contents 0)[position]? = contents[position]? := by
  rw [stringAt_zero_eq_take contents, List.getElem?_take_of_lt inText]

/-- A text that starts inside another one ends where that one ends. -/
theorem cutAt_drop {stop : UInt8} {text : Bytes} {count : Nat}
    (inText : count ≤ (cutAt stop text).length) :
    cutAt stop (text.drop count) = (cutAt stop text).drop count := by
  induction count generalizing text with
  | zero => rfl
  | succ count induction =>
      cases text with
      | nil => rfl
      | cons ch rest =>
          have first : cutAt stop (ch :: rest) =
              if ch != stop then ch :: cutAt stop rest else [] :=
            List.takeWhile_cons
          cases kept : ch != stop with
          | false =>
              rw [first, kept] at inText
              exact absurd inText (Nat.not_succ_le_zero count)
          | true =>
              rw [kept] at first
              rw [first] at inText ⊢
              exact induction (Nat.le_of_succ_le_succ inText)

/-- The string from a later position of the same string. -/
theorem stringAt_add {position count : Nat}
    (inText : count ≤ (stringAt contents position).length) :
    stringAt contents (position + count) = (stringAt contents position).drop count := by
  rw [stringAt, ← List.drop_drop]
  exact cutAt_drop inText

/-- The string that a NUL ends. -/
theorem stringAt_set_nul {start stop : Nat} (clean : 0 ∉ contents.take stop)
    (ordered : start ≤ stop) (inBuffer : stop < contents.length) :
    stringAt (contents.set stop 0) start = (contents.take stop).drop start := by
  have split : contents.set stop 0 = contents.take stop ++ 0 :: contents.drop (stop + 1) :=
    List.set_eq_take_append_cons_drop.trans (if_pos inBuffer)
  have kept : ∀ ch ∈ (contents.take stop).drop start, (ch != 0) = true :=
    fun ch member => bne_iff_ne.mpr fun same => clean (same ▸ List.mem_of_mem_drop member)
  have length : (contents.take stop).length = stop :=
    List.length_take_of_le inBuffer.le
  rw [stringAt, split, List.drop_append_of_le_length (length.symm ▸ ordered), cutAt,
    List.takeWhile_append_of_pos kept, List.takeWhile_cons_of_neg (by simp), List.append_nil]

/-! ## Copies inside a buffer -/

variable {target source length : Nat}

theorem length_memmove (ordered : target ≤ source)
    (inBuffer : source + length ≤ contents.length) :
    (memmove contents target source length).length = contents.length := by
  rw [memmove, List.length_append, List.length_append, List.length_take_of_le (by omega),
    List.length_take_of_le (by rw [List.length_drop]; omega), List.length_drop]
  omega

/-- The target ends with the bytes that were at the source. -/
theorem take_memmove (ordered : target ≤ source)
    (inBuffer : source + length ≤ contents.length) :
    (memmove contents target source length).take (target + length) =
      contents.take target ++ (contents.drop source).take length := by
  refine List.take_left' ?_
  rw [List.length_append, List.length_take_of_le (by omega),
    List.length_take_of_le (by rw [List.length_drop]; omega)]

/-- The bytes behind the target stay as they are. -/
theorem drop_memmove (ordered : target ≤ source)
    (inBuffer : source + length ≤ contents.length) {position : Nat}
    (behind : target + length ≤ position) :
    (memmove contents target source length).drop position = contents.drop position := by
  obtain ⟨more, rfl⟩ := Nat.exists_eq_add_of_le behind
  have written : (contents.take target ++ (contents.drop source).take length).length =
      target + length := by
    rw [List.length_append, List.length_take_of_le (by omega),
      List.length_take_of_le (by rw [List.length_drop]; omega)]
  rw [← List.drop_drop, memmove, List.drop_left' written, List.drop_drop]

end ChaosLibs.Common.Buffer
