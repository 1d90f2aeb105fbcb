import Mathlib.Algebra.Order.Ring.Nat
import Mathlib.Algebra.Ring.Int.Defs
import Mathlib.Data.List.Basic
import Mathlib.Data.List.TakeWhile

/-!
# Byte strings of the C sources

A NUL-terminated buffer is the list of its bytes before the NUL.  The string
functions of the C library that the rule parsers call are the list functions
below; each keeps the C name of what it models in its docstring.
-/

namespace ChaosLibs.Common.CString

/-- The bytes of a NUL-terminated string, the NUL left out. -/
abbrev Bytes := List UInt8

/-- The bytes of an ASCII literal. -/
def bytes (literal : String) : Bytes :=
  literal.toList.map fun char => UInt8.ofNat char.toNat

/-- The byte of an ASCII character literal. -/
def byte (char : Char) : UInt8 :=
  UInt8.ofNat char.toNat

/-- `strncmp(text, literal, strlen(literal)) == 0`. -/
def startsWith (literal text : Bytes) : Bool :=
  literal.isPrefixOf text

/-- `'0' <= ch && ch <= '9'`. -/
def isDigit (ch : UInt8) : Bool :=
  byte '0' ≤ ch && ch ≤ byte '9'

/-- `ch - '0'` of a digit. -/
def digitValue (ch : UInt8) : Nat :=
  ch.toNat - (byte '0').toNat

/-- A text cut before its first `stop` byte; the whole text when there is none (`strchr`). -/
def cutAt (stop : UInt8) (text : Bytes) : Bytes :=
  text.takeWhile fun ch => ch != stop

/-- `isspace` in the C locale. -/
def isSpace (ch : UInt8) : Bool :=
  ch == byte ' ' || byte '\t' ≤ ch && ch ≤ byte '\r'

/-- `tolower` in the C locale. -/
def toLower (ch : UInt8) : UInt8 :=
  if byte 'A' ≤ ch && ch ≤ byte 'Z' then ch + 32 else ch

/-- The sign `strtoul` accepts in front of the digits. -/
def takeSign : Bytes → Bool × Bytes
  | [] => (false, [])
  | ch :: rest =>
      if ch == byte '-' then (true, rest)
      else if ch == byte '+' then (false, rest)
      else (false, ch :: rest)

/-- The number a run of decimal digits denotes. -/
def decimal (digits : Bytes) : Nat :=
  digits.foldl (fun value ch => value * 10 + digitValue ch) 0

/--
`strtoul(text, &end, 10)` with a 64-bit `unsigned long`: the value and the
text at `end`; `none` when no digits were found, so that `end == text`.
-/
def strtoul (text : Bytes) : Option (Nat × Bytes) :=
  let signed := takeSign (text.dropWhile isSpace)
  let digits := signed.2.takeWhile isDigit
  if digits.isEmpty then
    none
  else
    let magnitude := decimal digits
    let value :=
      if 2 ^ 64 ≤ magnitude then 2 ^ 64 - 1
      else if signed.1 then (2 ^ 64 - magnitude) % 2 ^ 64
      else magnitude
    some (value, signed.2.dropWhile isDigit)

/-- A text without a `stop` byte is not cut. -/
theorem cutAt_of_not_mem {stop : UInt8} {text : Bytes} (clean : stop ∉ text) :
    cutAt stop text = text := by
  rw [cutAt, List.takeWhile_eq_self_iff]
  intro ch member
  exact bne_iff_ne.mpr fun same => clean (same ▸ member)

theorem cutAt_eq_take (stop : UInt8) (text : Bytes) :
    cutAt stop text = text.take (cutAt stop text).length :=
  List.prefix_iff_eq_take.mp (List.takeWhile_prefix _)

theorem length_cutAt_le (stop : UInt8) (text : Bytes) :
    (cutAt stop text).length ≤ text.length :=
  (List.takeWhile_prefix _).length_le

/-- Nothing is left of a text trimmed at both ends when it is blank. -/
theorem trimmed_eq_nil {isBlank : UInt8 → Bool} {text : Bytes} :
    ((text.dropWhile isBlank).reverse.dropWhile isBlank).reverse = [] ↔
      ∀ ch ∈ text, isBlank ch = true := by
  rw [List.reverse_eq_nil_iff, List.dropWhile_eq_nil_iff]
  constructor
  · intro rest
    refine List.dropWhile_eq_nil_iff.mp ?_
    by_contra some
    have blank := rest _ (List.mem_reverse.mpr (List.head_mem some))
    rw [List.head_dropWhile_not isBlank some] at blank
    exact Bool.false_ne_true blank
  · intro blank ch member
    exact blank ch ((List.dropWhile_sublist _).subset (List.mem_reverse.mp member))

end ChaosLibs.Common.CString
