import ChaosLibs.Common.DecimalText
import ChaosLibs.Dns.ConfigParser
import ChaosLibs.Io.ConfigParser
import ChaosLibs.Net.Selectors

/-!
# Counts and ports

The `LATENCY` parsers of the six libraries, the `LIMIT` parser of libchaos-dns and the port
parser of libchaos-net all take what `strtoul` makes of a text.  `strtoul` reads a sign and
negates modulo 2^64, so a text that denotes a negative integer can come out as a small count.
-/

namespace ChaosLibs.Common.CountTexts

open ChaosLibs.Common.CString
open ChaosLibs.Dns.ConfigParser
open ChaosLibs.Io.ConfigParser
open ChaosLibs.Net.Selectors

/-! ## The parsers -/

/-- `chaos_<lib>_is_blank_char`, the same in every library. -/
def isBlankChar (ch : UInt8) : Bool :=
  ch == byte ' ' || ch == byte '\t' || ch == byte '\r' || ch == byte '\n'

/-- `chaos_<lib>_trim`, the same in every library. -/
def trim (text : Bytes) : Bytes :=
  (((text.dropWhile isBlankChar).reverse).dropWhile isBlankChar).reverse

/-- `chaos_<lib>_parse_latency` where nothing but blanks may follow the digits. -/
def parseLatency (text : Bytes) : Option Nat :=
  match strtoul text with
  | none => none
  | some (value, stop) =>
      if trim stop ≠ [] ∨ 0xffffffff < value then none else some value

/-- `chaos_time_parse_latency`. -/
def chaosTimeParseLatency (text : Bytes) : Option Nat :=
  parseLatency text

/-- `chaos_memory_parse_latency`. -/
def chaosMemoryParseLatency (text : Bytes) : Option Nat :=
  parseLatency text

/-- `chaos_process_parse_latency`. -/
def chaosProcessParseLatency (text : Bytes) : Option Nat :=
  parseLatency text

/-- `chaos_net_parse_latency`; the blanks after the digits are skipped in a loop. -/
def chaosNetParseLatency (text : Bytes) : Option Nat :=
  match strtoul text with
  | none => none
  | some (value, stop) =>
      if stop.dropWhile isBlankChar ≠ [] then none
      else if 0xffffffff < value then none
      else some value

/-- The fields of rule lines that hold a count or a port. -/
inductive NumberField where
  | ioLatency
  | netLatency
  | dnsLatency
  | timeLatency
  | memoryLatency
  | processLatency
  | dnsLimit
  | netPort
deriving DecidableEq, Repr

/-- The parser of a field. -/
def NumberField.parse : NumberField → Bytes → Option Nat
  | .ioLatency, text => chaosIoParseLatency text
  | .netLatency, text => chaosNetParseLatency text
  | .dnsLatency, text => chaosDnsParseLatency text
  | .timeLatency, text => chaosTimeParseLatency text
  | .memoryLatency, text => chaosMemoryParseLatency text
  | .processLatency, text => chaosProcessParseLatency text
  | .dnsLimit, text => chaosDnsParseLimit text
  | .netPort, text => (chaosNetParsePort text).map UInt16.toNat

/-- What may follow the digits: blanks, and nothing at all after a port. -/
def NumberField.isTail : NumberField → UInt8 → Bool
  | .netPort, _ => false
  | _, ch => isBlankChar ch

/-- The least number a field documents; a limit of 0 is a rule of another effect. -/
def NumberField.minimum : NumberField → Nat
  | .dnsLimit => 1
  | _ => 0

/-- The greatest number a field documents. -/
def NumberField.maximum : NumberField → Nat
  | .netPort => 65535
  | _ => 4294967295

/-! ## The integers that texts denote -/

/-- White space, a sign or none, digits, and what may follow them; with the integer denoted. -/
inductive IntegerText (isTail : UInt8 → Bool) : Bytes → Int → Prop where
  | unsigned {spaces digits tail : Bytes} (space : ∀ ch ∈ spaces, isSpace ch = true)
      (some : digits ≠ []) (allDigits : ∀ ch ∈ digits, isDigit ch = true)
      (follows : ∀ ch ∈ tail, isTail ch = true) :
      IntegerText isTail (spaces ++ (digits ++ tail)) (decimal digits)
  | plus {spaces digits tail : Bytes} (space : ∀ ch ∈ spaces, isSpace ch = true)
      (some : digits ≠ []) (allDigits : ∀ ch ∈ digits, isDigit ch = true)
      (follows : ∀ ch ∈ tail, isTail ch = true) :
      IntegerText isTail (spaces ++ byte '+' :: (digits ++ tail)) (decimal digits)
  | minus {spaces digits tail : Bytes} (space : ∀ ch ∈ spaces, isSpace ch = true)
      (some : digits ≠ []) (allDigits : ∀ ch ∈ digits, isDigit ch = true)
      (follows : ∀ ch ∈ tail, isTail ch = true) :
      IntegerText isTail (spaces ++ byte '-' :: (digits ++ tail)) (-decimal digits)

/-- A sign and the digits behind it. -/
def signedValue (signed : Bool × Bytes) : Int :=
  if signed.1 then -decimal (signed.2.takeWhile isDigit)
  else decimal (signed.2.takeWhile isDigit)

/-- What `strtoul` returns for an integer: clamped above, negated modulo 2^64 below 0. -/
def wrapped (number : Int) : Nat :=
  if 2 ^ 64 ≤ number.natAbs then 2 ^ 64 - 1 else (number % 2 ^ 64).toNat

variable {isTail : UInt8 → Bool} {text : Bytes} {number : Int}

/-! ## Reading a text -/

theorem dropWhile_append_stop {Letter : Type*} {isLead : Letter → Bool}
    {lead rest : List Letter} (skipped : ∀ letter ∈ lead, isLead letter = true)
    (stop : ∀ letter, rest.head? = some letter → isLead letter = false) :
    (lead ++ rest).dropWhile isLead = rest ∧ (lead ++ rest).takeWhile isLead = lead := by
  rw [List.dropWhile_append_of_pos skipped, List.takeWhile_append_of_pos skipped]
  cases rest with
  | nil => exact ⟨rfl, List.append_nil _⟩
  | cons first others =>
      have stopped : ¬ isLead first = true := by
        rw [stop first rfl]
        exact Bool.false_ne_true
      rw [List.dropWhile_cons_of_neg stopped, List.takeWhile_cons_of_neg stopped,
        List.append_nil]
      exact ⟨rfl, rfl⟩

theorem not_isSpace_of_above {ch : UInt8} (above : byte ' ' < ch) :
    isSpace ch = false := by
  have greater := UInt8.lt_iff_toNat_lt.mp above
  have values : (byte ' ').toNat = 32 ∧ (byte '\r').toNat = 13 := by decide
  have notBlank : ch ≠ byte ' ' := by
    rintro rfl
    omega
  have notBelow : ¬ch ≤ byte '\r' := by
    intro below
    have := UInt8.le_iff_toNat_le.mp below
    omega
  rw [isSpace, beq_false_of_ne notBlank, Bool.false_or,
    decide_eq_false notBelow, Bool.and_false]

theorem not_isSpace_of_isDigit {ch : UInt8} (digit : isDigit ch = true) :
    isSpace ch = false := by
  have low := of_decide_eq_true (Bool.and_eq_true_iff.mp digit).1
  exact not_isSpace_of_above (UInt8.lt_of_lt_of_le (by decide) low)

theorem takeSign_of_isDigit {ch : UInt8} {rest : Bytes} (digit : isDigit ch = true) :
    takeSign (ch :: rest) = (false, ch :: rest) := by
  have notMinus : ¬ (ch == byte '-') = true := by
    intro same
    rw [beq_iff_eq.mp same] at digit
    exact absurd digit (by decide)
  have notPlus : ¬ (ch == byte '+') = true := by
    intro same
    rw [beq_iff_eq.mp same] at digit
    exact absurd digit (by decide)
  rw [takeSign, if_neg notMinus, if_neg notPlus]

/-- The parts of a text that denotes an integer. -/
theorem parts_of_integerText (tailClean : ∀ ch, isTail ch = true → isDigit ch = false)
    (denotes : IntegerText isTail text number) :
    let signed := takeSign (text.dropWhile isSpace)
    number = signedValue signed ∧ signed.2.takeWhile isDigit ≠ [] ∧
      ∀ ch ∈ signed.2.dropWhile isDigit, isTail ch = true := by
  have digitsEnd : ∀ {digits tail : Bytes}, (∀ ch ∈ digits, isDigit ch = true) →
      (∀ ch ∈ tail, isTail ch = true) →
      (digits ++ tail).dropWhile isDigit = tail ∧
        (digits ++ tail).takeWhile isDigit = digits := by
    intro digits tail allDigits follows
    exact dropWhile_append_stop allDigits fun ch first =>
      tailClean ch (follows ch (List.mem_of_head? first))
  cases denotes with
  | @unsigned spaces digits tail space some allDigits follows =>
      rcases digitsEnd allDigits follows with ⟨rest, run⟩
      have stop : ∀ ch, (digits ++ tail).head? = Option.some ch → isSpace ch = false := by
        intro ch first
        cases digits with
        | nil => exact absurd rfl some
        | cons digit others =>
            cases first
            exact not_isSpace_of_isDigit (allDigits _ List.mem_cons_self)
      have sign : takeSign (digits ++ tail) = (false, digits ++ tail) := by
        cases digits with
        | nil => exact absurd rfl some
        | cons digit others =>
            exact takeSign_of_isDigit (allDigits digit List.mem_cons_self)
      rw [(dropWhile_append_stop space stop).1, sign]
      dsimp only [signedValue]
      rw [if_neg Bool.false_ne_true, run, rest]
      exact ⟨rfl, some, follows⟩
  | @plus spaces digits tail space some allDigits follows =>
      rcases digitsEnd allDigits follows with ⟨rest, run⟩
      have stop : ∀ ch, (byte '+' :: (digits ++ tail)).head? = Option.some ch →
          isSpace ch = false := by
        intro ch first
        cases first
        decide
      have sign : takeSign (byte '+' :: (digits ++ tail)) = (false, digits ++ tail) := rfl
      rw [(dropWhile_append_stop space stop).1, sign]
      dsimp only [signedValue]
      rw [if_neg Bool.false_ne_true, run, rest]
      exact ⟨rfl, some, follows⟩
  | @minus spaces digits tail space some allDigits follows =>
      rcases digitsEnd allDigits follows with ⟨rest, run⟩
      have stop : ∀ ch, (byte '-' :: (digits ++ tail)).head? = Option.some ch →
          isSpace ch = false := by
        intro ch first
        cases first
        decide
      have sign : takeSign (byte '-' :: (digits ++ tail)) = (true, digits ++ tail) := rfl
      rw [(dropWhile_append_stop space stop).1, sign]
      dsimp only [signedValue]
      rw [if_pos rfl, run, rest]
      exact ⟨rfl, some, follows⟩

/-- What `strtoul` returns for a sign and digits. -/
theorem wrapped_signedValue (signed : Bool × Bytes) :
    wrapped (signedValue signed) =
      if 2 ^ 64 ≤ decimal (signed.2.takeWhile isDigit) then 2 ^ 64 - 1
      else if signed.1 then
        (2 ^ 64 - decimal (signed.2.takeWhile isDigit)) % 2 ^ 64
      else
        decimal (signed.2.takeWhile isDigit) := by
  rw [wrapped, signedValue]
  generalize decimal (signed.2.takeWhile isDigit) = magnitude
  cases signed.1 with
  | true =>
      rw [if_pos rfl, if_pos rfl, Int.natAbs_neg, Int.natAbs_natCast]
      split
      · rfl
      · omega
  | false =>
      rw [if_neg Bool.false_ne_true, if_neg Bool.false_ne_true, Int.natAbs_natCast]
      split
      · rfl
      · omega

theorem strtoul_eq (text : Bytes) :
    strtoul text =
      if (takeSign (text.dropWhile isSpace)).2.takeWhile isDigit = [] then none
      else
        some (wrapped (signedValue (takeSign (text.dropWhile isSpace))),
          (takeSign (text.dropWhile isSpace)).2.dropWhile isDigit) := by
  rw [wrapped_signedValue]
  simp only [strtoul, List.isEmpty_iff]

/-- A text denotes one integer at most. -/
theorem integerText_unique {other : Int}
    (tailClean : ∀ ch, isTail ch = true → isDigit ch = false)
    (denotes : IntegerText isTail text number) (again : IntegerText isTail text other) :
    number = other :=
  (parts_of_integerText tailClean denotes).1.trans
    (parts_of_integerText tailClean again).1.symm

/-- `strtoul` reads an integer modulo 2^64 when it is negative. -/
theorem strtoul_of_integerText (tailClean : ∀ ch, isTail ch = true → isDigit ch = false)
    (denotes : IntegerText isTail text number) :
    ∃ stop, strtoul text = some (wrapped number, stop) ∧
      ∀ ch ∈ stop, isTail ch = true := by
  rcases parts_of_integerText tailClean denotes with ⟨same, someDigit, follows⟩
  refine ⟨_, ?_, follows⟩
  rw [strtoul_eq, if_neg someDigit, same]

/-- What `strtoul` reads is an integer, when nothing else follows. -/
theorem integerText_of_strtoul {value : Nat} {stop : Bytes}
    (read : strtoul text = some (value, stop)) (follows : ∀ ch ∈ stop, isTail ch = true) :
    ∃ number, IntegerText isTail text number ∧ value = wrapped number := by
  rw [strtoul_eq] at read
  split at read
  · cases read
  · rename_i someDigit
    cases read
    refine ⟨_, ?_, rfl⟩
    have spaces := fun ch (member : ch ∈ text.takeWhile isSpace) =>
      List.mem_takeWhile_imp member
    have whole := List.takeWhile_append_dropWhile (p := isSpace) (l := text)
    have digits := fun rest ch (member : ch ∈ List.takeWhile isDigit rest) =>
      List.mem_takeWhile_imp member
    have split := fun rest => List.takeWhile_append_dropWhile (p := isDigit) (l := rest)
    generalize text.dropWhile isSpace = rest at someDigit follows whole ⊢
    cases rest with
    | nil => exact absurd rfl someDigit
    | cons ch rest =>
        rw [← whole]
        by_cases minus : (ch == byte '-') = true
        · have sign : takeSign (ch :: rest) = (true, rest) := by
            rw [takeSign, if_pos minus]
          rw [sign] at someDigit follows ⊢
          have denotes := @IntegerText.minus isTail _ _ _ spaces someDigit
            (digits rest) follows
          rw [split rest] at denotes
          rw [beq_iff_eq.mp minus]
          exact denotes
        · by_cases plus : (ch == byte '+') = true
          · have sign : takeSign (ch :: rest) = (false, rest) := by
              rw [takeSign, if_neg minus, if_pos plus]
            rw [sign] at someDigit follows ⊢
            have denotes := @IntegerText.plus isTail _ _ _ spaces someDigit
              (digits rest) follows
            rw [split rest] at denotes
            rw [beq_iff_eq.mp plus]
            exact denotes
          · have sign : takeSign (ch :: rest) = (false, ch :: rest) := by
              rw [takeSign, if_neg minus, if_neg plus]
            rw [sign] at someDigit follows ⊢
            have denotes := @IntegerText.unsigned isTail _ _ _ spaces someDigit
              (digits (ch :: rest)) follows
            rw [split (ch :: rest)] at denotes
            exact denotes

/-! ## The fields -/

theorem isTail_clean (field : NumberField) (ch : UInt8) (follows : field.isTail ch = true) :
    isDigit ch = false := by
  have blank : isBlankChar ch = true := by
    cases field <;> first | exact follows | cases follows
  rw [isBlankChar, Bool.or_eq_true, Bool.or_eq_true, Bool.or_eq_true, beq_iff_eq,
    beq_iff_eq, beq_iff_eq, beq_iff_eq] at blank
  rcases blank with ((rfl | rfl) | rfl) | rfl <;> decide

theorem trim_eq_nil {stop : Bytes} :
    trim stop = [] ↔ ∀ ch ∈ stop, isBlankChar ch = true :=
  trimmed_eq_nil

/-- What a field takes of what `strtoul` reads. -/
def NumberField.Takes (field : NumberField) (value : Nat) (stop : Bytes) : Prop :=
  (∀ ch ∈ stop, field.isTail ch = true) ∧ field.minimum ≤ value ∧ value ≤ field.maximum

instance (field : NumberField) (value : Nat) (stop : Bytes) :
    Decidable (field.Takes value stop) :=
  inferInstanceAs (Decidable (_ ∧ _ ∧ _))

theorem refused_iff {blank : Prop} {value minimum maximum : Nat} :
    ¬ blank ∨ value < minimum ∨ maximum < value ↔
      ¬ (blank ∧ minimum ≤ value ∧ value ≤ maximum) := by
  rw [not_and_or, not_and_or, Nat.not_le, Nat.not_le]

theorem ite_refused {field : NumberField} {value : Nat} {stop : Bytes} {refused : Prop}
    [Decidable refused] (same : refused ↔ ¬ field.Takes value stop) :
    (if refused then none else some value) =
      if field.Takes value stop then some value else none := by
  by_cases takes : field.Takes value stop
  · rw [if_pos takes, if_neg fun no => same.mp no takes]
  · rw [if_neg takes, if_pos (same.mpr takes)]

/-- A latency is refused for what follows it, or as too large. -/
theorem refused_latency {value : Nat} {stop : Bytes} :
    trim stop ≠ [] ∨ 0xffffffff < value ↔
      ¬ ((∀ ch ∈ stop, isBlankChar ch = true) ∧ 0 ≤ value ∧ value ≤ 0xffffffff) := by
  rw [← refused_iff, Ne, trim_eq_nil]
  exact or_congr_right (or_iff_right (Nat.not_lt_zero _)).symm

theorem parseLatency_eq {field : NumberField}
    (same : ∀ value stop, field.Takes value stop ↔
      (∀ ch ∈ stop, isBlankChar ch = true) ∧ 0 ≤ value ∧ value ≤ 0xffffffff) :
    parseLatency text = (strtoul text).bind fun read =>
      if field.Takes read.1 read.2 then some read.1 else none := by
  rw [parseLatency]
  cases strtoul text with
  | none => rfl
  | some read => exact ite_refused (refused_latency.trans (not_congr (same _ _)).symm)

/-- Every field takes what `strtoul` reads when the rest is a tail and the range is kept. -/
theorem NumberField.parse_eq (field : NumberField) (text : Bytes) :
    field.parse text = (strtoul text).bind fun read =>
      if field.Takes read.1 read.2 then some read.1 else none := by
  cases field with
  | timeLatency => exact parseLatency_eq fun _ _ => Iff.rfl
  | memoryLatency => exact parseLatency_eq fun _ _ => Iff.rfl
  | processLatency => exact parseLatency_eq fun _ _ => Iff.rfl
  | dnsLatency => exact @parseLatency_eq _ .dnsLatency fun _ _ => Iff.rfl
  | ioLatency =>
      rw [parse, chaosIoParseLatency]
      cases strtoul text with
      | none => rfl
      | some read => exact (ite_or _ _ _ _).symm.trans (ite_refused refused_latency)
  | netLatency =>
      rw [parse, chaosNetParseLatency]
      cases strtoul text with
      | none => rfl
      | some read =>
          refine (ite_or _ _ _ _).symm.trans (ite_refused ?_)
          rw [Ne, List.dropWhile_eq_nil_iff, ← trim_eq_nil]
          exact refused_latency
  | dnsLimit =>
      rw [parse, chaosDnsParseLimit]
      cases strtoul text with
      | none => rfl
      | some read =>
          refine ite_refused ((or_congr Iff.rfl (or_congr_left ?_)).trans
            ((or_congr_left (not_congr trim_eq_nil)).trans refused_iff))
          exact Nat.lt_one_iff.symm
  | netPort =>
      rw [parse, chaosNetParsePort]
      cases strtoul text with
      | none => rfl
      | some read =>
          rcases read with ⟨value, stop⟩
          dsimp only [Option.bind_some]
          have refused : stop ≠ [] ∨ 65535 < value ↔ ¬ NumberField.netPort.Takes value stop := by
            refine Iff.trans ?_ refused_iff
            refine or_congr (not_congr ?_) (or_iff_right (Nat.not_lt_zero _)).symm
            exact ⟨fun empty => empty ▸ nofun, fun clean =>
              List.eq_nil_iff_forall_not_mem.mpr fun ch member =>
                Bool.false_ne_true (clean ch member)⟩
          rw [← ite_refused refused]
          by_cases no : stop ≠ [] ∨ 65535 < value
          · rw [if_pos no, if_pos no]
            rfl
          · rw [if_neg no, if_neg no, Option.map_some]
            have small : value < 65536 := by omega
            exact congrArg some (UInt16.toNat_ofNat_of_lt' small)

theorem NumberField.parse_eq_some {field : NumberField} {value : Nat} :
    field.parse text = some value ↔
      ∃ number, IntegerText field.isTail text number ∧ value = wrapped number ∧
        field.minimum ≤ value ∧ value ≤ field.maximum := by
  rw [NumberField.parse_eq, Option.bind_eq_some_iff]
  constructor
  · rintro ⟨⟨found, stop⟩, read, taken⟩
    split at taken
    · rename_i takes
      cases taken
      rcases integerText_of_strtoul read takes.1 with ⟨number, denotes, same⟩
      exact ⟨number, denotes, same, takes.2⟩
    · cases taken
  · rintro ⟨number, denotes, same, bounds⟩
    rcases strtoul_of_integerText (isTail_clean field) denotes with ⟨stop, read, follows⟩
    refine ⟨_, read, ?_⟩
    rw [← same]
    exact if_pos ⟨follows, bounds⟩

/--
The text denotes an integer from -(2^64 - 1) to -2^64 + maximum, which comes out of the
unsigned conversion as a number of the field.
-/
def Wraps (field : NumberField) (text : Bytes) : Prop :=
  ∃ number, IntegerText field.isTail text number ∧
    -2 ^ 64 < number ∧ number ≤ field.maximum - 2 ^ 64

/-- What a field is to hold: the integer of its text, within the documented bounds. -/
def Denoted (field : NumberField) (text : Bytes) : Prop :=
  ∀ value, field.parse text = some value →
    ∃ number, IntegerText field.isTail text number ∧
      field.minimum ≤ number ∧ number ≤ field.maximum ∧ (value : Int) = number

theorem maximum_le (field : NumberField) :
    field.minimum ≤ 1 ∧ field.maximum ≤ 4294967295 := by
  cases field <;> decide

/-- A field holds what its text denotes unless the text wraps around. -/
theorem denoted_iff (field : NumberField) (text : Bytes) :
    Denoted field text ↔ ¬ Wraps field text := by
  have bounds := maximum_le field
  constructor
  · rintro denoted ⟨number, denotes, above, below⟩
    have value : wrapped number = (2 ^ 64 + number).toNat := by
      rw [wrapped, if_neg (by omega)]
      omega
    have accepted : field.parse text = some (wrapped number) := by
      refine NumberField.parse_eq_some.mpr ⟨number, denotes, rfl, ?_, ?_⟩
      · omega
      · omega
    rcases denoted _ accepted with ⟨other, again, least, -, -⟩
    have same := integerText_unique (isTail_clean field) denotes again
    omega
  · intro straight value accepted
    rcases NumberField.parse_eq_some.mp accepted with ⟨number, denotes, same, least, most⟩
    have notWrapped : ¬ (-2 ^ 64 < number ∧ number ≤ field.maximum - 2 ^ 64) :=
      fun between => straight ⟨number, denotes, between⟩
    have equal : (value : Int) = number := by
      rw [wrapped] at same
      split at same <;> omega
    refine ⟨number, denotes, ?_, ?_, equal⟩
    · omega
    · omega

/-- A latency of 1 ms from a negative number. -/
theorem negative_accepted :
    ¬ ∀ (field : NumberField) (text : Bytes), Denoted field text := by
  intro denoted
  rcases denoted .ioLatency (bytes "-18446744073709551615") 1 (by decide +kernel) with
    ⟨number, denotes, -, -, same⟩
  have value := (parts_of_integerText (isTail_clean .ioLatency) denotes).1
  rw [← same] at value
  exact absurd value (by decide +kernel)

end ChaosLibs.Common.CountTexts
