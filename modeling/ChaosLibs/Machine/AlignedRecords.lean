import Mathlib.Algebra.Order.Group.Nat
import Mathlib.Data.List.Basic

/-!
# Records of a text

A text of records that say their own sizes: each begins with a header, lies in what is
left of the text, and is followed by the next one at a multiple of a unit.  The first
one that does not fit ends the text.
-/

namespace ChaosLibs.Machine.AlignedRecords

variable {Letter : Type*}

/-- How a text is cut. -/
structure Format (Letter : Type*) where
  /-- The least size of a record. -/
  header : Nat
  unit : Nat
  /-- The size that the record at the start of a text says. -/
  sizeOf : List Letter → Nat
  header_pos : 0 < header
  unit_pos : 0 < unit

namespace Format

/-- A size, rounded up to the unit. -/
def padded (format : Format Letter) (size : Nat) : Nat :=
  (size + format.unit - 1) / format.unit * format.unit

/-- The record at the start of a text is whole. -/
def Fits (format : Format Letter) (text : List Letter) : Prop :=
  format.header ≤ text.length ∧ format.header ≤ format.sizeOf text ∧
    format.sizeOf text ≤ text.length

instance (format : Format Letter) : DecidablePred format.Fits :=
  fun _ => inferInstanceAs (Decidable (_ ∧ _ ∧ _))

variable {format : Format Letter} {text record : List Letter}

theorem le_padded (format : Format Letter) (size : Nat) : size ≤ format.padded size := by
  have rounds := Nat.div_add_mod (size + format.unit - 1) format.unit
  have rest := Nat.mod_lt (size + format.unit - 1) format.unit_pos
  have unit_pos := format.unit_pos
  rw [padded, Nat.mul_comm]
  omega

/-- Behind a record, the text is shorter. -/
theorem Fits.length_drop_lt (fits : format.Fits text) :
    (text.drop (format.padded (format.sizeOf text))).length < text.length := by
  have positive := format.header_pos
  have least := format.le_padded (format.sizeOf text)
  rcases fits with ⟨inside, header, _⟩
  rw [List.length_drop]
  omega

/-- The records of a text. -/
def records (format : Format Letter) (text : List Letter) : List (List Letter) :=
  if _ : format.Fits text then
    text.take (format.sizeOf text) ::
      records format (text.drop (format.padded (format.sizeOf text)))
  else []
termination_by text.length
decreasing_by exact Fits.length_drop_lt (by assumption)

theorem records_of_fits (fits : format.Fits text) :
    format.records text = text.take (format.sizeOf text) ::
      format.records (text.drop (format.padded (format.sizeOf text))) := by
  rw [records, dif_pos fits]

theorem records_of_not_fits (fits : ¬format.Fits text) : format.records text = [] := by
  rw [records, dif_neg fits]

/-- There are no more records than headers in the text. -/
theorem length_records_le (format : Format Letter) (text : List Letter) :
    (format.records text).length * format.header ≤ text.length := by
  induction text using records.induct format with
  | case1 text fits induction =>
      have least := format.le_padded (format.sizeOf text)
      have shorter := List.length_drop (i := format.padded (format.sizeOf text)) (l := text)
      rcases fits with ⟨inside, header, whole⟩
      rw [records_of_fits ⟨inside, header, whole⟩, List.length_cons, Nat.succ_mul]
      omega
  | case2 text fits =>
      rw [records_of_not_fits fits, List.length_nil, Nat.zero_mul]
      exact Nat.zero_le _

end Format

end ChaosLibs.Machine.AlignedRecords
