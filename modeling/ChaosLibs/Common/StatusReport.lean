import ChaosLibs.Common.PrintedNumbers
import ChaosLibs.Common.StatusText
import ChaosLibs.Machine.KeyedLines
import Mathlib.Data.Nat.Digits.Defs

/-!
# The report of a reload

`chaos_status_format` of `chaos_status.h`: the status file of a reload as one line for
each key.  Whatever bytes a rejected line has, the report is complete and its lines are
the six keys with their values, so the text of a rule cannot pass for another line.
-/

namespace ChaosLibs.Common.StatusReport

open ChaosLibs.Common.CString
open ChaosLibs.Common.PrintedNumbers
open ChaosLibs.Common.StatusText
open ChaosLibs.Machine

/-- `CHAOS_STATUS_BUFFER_SIZE`. -/
def chaosStatusBufferSize : Nat := 512

/-- `chaos_status_state_t`. -/
inductive ChaosStatusState where
  | ok
  | error
deriving DecidableEq, Repr

/-- The `names` of `chaos_status_format`. -/
def ChaosStatusState.name : ChaosStatusState → Bytes
  | .ok => bytes "ok"
  | .error => bytes "error"

/-- The error layout of `chaos_status_format`. -/
def errorLayout (error : ChaosStatusError) (reason : Reason) (pid : Int) : Bytes :=
  bytes "state=error\nrules=0\nline=" ++ natText error.line ++
    bytes "\nreason=" ++ reason.text ++ bytes "\ntext=" ++ error.text ++
    bytes "\npid=" ++ intText pid ++ bytes "\n"

/-- The short layout of `chaos_status_format`. -/
def shortLayout (state : ChaosStatusState) (rules : Nat) (pid : Int) : Bytes :=
  bytes "state=" ++ state.name ++ bytes "\nrules=" ++ natText rules ++
    bytes "\npid=" ++ intText pid ++ bytes "\n"

/-- The text that `chaos_status_format` prints, before it is cut to the buffer. -/
def chaosStatusLayout (state : ChaosStatusState) (rules : Nat)
    (error : Option ChaosStatusError) (pid : Int) : Bytes :=
  match state, error with
  | .error, some ⟨line, some reason, text⟩ => errorLayout ⟨line, some reason, text⟩ reason pid
  | _, _ => shortLayout state rules pid

/-- `chaos_status_format`: what `snprintf` leaves of the text in `size` bytes. -/
def chaosStatusFormat (size : Nat) (state : ChaosStatusState) (rules : Nat)
    (error : Option ChaosStatusError) (pid : Int) : Bytes :=
  (chaosStatusLayout state rules error pid).take (size - 1)

/-! ## The record of the parser -/

/-- What the parsers do with their error record. -/
inductive Update where
  | clear
  | keepLine (number : Nat) (line : Bytes)
  | reject (reason : Reason)
deriving DecidableEq, Repr

/-- One call that changes the record. -/
def Update.apply (error : ChaosStatusError) : Update → ChaosStatusError
  | .clear => chaosStatusClear
  | .keepLine number line => chaosStatusKeepLine number line
  | .reject reason => chaosStatusReject error reason

/-- The record after a parse. -/
def recorded (updates : List Update) : ChaosStatusError :=
  updates.foldl Update.apply chaosStatusClear

/-- The line numbers are those of a `size_t`. -/
def Update.Counted : Update → Prop
  | .clear | .reject _ => True
  | .keepLine number _ => number < 2 ^ 64

/-- What the calls keep of the record. -/
structure Kept (error : ChaosStatusError) : Prop where
  line : error.line < 2 ^ 64
  length : error.text.length ≤ chaosStatusTextMax
  oneLine : byte '\n' ∉ error.text

theorem keptByte_ne (ch : UInt8) : keptByte ch ≠ byte '\n' := by
  rw [keptByte]
  split
  · decide
  · rename_i printable
    intro same
    subst same
    exact printable (by decide)

theorem kept_clear : Kept chaosStatusClear :=
  ⟨by decide, by decide, by decide⟩

theorem Update.Counted.kept {update : Update} (counted : update.Counted)
    {error : ChaosStatusError} (kept : Kept error) : Kept (update.apply error) := by
  cases update with
  | clear => exact kept_clear
  | reject reason => exact ⟨kept.line, kept.length, kept.oneLine⟩
  | keepLine number line =>
      refine ⟨counted, ?_, ?_⟩
      · change (keptText line).length ≤ chaosStatusTextMax
        rw [keptText, List.length_map, List.length_take]
        exact Nat.min_le_left _ _
      · intro member
        rcases List.mem_map.mp member with ⟨ch, -, same⟩
        exact keptByte_ne ch same

theorem kept_foldl {updates : List Update} (counted : ∀ update ∈ updates, update.Counted)
    {error : ChaosStatusError} (kept : Kept error) :
    Kept (updates.foldl Update.apply error) := by
  induction updates generalizing error with
  | nil => exact kept
  | cons update rest induction =>
      rcases List.forall_mem_cons.mp counted with ⟨first, later⟩
      exact induction later (first.kept kept)

theorem kept_recorded {updates : List Update}
    (counted : ∀ update ∈ updates, update.Counted) : Kept (recorded updates) :=
  kept_foldl counted kept_clear

/-! ## Sizes and letters of the values -/

theorem length_natText_le {number digits : Nat} (small : number < 10 ^ digits)
    (positive : 0 < digits) : (natText number).length ≤ digits := by
  rw [natText_eq, List.length_map]
  exact Nat.toDigits_length 10 number digits positive small

theorem length_intText_le {number : Int} (low : -2 ^ 63 ≤ number) (high : number < 2 ^ 63) :
    (intText number).length ≤ 20 := by
  have digits : (natText number.natAbs).length ≤ 19 :=
    length_natText_le (by omega) (by decide)
  rw [intText]
  split
  · rw [List.length_cons]
    omega
  · omega

theorem length_natText_le_twenty {number : Nat} (small : number < 2 ^ 64) :
    (natText number).length ≤ 20 :=
  length_natText_le (by omega) (by decide)

theorem newline_not_mem_natText (number : Nat) : byte '\n' ∉ natText number := by
  intro member
  have digit := isDigit_of_mem_natText member
  exact absurd digit (by decide)

theorem newline_not_mem_intText (number : Int) : byte '\n' ∉ intText number := by
  rw [intText]
  split
  · intro member
    rcases List.mem_cons.mp member with same | inside
    · exact absurd same (by decide)
    · exact newline_not_mem_natText _ inside
  · exact newline_not_mem_natText _

theorem length_reason_le (reason : Reason) : reason.text.length ≤ 27 := by
  cases reason <;> decide

theorem newline_not_mem_reason (reason : Reason) : byte '\n' ∉ reason.text := by
  cases reason <;> decide

/-! ## Reading a report -/

/-- The keys and values of a status report. -/
def readReport (text : Bytes) : List (Bytes × Bytes) :=
  KeyedLines.entries (byte '=') (byte '\n') text

/-- A key of the reports, and a value on one line. -/
theorem clean_entry {key value : Bytes} (known : byte '=' ∉ key ∧ byte '\n' ∉ key)
    (oneLine : byte '\n' ∉ value) :
    KeyedLines.Clean (byte '=') (byte '\n') (key, value) :=
  ⟨known.1, known.2, oneLine, by decide⟩

/-- The entries of the error layout. -/
def errorEntries (error : ChaosStatusError) (reason : Reason) (pid : Int) :
    List (Bytes × Bytes) :=
  [(bytes "state", bytes "error"), (bytes "rules", bytes "0"),
    (bytes "line", natText error.line), (bytes "reason", reason.text),
    (bytes "text", error.text), (bytes "pid", intText pid)]

/-- The entries of the short layout. -/
def shortEntries (state : ChaosStatusState) (rules : Nat) (pid : Int) :
    List (Bytes × Bytes) :=
  [(bytes "state", state.name), (bytes "rules", natText rules),
    (bytes "pid", intText pid)]

/-- The entries of a report. -/
def reportEntries (state : ChaosStatusState) (rules : Nat)
    (error : Option ChaosStatusError) (pid : Int) : List (Bytes × Bytes) :=
  match state, error with
  | .error, some ⟨line, some reason, text⟩ => errorEntries ⟨line, some reason, text⟩ reason pid
  | _, _ => shortEntries state rules pid

theorem errorLayout_eq (error : ChaosStatusError) (reason : Reason) (pid : Int) :
    errorLayout error reason pid =
      KeyedLines.report (byte '=') (byte '\n') (errorEntries error reason pid) := by
  simp [errorLayout, errorEntries, KeyedLines.line, bytes, byte]

theorem shortLayout_eq (state : ChaosStatusState) (rules : Nat) (pid : Int) :
    shortLayout state rules pid =
      KeyedLines.report (byte '=') (byte '\n') (shortEntries state rules pid) := by
  simp [shortLayout, shortEntries, KeyedLines.line, bytes, byte]

theorem chaosStatusLayout_eq (state : ChaosStatusState) (rules : Nat)
    (error : Option ChaosStatusError) (pid : Int) :
    chaosStatusLayout state rules error pid =
      KeyedLines.report (byte '=') (byte '\n') (reportEntries state rules error pid) := by
  unfold chaosStatusLayout reportEntries
  split
  · exact errorLayout_eq _ _ _
  · exact shortLayout_eq _ _ _

theorem clean_errorEntries {error : ChaosStatusError} (kept : Kept error)
    (reason : Reason) (pid : Int) :
    ∀ entry ∈ errorEntries error reason pid,
      KeyedLines.Clean (byte '=') (byte '\n') entry := by
  simp only [errorEntries, List.forall_mem_cons]
  refine ⟨clean_entry (by decide) (by decide), clean_entry (by decide) (by decide),
    clean_entry (by decide) (newline_not_mem_natText _),
    clean_entry (by decide) (newline_not_mem_reason _),
    clean_entry (by decide) kept.oneLine,
    clean_entry (by decide) (newline_not_mem_intText _), ?_⟩
  exact fun _ none => absurd none List.not_mem_nil

theorem clean_shortEntries (state : ChaosStatusState) (rules : Nat) (pid : Int) :
    ∀ entry ∈ shortEntries state rules pid,
      KeyedLines.Clean (byte '=') (byte '\n') entry := by
  have name : byte '\n' ∉ state.name := by cases state <;> decide
  simp only [shortEntries, List.forall_mem_cons]
  refine ⟨clean_entry (by decide) name,
    clean_entry (by decide) (newline_not_mem_natText _),
    clean_entry (by decide) (newline_not_mem_intText _), ?_⟩
  exact fun _ none => absurd none List.not_mem_nil

/-- What a report has to be printed for. -/
structure Printable (rules : Nat) (error : Option ChaosStatusError) (pid : Int) : Prop where
  rules : rules < 2 ^ 64
  record : ∀ record ∈ error, Kept record
  low : -2 ^ 63 ≤ pid
  high : pid < 2 ^ 63

variable {state : ChaosStatusState} {rules : Nat} {error : Option ChaosStatusError}
  {pid : Int}

theorem length_errorLayout_lt {record : ChaosStatusError} (kept : Kept record)
    (reason : Reason) (low : -2 ^ 63 ≤ pid) (high : pid < 2 ^ 63) :
    (errorLayout record reason pid).length < chaosStatusBufferSize := by
  have line := length_natText_le_twenty kept.line
  have text := kept.length
  have number := length_intText_le low high
  have why := length_reason_le reason
  have keys : (bytes "state=error\nrules=0\nline=").length = 25 ∧
      (bytes "\nreason=").length = 8 ∧ (bytes "\ntext=").length = 6 ∧
      (bytes "\npid=").length = 5 ∧ (bytes "\n").length = 1 := by decide
  rw [chaosStatusTextMax] at text
  simp only [errorLayout, List.length_append, chaosStatusBufferSize]
  omega

theorem length_shortLayout_lt (state : ChaosStatusState) (small : rules < 2 ^ 64)
    (low : -2 ^ 63 ≤ pid) (high : pid < 2 ^ 63) :
    (shortLayout state rules pid).length < chaosStatusBufferSize := by
  have count := length_natText_le_twenty small
  have number := length_intText_le low high
  have name : state.name.length ≤ 5 := by cases state <;> decide
  have keys : (bytes "state=").length = 6 ∧ (bytes "\nrules=").length = 7 ∧
      (bytes "\npid=").length = 5 ∧ (bytes "\n").length = 1 := by decide
  simp only [shortLayout, List.length_append, chaosStatusBufferSize]
  omega

/-- No report is cut. -/
theorem chaosStatusFormat_eq (printable : Printable rules error pid) :
    chaosStatusFormat chaosStatusBufferSize state rules error pid =
      chaosStatusLayout state rules error pid := by
  have fits : (chaosStatusLayout state rules error pid).length <
      chaosStatusBufferSize := by
    unfold chaosStatusLayout
    split
    · exact length_errorLayout_lt (printable.record _ rfl) _ printable.low printable.high
    · exact length_shortLayout_lt _ printable.rules printable.low printable.high
  exact List.take_of_length_le (by omega)

theorem clean_reportEntries (printable : Printable rules error pid) :
    ∀ entry ∈ reportEntries state rules error pid,
      KeyedLines.Clean (byte '=') (byte '\n') entry := by
  unfold reportEntries
  split
  · exact clean_errorEntries (printable.record _ rfl) _ _
  · exact clean_shortEntries _ _ _

end ChaosLibs.Common.StatusReport
