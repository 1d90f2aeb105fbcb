import ChaosLibs.Common.CString

/-!
# Rule texts of the status and hits files

The parser error record of `chaos_status.h` and the text it keeps of a rule
line before the parser edits the line in place.  The kept text is what the
hit slots of two snapshots are matched on.
-/

namespace ChaosLibs.Common.StatusText

open ChaosLibs.Common.CString

/-- `CHAOS_STATUS_TEXT_MAX`. -/
def chaosStatusTextMax : Nat := 200

/-- The `CHAOS_STATUS_REASON_*` texts. -/
inductive Reason where
  | invalid
  | tooMany
  | tooLarge
  | unreadable
  | nul
  | unsupported
deriving DecidableEq, Repr

/-- The text of a reason in the status file. -/
def Reason.text : Reason → Bytes
  | .invalid => bytes "invalid rule"
  | .tooMany => bytes "too many rules"
  | .tooLarge => bytes "file too large"
  | .unreadable => bytes "file unreadable"
  | .nul => bytes "file contains a NUL byte"
  | .unsupported => bytes "unsupported in seccomp mode"

/-- `chaos_status_error_t`; line 0 with a reason rejects the whole file. -/
structure ChaosStatusError where
  line : Nat
  reason : Option Reason
  text : Bytes
deriving DecidableEq, Repr

/-- `chaos_status_clear`. -/
def chaosStatusClear : ChaosStatusError :=
  ⟨0, none, []⟩

/-- A kept byte: control characters and DEL become spaces. -/
def keptByte (ch : UInt8) : UInt8 :=
  if ch < 0x20 || ch == 0x7f then byte ' ' else ch

/--
The text `chaos_status_keep_line` keeps of a line that holds neither NUL nor
LF: its first `CHAOS_STATUS_TEXT_MAX` bytes, control characters as spaces.
-/
def keptText (line : Bytes) : Bytes :=
  (line.take chaosStatusTextMax).map keptByte

/-- `chaos_status_keep_line`. -/
def chaosStatusKeepLine (number : Nat) (line : Bytes) : ChaosStatusError :=
  ⟨number, none, keptText line⟩

/-- `chaos_status_reject`. -/
def chaosStatusReject
    (error : ChaosStatusError) (reason : Reason) : ChaosStatusError :=
  { error with reason := some reason }

end ChaosLibs.Common.StatusText
