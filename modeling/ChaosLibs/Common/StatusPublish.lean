import ChaosLibs.Common.CString
import ChaosLibs.Machine.FileNames
import ChaosLibs.Machine.LabelledRun

/-!
# The publication of a report

`chaos_status_publish` of `chaos_status.h` as the steps between its system calls.  What
a call answers is the label of its step, so a run is determined by the outcomes of the
calls.  Left out are the calls without an effect on names and contents (`fchmod`,
`close`) and the errno that is saved and restored.
-/

namespace ChaosLibs.Common.StatusPublish

open ChaosLibs.Common.CString
open ChaosLibs.Machine

/-! ## The calls -/

/-- Names are paths. -/
abbrev Files := FileSystem Bytes UInt8

/-- What a system call returns: a count or a descriptor, or -1 with an errno. -/
inductive Answer where
  | ok (value : Nat)
  | error (errno : Nat)
deriving DecidableEq, Repr

/-- The errnos that are looked at. -/
def eperm : Nat := 1
def eintr : Nat := 4
def eacces : Nat := 13
def eexist : Nat := 17

/-- The arguments of `chaos_status_publish`, with what `getpid` and the nonce are. -/
structure Publication where
  path : Bytes
  data : Bytes
  exclusive : Bool
  pid : Nat
  nonce : UInt64

/-- The path up to its last slash, and the rest of it. -/
def splitDirectory (path : Bytes) : Bytes × Bytes :=
  ((path.reverse.dropWhile fun ch => ch != byte '/').reverse,
    (path.reverse.takeWhile fun ch => ch != byte '/').reverse)

theorem length_splitDirectory (path : Bytes) :
    (splitDirectory path).1.length + (splitDirectory path).2.length = path.length := by
  have whole := congrArg List.length
    (@List.takeWhile_append_dropWhile _ (fun ch => ch != byte '/') path.reverse)
  rw [List.length_append, List.length_reverse] at whole
  simp only [splitDirectory, List.length_reverse]
  omega

/-- The name without a leading dot. -/
def withoutDot (name : Bytes) : Bytes :=
  if name.head? = some (byte '.') then name.drop 1 else name

/-- `%llx`. -/
def hexText (value : UInt64) : Bytes :=
  (Nat.toDigits 16 value.toNat).map fun digit => byte digit

/-- The staging name of an attempt. -/
def Publication.staging (publication : Publication) (attempt : Nat) : Bytes :=
  let (directory, name) := splitDirectory publication.path
  directory ++ bytes ".chaos-staging-" ++ bytes (toString publication.pid) ++
    bytes "-" ++ hexText (publication.nonce + UInt64.ofNat attempt) ++ bytes "-" ++
      withoutDot name

/-- `sizeof(staging)`. -/
def stagingSize : Nat := 192

/-- The attempts at a staging name. -/
def stagingAttempts : Nat := 4

/-! ## The steps -/

/-- The next system call, or the result. -/
inductive Pc where
  | openStaging (attempt : Nat)
  /-- `chaos_status_write_all` of the staging file, `written` bytes in. -/
  | write (staging : Bytes) (file written : Nat)
  | link (staging : Bytes)
  | rename (staging : Bytes)
  | openExisting (staging : Bytes)
  /-- `chaos_status_write_all` of the target, in place. -/
  | rewrite (staging : Bytes) (file written : Nat)
  | unlink (staging : Bytes) (result : Int)
  | done (result : Int)
deriving DecidableEq, Repr

variable (publication : Publication)

/-- An attempt at a staging name, or the early return when it does not fit. -/
def Publication.attempt (attempt : Nat) : Pc :=
  if stagingSize ≤ (publication.staging attempt).length then .done 0
  else .openStaging attempt

/-- After the staging file has `written` bytes. -/
def Publication.wrote (staging : Bytes) (file written : Nat) : Pc :=
  if written < publication.data.length then .write staging file written
  else if publication.exclusive then .link staging
  else .rename staging

/-- After the target has `written` bytes. -/
def Publication.rewrote (staging : Bytes) (file written : Nat) : Pc :=
  if written < publication.data.length then .rewrite staging file written
  else .unlink staging 0

/-- The bytes a write call takes. -/
def Publication.chunk (written count : Nat) : Bytes :=
  (publication.data.drop written).take count

/-- `chaos_status_publish`, one system call a step. -/
def Publication.step : Pc × Files → Answer → Option (Pc × Files)
  | (.openStaging attempt, files), .ok _ =>
      (files.create (publication.staging attempt)).map fun after =>
        (publication.wrote (publication.staging attempt) files.unused 0, after)
  | (.openStaging attempt, files), .error errno =>
      some
        (if errno = eexist ∧ attempt + 1 < stagingAttempts then
            publication.attempt (attempt + 1)
          else .done 0,
          files)
  | (.write staging file written, files), .ok count =>
      if publication.data.length - written < count then none
      else if count = 0 then some (.unlink staging 0, files)
      else
        some
          (publication.wrote staging file (written + count),
            files.append file (publication.chunk written count))
  | (.write staging file written, files), .error errno =>
      some
        (if errno = eintr then .write staging file written else .unlink staging 0,
          files)
  | (.link staging, files), .ok _ =>
      (files.link staging publication.path).map fun after => (.unlink staging 0, after)
  | (.link staging, files), .error errno =>
      some (if errno = eexist then .unlink staging 1 else .rename staging, files)
  | (.rename staging, files), .ok _ =>
      (files.rename staging publication.path).map fun after => (.done 0, after)
  | (.rename staging, files), .error errno =>
      some
        (if errno = eperm ∨ errno = eacces then .openExisting staging
          else .unlink staging 0,
          files)
  | (.openExisting staging, files), .ok _ =>
      (files.names publication.path).map fun file =>
        (publication.rewrote staging file 0, files.truncate file)
  | (.openExisting staging, files), .error _ => some (.unlink staging 0, files)
  | (.rewrite staging file written, files), .ok count =>
      if publication.data.length - written < count then none
      else if count = 0 then some (.unlink staging 0, files)
      else
        some
          (publication.rewrote staging file (written + count),
            files.append file (publication.chunk written count))
  | (.rewrite staging file written, files), .error errno =>
      some
        (if errno = eintr then .rewrite staging file written else .unlink staging 0,
          files)
  | (.unlink staging result, files), .ok _ =>
      some (.done result, files.unlink staging)
  | (.unlink _ result, files), .error _ => some (.done result, files)
  | (.done _, _), _ => none

/-! ## What a write does -/

variable {publication : Publication} {files : Files} {next : Pc × Files} {staging : Bytes}
  {file written count : Nat}

/-- A write takes nothing, or some of the bytes that are left. -/
theorem Publication.step_write
    (stepped : publication.step (.write staging file written, files) (.ok count) =
      some next) :
    (count = 0 ∧ next = (.unlink staging 0, files)) ∨
      (count ≠ 0 ∧ ¬publication.data.length - written < count ∧
        next = (publication.wrote staging file (written + count),
          files.append file (publication.chunk written count))) := by
  dsimp only [Publication.step] at stepped
  split at stepped
  · cases stepped
  · rename_i room
    split at stepped
    · rename_i nothing
      cases stepped
      exact Or.inl ⟨nothing, rfl⟩
    · rename_i something
      cases stepped
      exact Or.inr ⟨something, room, rfl⟩

theorem Publication.step_rewrite
    (stepped : publication.step (.rewrite staging file written, files) (.ok count) =
      some next) :
    (count = 0 ∧ next = (.unlink staging 0, files)) ∨
      (count ≠ 0 ∧ ¬publication.data.length - written < count ∧
        next = (publication.rewrote staging file (written + count),
          files.append file (publication.chunk written count))) := by
  dsimp only [Publication.step] at stepped
  split at stepped
  · cases stepped
  · rename_i room
    split at stepped
    · rename_i nothing
      cases stepped
      exact Or.inl ⟨nothing, rfl⟩
    · rename_i something
      cases stepped
      exact Or.inr ⟨something, room, rfl⟩

end ChaosLibs.Common.StatusPublish
