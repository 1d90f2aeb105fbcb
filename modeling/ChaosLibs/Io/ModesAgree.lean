import ChaosLibs.Common.PolicyGates
import ChaosLibs.Io.CallNames
import ChaosLibs.Io.CallSizes

/-!
# The two modes of the io rules

Whether the supervisor matches for a system call what the wrapper matches for
the libc call that issues it: the path, the rule and the byte count for
`@size`.

Over both lies a view of what a call asks for: an operation on a descriptor
with a byte count, an operation on a path, or a rename.  The modes agree for
every loaded snapshot exactly when they find the same matchable names for it
and measure it alike.
-/

namespace ChaosLibs.Io.ModesAgree

open ChaosLibs.Common.CString
open ChaosLibs.Common.PolicyGates
open ChaosLibs.Io.Rule
open ChaosLibs.Io.PathText
open ChaosLibs.Io.FdCache
open ChaosLibs.Io.MatchLoaded
open ChaosLibs.Io.LoadedRules
open ChaosLibs.Io.CallingProcess
open ChaosLibs.Io.PreloadMatch
open ChaosLibs.Io.SupervisorMatch
open ChaosLibs.Io.CallNames
open ChaosLibs.Io.CallSizes

/-! ## What a call asks for -/

/-- The byte count of a call. -/
inductive Measure where
  | unmeasured
  | count (bytes : UInt64)
  | vector (iov : UInt64) (iovcnt : Int)
  | length (bytes : UInt64)

/-- An operation and what it names. -/
inductive Request where
  | descriptor (operation : ChaosIoOperation) (fd : Int) (measure : Measure)
  | path (operation : ChaosIoOperation) (dirfd : Int) (address : UInt64)
  | rename (olddirfd : Int) (oldpath : UInt64) (newdirfd : Int)
      (newpath : UInt64)

/-- What a libc call asks for. -/
def request : LibcCall → Request
  | .read fd count => .descriptor .read fd (.count count)
  | .readv fd iov iovcnt => .descriptor .read fd (.vector iov iovcnt)
  | .write fd count => .descriptor .write fd (.count count)
  | .writev fd iov iovcnt => .descriptor .write fd (.vector iov iovcnt)
  | .sendfile outFd count => .descriptor .write outFd (.count count)
  | .copyFileRange outFd count => .descriptor .write outFd (.count count)
  | .pread fd count => .descriptor .pread fd (.count count)
  | .preadv fd iov iovcnt => .descriptor .pread fd (.vector iov iovcnt)
  | .pwrite fd count => .descriptor .pwrite fd (.count count)
  | .pwritev fd iov iovcnt => .descriptor .pwrite fd (.vector iov iovcnt)
  | .close fd => .descriptor .close fd .unmeasured
  | .fsync fd => .descriptor .fsync fd .unmeasured
  | .fdatasync fd => .descriptor .fdatasync fd .unmeasured
  | .ftruncate fd => .descriptor .truncate fd .unmeasured
  | .fallocate fd length => .descriptor .allocate fd (.length length)
  | .posixFallocate fd length => .descriptor .allocate fd (.length length)
  | .openFile path => .path .open atFdcwd path
  | .openat dirfd path => .path .open dirfd path
  | .creat path => .path .open atFdcwd path
  | .fopen path => .path .open atFdcwd path
  | .truncate path => .path .truncate atFdcwd path
  | .unlinkat dirfd path => .path .unlink dirfd path
  | .unlink path => .path .unlink atFdcwd path
  | .rmdir path => .path .unlink atFdcwd path
  | .renameat olddirfd oldpath newdirfd newpath =>
      .rename olddirfd oldpath newdirfd newpath
  | .renameat2 olddirfd oldpath newdirfd newpath =>
      .rename olddirfd oldpath newdirfd newpath
  | .rename oldpath newpath => .rename atFdcwd oldpath atFdcwd newpath

/-! ## The system calls a libc call issues -/

/-- A system call on one descriptor and a count. -/
def OnDescriptor (call : ChaosInitCall) (nr : SystemCall) (target : Fin 6)
    (fd : Int) (size : Fin 6) (count : UInt64) : Prop :=
  call.nr = nr ∧ int32 (call.args target) = fd ∧ call.args size = count

/-- A vectored system call; the `int` count arrives sign-extended. -/
def OnVector (call : ChaosInitCall) (nr : SystemCall) (fd : Int)
    (iov : UInt64) (iovcnt : Int) : Prop :=
  call.nr = nr ∧ int32 (call.args 0) = fd ∧ call.args 1 = iov ∧
    call.args 2 = UInt64.ofInt iovcnt ∧ -2 ^ 31 ≤ iovcnt ∧ iovcnt < 2 ^ 31

/-- A system call on a path alone. -/
def OnPath (call : ChaosInitCall) (nr : SystemCall) (path : UInt64) : Prop :=
  call.nr = nr ∧ call.args 0 = path

/-- A system call on a path below a directory descriptor. -/
def OnPathAt (call : ChaosInitCall) (nr : SystemCall) (dirfd : Int)
    (path : UInt64) : Prop :=
  call.nr = nr ∧ int32 (call.args 0) = dirfd ∧ call.args 1 = path

/-- A system call on two such paths. -/
def OnPathsAt (call : ChaosInitCall) (nr : SystemCall) (olddirfd : Int)
    (oldpath : UInt64) (newdirfd : Int) (newpath : UInt64) : Prop :=
  call.nr = nr ∧ int32 (call.args 0) = olddirfd ∧ call.args 1 = oldpath ∧
    int32 (call.args 2) = newdirfd ∧ call.args 3 = newpath

/-- The system calls by which the C libraries make a call. -/
def Issues : LibcCall → ChaosInitCall → Prop
  | .read fd count, call => OnDescriptor call .read 0 fd 2 count
  | .readv fd iov iovcnt, call => OnVector call .readv fd iov iovcnt
  | .write fd count, call => OnDescriptor call .write 0 fd 2 count
  | .writev fd iov iovcnt, call => OnVector call .writev fd iov iovcnt
  | .sendfile outFd count, call => OnDescriptor call .sendfile 0 outFd 3 count
  | .copyFileRange outFd count, call =>
      OnDescriptor call .copyFileRange 2 outFd 4 count
  | .pread fd count, call => OnDescriptor call .pread64 0 fd 2 count
  | .preadv fd iov iovcnt, call => OnVector call .preadv fd iov iovcnt
  | .pwrite fd count, call => OnDescriptor call .pwrite64 0 fd 2 count
  | .pwritev fd iov iovcnt, call => OnVector call .pwritev fd iov iovcnt
  | .close fd, call => call.nr = .close ∧ int32 (call.args 0) = fd
  | .fsync fd, call => call.nr = .fsync ∧ int32 (call.args 0) = fd
  | .fdatasync fd, call => call.nr = .fdatasync ∧ int32 (call.args 0) = fd
  | .ftruncate fd, call => call.nr = .ftruncate ∧ int32 (call.args 0) = fd
  | .fallocate fd length, call => OnDescriptor call .fallocate 0 fd 3 length
  | .posixFallocate fd length, call =>
      OnDescriptor call .fallocate 0 fd 3 length
  | .openFile path, call =>
      OnPath call .openFile path ∨ OnPathAt call .openat atFdcwd path
  | .openat dirfd path, call => OnPathAt call .openat dirfd path
  | .creat path, call =>
      OnPath call .creat path ∨ OnPath call .openFile path ∨
        OnPathAt call .openat atFdcwd path
  | .fopen path, call =>
      OnPath call .openFile path ∨ OnPathAt call .openat atFdcwd path
  | .truncate path, call => OnPath call .truncate path
  | .unlinkat dirfd path, call => OnPathAt call .unlinkat dirfd path
  | .unlink path, call =>
      OnPath call .unlink path ∨ OnPathAt call .unlinkat atFdcwd path
  | .rmdir path, call =>
      OnPath call .rmdir path ∨ OnPathAt call .unlinkat atFdcwd path
  | .renameat olddirfd oldpath newdirfd newpath, call =>
      OnPathsAt call .renameat olddirfd oldpath newdirfd newpath ∨
        OnPathsAt call .renameat2 olddirfd oldpath newdirfd newpath
  | .renameat2 olddirfd oldpath newdirfd newpath, call =>
      OnPathsAt call .renameat2 olddirfd oldpath newdirfd newpath
  | .rename oldpath newpath, call =>
      (call.nr = .rename ∧ call.args 0 = oldpath ∧ call.args 1 = newpath) ∨
        OnPathsAt call .renameat atFdcwd oldpath atFdcwd newpath ∨
          OnPathsAt call .renameat2 atFdcwd oldpath atFdcwd newpath

/--
The supervisor matches for the system call, whatever snapshot is loaded, the
path, the rule and the byte count that the wrapper matches for the libc call.
-/
def SameMatch (caller : Caller) (libc : LibcCall) (system : ChaosInitCall) :
    Prop :=
  ∀ snapshot, chaosInitIoDecide caller snapshot system =
    some (preloadMatch caller snapshot libc)

/-! ## Byte counts -/

/-- What the wrapper writes to `call_size`. -/
def preloadMeasure (caller : Caller) : Measure → Matched → Matched
  | .unmeasured, found => found
  | .count bytes, found => found.measured bytes.toNat
  | .vector iov iovcnt, found =>
      found.measured (chaosIoIovecSize caller iov iovcnt)
  | .length bytes, found => found.measured bytes.toNat

/-- What the supervisor writes to it. -/
def supervisorMeasure (caller : Caller) : Measure → Matched → Matched
  | .unmeasured, found => found
  | .count bytes, found => found.measured bytes.toNat
  | .vector iov iovcnt, found =>
      found.measured (chaosInitIoIovSize caller iov (UInt64.ofInt iovcnt))
  | .length _, found => found

/-- The calls that both modes measure alike. -/
def MeasuredAlike (caller : Caller) : Measure → Prop
  | .unmeasured | .count _ => True
  | .vector iov iovcnt => VectorAlike caller iov iovcnt
  | .length bytes => bytes.toNat = chaosPolicyNoSize

/-! ## What each mode matches for a request -/

/-- The rule of a rename, from the best rules of its two sides. -/
def selectRename : Option Matched → Option Matched → Option Matched
  | none, none => none
  | none, some toRule => some toRule
  | some fromRule, none => some fromRule
  | some fromRule, some toRule =>
      if fromRule.rule.pathLen ≤ toRule.rule.pathLen then some toRule
      else some fromRule

/-- The library's match of a request. -/
def preloaded (caller : Caller) (snapshot : Snapshot) : Request → Option Matched
  | .descriptor operation fd measure =>
      ((preloadFd caller fd).bind (matchedAt snapshot operation)).map
        (preloadMeasure caller measure)
  | .path operation dirfd address =>
      (preloadPath caller dirfd (caller.strings address)).bind
        (matchedAt snapshot operation)
  | .rename olddirfd oldpath newdirfd newpath =>
      selectRename
        ((preloadPath caller olddirfd (caller.strings oldpath)).bind
          (matchedAt snapshot .renameFrom))
        ((preloadPath
            (chaosIoResolveAtPath caller olddirfd (caller.strings oldpath)).1
            newdirfd (caller.strings newpath)).bind
          (matchedAt snapshot .renameTo))

/-- The supervisor's match of a request. -/
def supervised (caller : Caller) (snapshot : Snapshot) : Request → Option Matched
  | .descriptor operation fd measure =>
      ((supervisorFd caller fd).bind (matchedAt snapshot operation)).map
        (supervisorMeasure caller measure)
  | .path operation dirfd address =>
      (supervisorPath caller dirfd (caller.strings address)).bind
        (matchedAt snapshot operation)
  | .rename olddirfd oldpath newdirfd newpath =>
      selectRename
        ((supervisorPath caller olddirfd (caller.strings oldpath)).bind
          (matchedAt snapshot .renameFrom))
        ((supervisorPath caller newdirfd (caller.strings newpath)).bind
          (matchedAt snapshot .renameTo))

theorem bind_unexcluded_of_unprepared
    {snapshot : Snapshot} (unprepared : (!chaosIoConfigPrepare snapshot) = true)
    (operation : ChaosIoOperation) (found : Option Bytes) :
    (found.bind fun path =>
        if chaosIoIsExcludedPath path then none
        else matchedAt snapshot operation path) = none := by
  rw [Bool.not_eq_true'] at unprepared
  cases found with
  | none => rfl
  | some path =>
      rw [Option.bind_some, matchedAt, matchLoaded_of_unprepared unprepared]
      exact ite_self none

/-- The exclusion check of a path that is found. -/
theorem bind_unexcluded
    {snapshot : Snapshot} {operation : ChaosIoOperation} {found : Option Bytes}
    (named : ∀ path, found = some path → IsKernelName path) :
    (found.bind fun path =>
        if chaosIoIsExcludedPath path then none
        else matchedAt snapshot operation path) =
      (found.filter matchable).bind (matchedAt snapshot operation) := by
  rw [← bind_chaosIoConfigMatchPath named]
  cases found with
  | none => rfl
  | some path =>
      rw [Option.bind_some, Option.bind_some]
      unfold chaosIoConfigMatchPath
      split
      · rfl
      · split
        · rename_i unprepared
          rw [Bool.not_eq_true'] at unprepared
          rw [matchedAt, matchLoaded_of_unprepared unprepared]
          rfl
        · rfl

theorem matchAtPath_eq (caller : Caller) (snapshot : Snapshot) (dirfd : Int)
    (operation : ChaosIoOperation) (path : Option Bytes) :
    matchAtPath caller snapshot dirfd operation path =
      (preloadPath caller dirfd path).bind (matchedAt snapshot operation) := by
  unfold matchAtPath preloadPath
  rw [← bind_chaosIoConfigMatchPath fun text resolved =>
    isKernelName_of_resolveAtPath resolved]
  cases (chaosIoResolveAtPath caller dirfd path).2 with
  | none => rfl
  | some text =>
      rw [Option.bind_some, Option.bind_some]
      split
      · rename_i excluded
        rw [chaosIoConfigMatchPath, if_pos excluded]
      · rfl

theorem unlinkat_eq (caller : Caller) (snapshot : Snapshot) (dirfd : Int)
    (path : UInt64) :
    unlinkat caller snapshot dirfd path =
      (preloadPath caller dirfd (caller.strings path)).bind
        (matchedAt snapshot .unlink) := by
  unfold unlinkat preloadPath
  rw [← bind_chaosIoConfigMatchPath fun text resolved =>
    isKernelName_of_resolveAtPath resolved]
  cases (chaosIoResolveAtPath caller dirfd (caller.strings path)).2 with
  | none => rfl
  | some text =>
      rw [Option.bind_some, Option.bind_some]
      unfold chaosIoConfigMatchPath chaosIoMatchLoadedPathRule
      split
      · rfl
      · rfl

/-- The best rule of a rename's side that is found. -/
theorem bind_chaosIoMatchLoadedPathRule
    {snapshot : Snapshot} {operation : ChaosIoOperation} {found : Option Bytes}
    (named : ∀ path, found = some path → IsKernelName path) :
    found.bind (chaosIoMatchLoadedPathRule snapshot operation) =
      (found.filter matchable).bind (matchedAt snapshot operation) :=
  bind_unexcluded named

theorem chaosIoMatchRenameRule_eq (caller : Caller) (snapshot : Snapshot)
    (olddirfd : Int) (oldpath : UInt64) (newdirfd : Int) (newpath : UInt64) :
    chaosIoMatchRenameRule caller snapshot olddirfd (caller.strings oldpath)
        newdirfd (caller.strings newpath) =
      preloaded caller snapshot (.rename olddirfd oldpath newdirfd newpath) := by
  simp only [preloaded, preloadPath]
  rw [← bind_chaosIoMatchLoadedPathRule fun text resolved =>
      isKernelName_of_resolveAtPath resolved,
    ← bind_chaosIoMatchLoadedPathRule fun text resolved =>
      isKernelName_of_resolveAtPath resolved]
  unfold chaosIoMatchRenameRule
  generalize chaosIoResolveAtPath caller olddirfd (caller.strings oldpath) = old
  simp only
  generalize (chaosIoResolveAtPath old.1 newdirfd (caller.strings newpath)).2 =
    new
  split
  · rename_i neither
    rw [Bool.and_eq_true, Option.isNone_iff_eq_none,
      Option.isNone_iff_eq_none] at neither
    rw [neither.1, neither.2]
    rfl
  · split
    · rename_i unprepared
      have noFrom := bind_unexcluded_of_unprepared unprepared .renameFrom old.2
      have noTo := bind_unexcluded_of_unprepared unprepared .renameTo new
      exact (congrArg₂ selectRename noFrom noTo).symm
    · rfl

theorem chaosInitIoRename_eq (caller : Caller) (snapshot : Snapshot)
    (call : ChaosInitCall) (atDirfd : Bool) :
    chaosInitIoRename caller snapshot call atDirfd =
      selectRename
        ((supervisorPath caller (dirfdOf atDirfd (call.args 0))
            (caller.strings (call.args (if atDirfd then 1 else 0)))).bind
          (matchedAt snapshot .renameFrom))
        ((supervisorPath caller (dirfdOf atDirfd (call.args 2))
            (caller.strings (call.args (if atDirfd then 3 else 1)))).bind
          (matchedAt snapshot .renameTo)) := by
  rw [← filter_chaosInitIoAtPath, ← filter_chaosInitIoAtPath]
  rw [← bind_unexcluded fun text built => isKernelName_of_atPath built,
    ← bind_unexcluded fun text built => isKernelName_of_atPath built]
  unfold chaosInitIoRename
  simp only
  generalize chaosInitIoAtPath caller atDirfd (call.args 0)
    (call.args (if atDirfd then 1 else 0)) = source
  generalize chaosInitIoAtPath caller atDirfd (call.args 2)
    (call.args (if atDirfd then 3 else 1)) = target
  split
  · rename_i nothing
    rcases Bool.or_eq_true_iff.mp nothing with neither | unprepared
    · rw [Bool.and_eq_true, Option.isNone_iff_eq_none,
        Option.isNone_iff_eq_none] at neither
      rw [neither.1, neither.2]
      rfl
    · have noFrom :=
        bind_unexcluded_of_unprepared unprepared .renameFrom source
      have noTo := bind_unexcluded_of_unprepared unprepared .renameTo target
      exact (congrArg₂ selectRename noFrom noTo).symm
  · change _ = selectRename (source.bind (chaosInitIoMatch snapshot .renameFrom))
      (target.bind (chaosInitIoMatch snapshot .renameTo))
    cases target.bind (chaosInitIoMatch snapshot .renameTo) with
    | none =>
        cases source.bind (chaosInitIoMatch snapshot .renameFrom) with
        | none => rfl
        | some fromRule => rfl
    | some toRule =>
        cases source.bind (chaosInitIoMatch snapshot .renameFrom) with
        | none => rfl
        | some fromRule => rfl

/-- A wrapper matches what its request asks for. -/
theorem preloadMatch_eq (caller : Caller) (snapshot : Snapshot)
    (libc : LibcCall) :
    preloadMatch caller snapshot libc =
      preloaded caller snapshot (request libc) := by
  have unmeasured : ∀ operation fd,
      chaosIoMatchFdRule caller snapshot fd operation =
        preloaded caller snapshot (.descriptor operation fd .unmeasured) := by
    intro operation fd
    rw [chaosIoMatchFdRule_eq]
    exact Option.map_id'.symm
  have counted : ∀ operation fd (bytes : UInt64),
      chaosIoMatchFdRuleSized caller snapshot fd operation bytes.toNat =
        preloaded caller snapshot (.descriptor operation fd (.count bytes)) := by
    intro operation fd bytes
    rw [chaosIoMatchFdRuleSized, chaosIoMatchFdRule_eq]
    rfl
  have vectored : ∀ operation fd iov iovcnt,
      matchVector caller snapshot fd operation iov iovcnt =
        preloaded caller snapshot
          (.descriptor operation fd (.vector iov iovcnt)) := by
    intro operation fd iov iovcnt
    rw [matchVector, chaosIoMatchFdRule_eq]
    rfl
  have named : ∀ operation dirfd path,
      matchAtPath caller snapshot dirfd operation (caller.strings path) =
        preloaded caller snapshot (.path operation dirfd path) :=
    fun operation dirfd path => matchAtPath_eq caller snapshot dirfd operation _
  cases libc with
  | read fd count => exact counted _ _ _
  | readv fd iov iovcnt => exact vectored _ _ _ _
  | write fd count => exact counted _ _ _
  | writev fd iov iovcnt => exact vectored _ _ _ _
  | sendfile outFd count => exact counted _ _ _
  | copyFileRange outFd count => exact counted _ _ _
  | pread fd count => exact counted _ _ _
  | preadv fd iov iovcnt => exact vectored _ _ _ _
  | pwrite fd count => exact counted _ _ _
  | pwritev fd iov iovcnt => exact vectored _ _ _ _
  | close fd => exact unmeasured _ _
  | fsync fd => exact unmeasured _ _
  | fdatasync fd => exact unmeasured _ _
  | ftruncate fd => exact unmeasured _ _
  | fallocate fd length => exact counted _ _ _
  | posixFallocate fd length => exact counted _ _ _
  | openFile path => exact named _ _ _
  | openat dirfd path => exact named _ _ _
  | creat path => exact named _ _ _
  | fopen path => exact named _ _ _
  | truncate path => exact named _ _ _
  | unlinkat dirfd path => exact unlinkat_eq caller snapshot dirfd path
  | unlink path => exact unlinkat_eq caller snapshot atFdcwd path
  | rmdir path => exact unlinkat_eq caller snapshot atFdcwd path
  | renameat olddirfd oldpath newdirfd newpath =>
      exact chaosIoMatchRenameRule_eq caller snapshot _ _ _ _
  | renameat2 olddirfd oldpath newdirfd newpath =>
      exact chaosIoMatchRenameRule_eq caller snapshot _ _ _ _
  | rename oldpath newpath =>
      exact chaosIoMatchRenameRule_eq caller snapshot _ _ _ _

/-! ### The rows of the table -/

section

variable {caller : Caller} {snapshot : Snapshot} {system : ChaosInitCall}

theorem chaosInitIoDecide_of_entry
    {entry : ChaosInitIoCall}
    (listed : (chaosInitIoCalls.find? fun entry => entry.nr == system.nr) =
      some entry) :
    chaosInitIoDecide caller snapshot system =
      some ((matchEntry caller snapshot entry system).map
        (measureEntry caller entry system)) := by
  rw [chaosInitIoDecide, listed]
  rfl

theorem matchEntry_fd (nr : SystemCall) (operation : ChaosIoOperation)
    (target : Fin 6) (size : SizeColumn) :
    matchEntry caller snapshot ⟨nr, operation, .fd, target, size⟩ system =
      (supervisorFd caller (int32 (system.args target))).bind
        (matchedAt snapshot operation) :=
  matchFdPath_eq caller snapshot (system.args target) operation

theorem matchEntry_path (nr : SystemCall) (operation : ChaosIoOperation)
    (target : Fin 6) (size : SizeColumn) :
    matchEntry caller snapshot ⟨nr, operation, .path, target, size⟩ system =
      (supervisorPath caller atFdcwd
        (caller.strings (system.args target))).bind
        (matchedAt snapshot operation) := by
  have built := filter_chaosInitIoAtPath caller false 0 (system.args target)
  rw [show supervisorPath caller atFdcwd _ = _ from built.symm]
  exact bind_chaosIoConfigMatchPath fun text built =>
    isKernelName_of_atPath built

theorem matchEntry_pathAt (nr : SystemCall) (operation : ChaosIoOperation)
    (target : Fin 6) (size : SizeColumn) :
    matchEntry caller snapshot ⟨nr, operation, .pathAt, target, size⟩ system =
      (supervisorPath caller (int32 (system.args (target - 1)))
        (caller.strings (system.args target))).bind
        (matchedAt snapshot operation) := by
  have built := filter_chaosInitIoAtPath caller true
    (system.args (target - 1)) (system.args target)
  rw [show supervisorPath caller (int32 (system.args (target - 1))) _ = _
    from built.symm]
  exact bind_chaosIoConfigMatchPath fun text built =>
    isKernelName_of_atPath built

/-- The first row of a number, and no other, decodes its calls. -/
def Listed (entry : ChaosInitIoCall) : Prop :=
  (chaosInitIoCalls.find? fun other => other.nr == entry.nr) = some entry

instance (entry : ChaosInitIoCall) : Decidable (Listed entry) :=
  inferInstanceAs (Decidable (_ = some entry))

theorem decide_descriptor
    {nr : SystemCall} {operation : ChaosIoOperation} {target : Fin 6}
    {size : SizeColumn} {fd : Int} {measure : Measure}
    (listed : Listed ⟨nr, operation, .fd, target, size⟩)
    (number : system.nr = nr) (argument : int32 (system.args target) = fd)
    (measures : ∀ found,
      measureEntry caller ⟨nr, operation, .fd, target, size⟩ system found =
        supervisorMeasure caller measure found) :
    chaosInitIoDecide caller snapshot system =
      some (supervised caller snapshot (.descriptor operation fd measure)) := by
  subst number argument
  rw [chaosInitIoDecide_of_entry listed, matchEntry_fd]
  exact congrArg some (congrArg₂ Option.map (funext measures) rfl)

theorem decide_path
    {nr : SystemCall} {operation : ChaosIoOperation} {target : Fin 6}
    {address : UInt64} (listed : Listed ⟨nr, operation, .path, target, .none⟩)
    (number : system.nr = nr) (argument : system.args target = address) :
    chaosInitIoDecide caller snapshot system =
      some (supervised caller snapshot (.path operation atFdcwd address)) := by
  subst number argument
  rw [chaosInitIoDecide_of_entry listed, matchEntry_path]
  exact congrArg some Option.map_id'

theorem decide_pathAt
    {nr : SystemCall} {operation : ChaosIoOperation} {dirfd : Int}
    {address : UInt64} (listed : Listed ⟨nr, operation, .pathAt, 1, .none⟩)
    (number : system.nr = nr) (directory : int32 (system.args 0) = dirfd)
    (argument : system.args 1 = address) :
    chaosInitIoDecide caller snapshot system =
      some (supervised caller snapshot (.path operation dirfd address)) := by
  subst number directory argument
  rw [chaosInitIoDecide_of_entry listed, matchEntry_pathAt]
  exact congrArg some Option.map_id'

theorem decide_renameAt
    {nr : SystemCall} {olddirfd newdirfd : Int} {oldpath newpath : UInt64}
    (listed : Listed ⟨nr, .renameFrom, .renameAt, 0, .none⟩)
    (on : OnPathsAt system nr olddirfd oldpath newdirfd newpath) :
    chaosInitIoDecide caller snapshot system =
      some (supervised caller snapshot
        (.rename olddirfd oldpath newdirfd newpath)) := by
  rcases on with ⟨number, rfl, rfl, rfl, rfl⟩
  subst number
  rw [chaosInitIoDecide_of_entry listed]
  have renamed := chaosInitIoRename_eq caller snapshot system true
  exact congrArg some (Option.map_id'.trans renamed)

theorem decide_rename
    {oldpath newpath : UInt64} (number : system.nr = .rename)
    (old : system.args 0 = oldpath) (new : system.args 1 = newpath) :
    chaosInitIoDecide caller snapshot system =
      some (supervised caller snapshot
        (.rename atFdcwd oldpath atFdcwd newpath)) := by
  subst old new
  have listed : Listed ⟨.rename, .renameFrom, .rename, 0, .none⟩ := rfl
  rw [← number] at listed
  rw [chaosInitIoDecide_of_entry listed]
  have renamed := chaosInitIoRename_eq caller snapshot system false
  exact congrArg some (Option.map_id'.trans renamed)

theorem decide_onDescriptor
    {nr : SystemCall} {operation : ChaosIoOperation} {target size : Fin 6}
    {fd : Int} {bytes : UInt64}
    (listed : Listed ⟨nr, operation, .fd, target, .argument size⟩)
    (on : OnDescriptor system nr target fd size bytes) :
    chaosInitIoDecide caller snapshot system =
      some (supervised caller snapshot
        (.descriptor operation fd (.count bytes))) := by
  rcases on with ⟨number, argument, rfl⟩
  exact decide_descriptor listed number argument fun found => rfl

theorem decide_onVector
    {nr : SystemCall} {operation : ChaosIoOperation} {fd : Int}
    {iov : UInt64} {iovcnt : Int}
    (listed : Listed ⟨nr, operation, .fd, 0, .iovec⟩)
    (on : OnVector system nr fd iov iovcnt) :
    chaosInitIoDecide caller snapshot system =
      some (supervised caller snapshot
        (.descriptor operation fd (.vector iov iovcnt))) := by
  rcases on with ⟨number, argument, rfl, count, -, -⟩
  refine decide_descriptor listed number argument ?_
  intro found
  rw [measureEntry, count]
  rfl

theorem decide_allocate
    {fd : Int} {bytes : UInt64}
    (on : OnDescriptor system .fallocate 0 fd 3 bytes) :
    chaosInitIoDecide caller snapshot system =
      some (supervised caller snapshot
        (.descriptor .allocate fd (.length bytes))) := by
  rcases on with ⟨number, argument, -⟩
  have listed : Listed ⟨.fallocate, .allocate, .fd, 0, .none⟩ := rfl
  exact decide_descriptor listed number argument fun found => rfl

/-- The supervisor matches what the request of the libc call asks for. -/
theorem chaosInitIoDecide_of_issues
    {libc : LibcCall} (issues : Issues libc system) :
    chaosInitIoDecide caller snapshot system =
      some (supervised caller snapshot (request libc)) := by
  have unmeasured : ∀ {nr operation fd},
      Listed ⟨nr, operation, .fd, 0, .none⟩ →
      system.nr = nr ∧ int32 (system.args 0) = fd →
      chaosInitIoDecide caller snapshot system =
        some (supervised caller snapshot
          (.descriptor operation fd .unmeasured)) :=
    fun listed on => decide_descriptor listed on.1 on.2 fun found => rfl
  cases libc with
  | read fd count => exact decide_onDescriptor (by decide) issues
  | readv fd iov iovcnt => exact decide_onVector (by decide) issues
  | write fd count => exact decide_onDescriptor (by decide) issues
  | writev fd iov iovcnt => exact decide_onVector (by decide) issues
  | sendfile outFd count => exact decide_onDescriptor (by decide) issues
  | copyFileRange outFd count => exact decide_onDescriptor (by decide) issues
  | pread fd count => exact decide_onDescriptor (by decide) issues
  | preadv fd iov iovcnt => exact decide_onVector (by decide) issues
  | pwrite fd count => exact decide_onDescriptor (by decide) issues
  | pwritev fd iov iovcnt => exact decide_onVector (by decide) issues
  | close fd => exact unmeasured (by decide) issues
  | fsync fd => exact unmeasured (by decide) issues
  | fdatasync fd => exact unmeasured (by decide) issues
  | ftruncate fd => exact unmeasured (by decide) issues
  | fallocate fd length => exact decide_allocate issues
  | posixFallocate fd length => exact decide_allocate issues
  | openFile path =>
      rcases issues with alone | below
      · exact decide_path (by decide) alone.1 alone.2
      · exact decide_pathAt (by decide) below.1 below.2.1 below.2.2
  | openat dirfd path => exact decide_pathAt (by decide) issues.1 issues.2.1 issues.2.2
  | creat path =>
      rcases issues with alone | opened | below
      · exact decide_path (by decide) alone.1 alone.2
      · exact decide_path (by decide) opened.1 opened.2
      · exact decide_pathAt (by decide) below.1 below.2.1 below.2.2
  | fopen path =>
      rcases issues with alone | below
      · exact decide_path (by decide) alone.1 alone.2
      · exact decide_pathAt (by decide) below.1 below.2.1 below.2.2
  | truncate path => exact decide_path (by decide) issues.1 issues.2
  | unlinkat dirfd path =>
      exact decide_pathAt (by decide) issues.1 issues.2.1 issues.2.2
  | unlink path =>
      rcases issues with alone | below
      · exact decide_path (by decide) alone.1 alone.2
      · exact decide_pathAt (by decide) below.1 below.2.1 below.2.2
  | rmdir path =>
      rcases issues with alone | below
      · exact decide_path (by decide) alone.1 alone.2
      · exact decide_pathAt (by decide) below.1 below.2.1 below.2.2
  | renameat olddirfd oldpath newdirfd newpath =>
      rcases issues with old | new
      · exact decide_renameAt (by decide) old
      · exact decide_renameAt (by decide) new
  | renameat2 olddirfd oldpath newdirfd newpath =>
      exact decide_renameAt (by decide) issues
  | rename oldpath newpath =>
      rcases issues with ⟨number, old, new⟩ | below | below
      · exact decide_rename number old new
      · exact decide_renameAt (by decide) below
      · exact decide_renameAt (by decide) below

end

/-! ## When the modes agree -/

/-- The condition on a request under which both modes match the same for it. -/
def Alike (caller : Caller) : Request → Prop
  | .descriptor _ fd measure =>
      (fd ≤ 2 ∨ DescriptorAlike caller fd) ∧
        (MeasuredAlike caller measure ∨ supervisorFd caller fd = none)
  | .path _ dirfd address => PathAlike caller dirfd (caller.strings address)
  | .rename olddirfd oldpath newdirfd newpath =>
      PathAlike caller olddirfd (caller.strings oldpath) ∧
        PathAlike
          (chaosIoResolveAtPath caller olddirfd (caller.strings oldpath)).1
          newdirfd (caller.strings newpath)

/-- A match of the rule that covers every absolute path. -/
theorem matchedAt_rootSnapshot
    {found : Option Bytes}
    (absolute : ∀ path, found = some path → IsAbsolute path)
    (operation : ChaosIoOperation) :
    found.bind (matchedAt (rootSnapshot operation) operation) =
      found.map fun path => ⟨path, rootRule operation⟩ := by
  cases found with
  | none => rfl
  | some path =>
      rw [Option.bind_some, matchedAt,
        matchLoaded_rootSnapshot (absolute path rfl)]
      rfl

theorem bind_matchedAt_rootSnapshot_of_ne
    {operation other : ChaosIoOperation} (different : operation ≠ other)
    (found : Option Bytes) :
    found.bind (matchedAt (rootSnapshot operation) other) = none := by
  cases found with
  | none => rfl
  | some path =>
      rw [Option.bind_some, matchedAt,
        matchLoaded_rootSnapshot_of_ne different]
      rfl

theorem map_matched_injective
    {rule : StoredRule} {first second : Option Bytes}
    (same : (first.map fun path => (⟨path, rule⟩ : Matched)) =
      second.map fun path => ⟨path, rule⟩) : first = second := by
  cases first with
  | none =>
      cases second with
      | none => rfl
      | some path => cases same
  | some path =>
      cases second with
      | none => cases same
      | some other =>
          have paths := congrArg Matched.path (Option.some.inj same)
          exact congrArg some paths

/-! ### Counts -/

/-- The arguments of a vectored call are those of a C function. -/
def InRange : Measure → Prop
  | .vector _ iovcnt => -2 ^ 31 ≤ iovcnt ∧ iovcnt < 2 ^ 31
  | _ => True

theorem measured_eq_iff (found : Matched) (first second : Nat) :
    found.measured first = found.measured second ↔ first = second := by
  constructor
  · intro same
    have rules := congrArg Matched.rule same
    exact congrArg StoredRule.callSize rules
  · rintro rfl
    rfl

theorem measured_noSize {found : Matched}
    (unmeasured : found.rule.callSize = chaosPolicyNoSize) :
    found.measured chaosPolicyNoSize = found := by
  rw [← unmeasured]
  rfl

theorem preloadMeasure_eq_iff
    {caller : Caller} {measure : Measure} (range : InRange measure)
    {found : Matched} (unmeasured : found.rule.callSize = chaosPolicyNoSize) :
    preloadMeasure caller measure found =
        supervisorMeasure caller measure found ↔
      MeasuredAlike caller measure := by
  cases measure with
  | unmeasured => exact iff_of_true rfl trivial
  | count bytes => exact iff_of_true rfl trivial
  | vector iov iovcnt =>
      exact (measured_eq_iff _ _ _).trans
        (iovecSize_eq_iff caller iov range.1 range.2)
  | length bytes =>
      have same := measured_eq_iff found bytes.toNat chaosPolicyNoSize
      rw [measured_noSize unmeasured] at same
      exact same

theorem path_preloadMeasure (caller : Caller) (measure : Measure)
    (found : Matched) :
    (preloadMeasure caller measure found).path = found.path := by
  cases measure <;> rfl

theorem path_supervisorMeasure (caller : Caller) (measure : Measure)
    (found : Matched) :
    (supervisorMeasure caller measure found).path = found.path := by
  cases measure <;> rfl

theorem callSize_of_matchedAt
    {snapshot : Snapshot} {operation : ChaosIoOperation} {path : Bytes}
    {found : Matched} (picked : matchedAt snapshot operation path = some found) :
    found.rule.callSize = chaosPolicyNoSize := by
  rcases Option.map_eq_some_iff.mp picked with ⟨rule, selected, rfl⟩
  exact (matchLoaded_eq_some selected).1.unmeasured

/-! ### Requests -/

theorem supervised_eq_preloaded_descriptor_iff
    (caller : Caller) (operation : ChaosIoOperation) (fd : Int)
    {measure : Measure} (range : InRange measure) :
    (∀ snapshot,
        supervised caller snapshot (.descriptor operation fd measure) =
          preloaded caller snapshot (.descriptor operation fd measure)) ↔
      Alike caller (.descriptor operation fd measure) := by
  simp only [supervised, preloaded, Alike]
  rw [← preloadFd_eq_iff]
  constructor
  · intro each
    have root := each (rootSnapshot operation)
    rw [matchedAt_rootSnapshot fun path => isAbsolute_of_supervisorFd,
      matchedAt_rootSnapshot fun path => isAbsolute_of_preloadFd] at root
    have names : preloadFd caller fd = supervisorFd caller fd := by
      have paths := congrArg (Option.map Matched.path) root
      simp only [Option.map_map, Function.comp_def, path_preloadMeasure,
        path_supervisorMeasure, Option.map_id'] at paths
      exact paths.symm
    refine ⟨names, ?_⟩
    cases found : supervisorFd caller fd with
    | none => exact Or.inr rfl
    | some path =>
        rw [names, found] at root
        have unmeasured :
            (⟨path, rootRule operation⟩ : Matched).rule.callSize =
              chaosPolicyNoSize :=
          rfl
        exact Or.inl ((preloadMeasure_eq_iff range unmeasured).mp
          (Option.some.inj root).symm)
  · rintro ⟨names, alike⟩ snapshot
    rw [names]
    cases found : supervisorFd caller fd with
    | none => rfl
    | some path =>
        rw [Option.bind_some]
        have measures : MeasuredAlike caller measure := by
          rcases alike with measures | nothing
          · exact measures
          · rw [found] at nothing
            cases nothing
        cases picked : matchedAt snapshot operation path with
        | none => rfl
        | some found =>
            have unmeasured := callSize_of_matchedAt picked
            have same := (preloadMeasure_eq_iff range unmeasured).mpr measures
            exact congrArg some same.symm

theorem supervised_eq_preloaded_path_iff
    (caller : Caller) (operation : ChaosIoOperation) (dirfd : Int)
    (address : UInt64) :
    (∀ snapshot,
        supervised caller snapshot (.path operation dirfd address) =
          preloaded caller snapshot (.path operation dirfd address)) ↔
      Alike caller (.path operation dirfd address) := by
  simp only [supervised, preloaded, Alike]
  rw [← preloadPath_eq_iff]
  constructor
  · intro each
    have root := each (rootSnapshot operation)
    rw [matchedAt_rootSnapshot fun path => isAbsolute_of_supervisorPath,
      matchedAt_rootSnapshot fun path => isAbsolute_of_preloadPath] at root
    exact (map_matched_injective root).symm
  · intro names snapshot
    rw [names]

theorem selectRename_none_right (source : Option Matched) :
    selectRename source none = source := by
  cases source <;> rfl

theorem selectRename_none_left (target : Option Matched) :
    selectRename none target = target := by
  cases target <;> rfl

/-- What the supervisor reads of a process is not in its descriptor cache. -/
theorem supervisorPath_resolveAtPath (caller : Caller) (olddirfd : Int)
    (oldpath : Option Bytes) (dirfd : Int) (path : Option Bytes) :
    supervisorPath (chaosIoResolveAtPath caller olddirfd oldpath).1 dirfd path =
      supervisorPath caller dirfd path := by
  unfold chaosIoResolveAtPath
  split
  · rfl
  · split
    · rfl
    · split
      · rfl
      · rfl

theorem supervised_eq_preloaded_rename_iff
    (caller : Caller) (olddirfd : Int) (oldpath : UInt64) (newdirfd : Int)
    (newpath : UInt64) :
    (∀ snapshot,
        supervised caller snapshot (.rename olddirfd oldpath newdirfd newpath) =
          preloaded caller snapshot
            (.rename olddirfd oldpath newdirfd newpath)) ↔
      Alike caller (.rename olddirfd oldpath newdirfd newpath) := by
  simp only [supervised, preloaded, Alike]
  rw [← preloadPath_eq_iff, ← preloadPath_eq_iff, supervisorPath_resolveAtPath]
  constructor
  · intro each
    constructor
    · -- a rule for the source alone
      have other : ChaosIoOperation.renameFrom ≠ .renameTo := by decide
      have source := each (rootSnapshot .renameFrom)
      rw [bind_matchedAt_rootSnapshot_of_ne other,
        bind_matchedAt_rootSnapshot_of_ne other,
        selectRename_none_right, selectRename_none_right,
        matchedAt_rootSnapshot fun path => isAbsolute_of_supervisorPath,
        matchedAt_rootSnapshot fun path => isAbsolute_of_preloadPath] at source
      exact (map_matched_injective source).symm
    · -- a rule for the target alone
      have other : ChaosIoOperation.renameTo ≠ .renameFrom := by decide
      have target := each (rootSnapshot .renameTo)
      rw [bind_matchedAt_rootSnapshot_of_ne other,
        bind_matchedAt_rootSnapshot_of_ne other,
        selectRename_none_left, selectRename_none_left,
        matchedAt_rootSnapshot fun path => isAbsolute_of_supervisorPath,
        matchedAt_rootSnapshot fun path => isAbsolute_of_preloadPath] at target
      exact (map_matched_injective target).symm
  · rintro ⟨source, target⟩ snapshot
    rw [source, target]

theorem inRange_of_issues
    {libc : LibcCall} {system : ChaosInitCall} (issues : Issues libc system)
    {operation : ChaosIoOperation} {fd : Int} {measure : Measure}
    (asked : request libc = .descriptor operation fd measure) :
    InRange measure := by
  cases libc with
  | readv fd iov iovcnt | writev fd iov iovcnt | preadv fd iov iovcnt
  | pwritev fd iov iovcnt =>
      cases asked
      exact issues.2.2.2.2
  | _ =>
      cases asked
      try exact trivial

/--
The modes agree on a system call exactly when its descriptors' cached names
are current, its relative paths are looked up below directories that have not
been removed and are not excluded, and it is not measured by its length or by
a vector that only one mode measures; or where none of these names anything a
rule can be matched for.
-/
theorem sameMatch_iff_alike
    (caller : Caller) {libc : LibcCall} {system : ChaosInitCall}
    (issues : Issues libc system) :
    SameMatch caller libc system ↔ Alike caller (request libc) := by
  have decides : SameMatch caller libc system ↔
      ∀ snapshot, supervised caller snapshot (request libc) =
        preloaded caller snapshot (request libc) := by
    unfold SameMatch
    refine forall_congr' fun snapshot => ?_
    rw [chaosInitIoDecide_of_issues issues, preloadMatch_eq,
      Option.some.injEq]
  rw [decides]
  cases asked : request libc with
  | descriptor operation fd measure =>
      exact supervised_eq_preloaded_descriptor_iff caller operation fd
        (inRange_of_issues issues asked)
  | path operation dirfd address =>
      exact supervised_eq_preloaded_path_iff caller operation dirfd address
  | rename olddirfd oldpath newdirfd newpath =>
      exact supervised_eq_preloaded_rename_iff caller olddirfd oldpath newdirfd
        newpath

/-! ## An allocation that only the wrapper measures -/

/-- `/data/f`. -/
def dataFile : DescriptorName where
  text := bytes "/data/f"
  short := by decide
  noNul := by decide
  kind := Or.inl rfl

/-- A process in `/srv` with `/data/f` open on descriptor 5. -/
def writer : Caller where
  cwd :=
    { name := ⟨bytes "/srv", by decide, by decide⟩
      absolute := rfl
      removed := false }
  names := fun fd => if fd = 5 then some dataFile else none
  strings := fun _ => none
  vectors := fun _ _ => none
  cache := Cache.fresh
  mapping := true
  nullString := rfl
  nullVector := fun _ _ => rfl
  cached := cachesNames_fresh

/-- `read(5, buffer, 512)`. -/
def readCall : ChaosInitCall where
  nr := .read
  args := fun index => if index = 0 then 5 else if index = 2 then 512 else 4096

theorem sameMatch_iff_alike_readCall :
    SameMatch writer (.read 5 512) readCall := by
  have issues : Issues (.read 5 512) readCall :=
    ⟨rfl, by decide, rfl⟩
  refine (sameMatch_iff_alike writer issues).mpr ⟨Or.inr ?_, Or.inl trivial⟩
  intro served cached
  have missed : writer.cachedName 5 = none := rfl
  rw [missed] at cached
  cases cached

/-- `fallocate(5, 0, 0, 4096)`. -/
def fallocateCall : ChaosInitCall where
  nr := .fallocate
  args := fun index => if index = 0 then 5 else if index = 3 then 4096 else 0

/-- `/data:allocate:EIO:1.0 @size>0`. -/
def allocateFails : StoredRule where
  pathPrefix := bytes "/data"
  pathLen := 5
  resolvedPrefix := none
  resolvedLen := 0
  operation := .allocate
  effect := .errno
  errnum := 5
  probability := ⟨1, 1⟩
  latencyMs := 0
  policy := { sizeAbove := 0, hasSizeAbove := true }
  callSize := chaosPolicyNoSize
  hit := some 0
  hitGeneration := 1

/-- The snapshot of a file with that one rule. -/
def allocateSnapshot : Snapshot where
  resolved := fun _ => []
  rules := [allocateFails]
  loaded := by
    intro rule member
    rw [List.mem_singleton.mp member]
    exact {
      length := rfl
      noColon := by decide
      link := fun _ linked => nomatch linked
      unmeasured := rfl
      supported := rfl }

/--
Both modes match the rule for the allocation.  The wrapper's 4096 bytes pass
its gate; the supervisor's call has no size, so the rule does not fire.
-/
theorem fallocateCall_measured_by_wrapper_only :
    Issues (.fallocate 5 4096) fallocateCall ∧
      preloadMatch writer allocateSnapshot (.fallocate 5 4096) =
        some ⟨bytes "/data/f", { allocateFails with callSize := 4096 }⟩ ∧
      chaosInitIoDecide writer allocateSnapshot fallocateCall =
        some (some ⟨bytes "/data/f", allocateFails⟩) ∧
      chaosPolicySizeOk allocateFails.policy 4096 = true ∧
      chaosPolicySizeOk allocateFails.policy allocateFails.callSize = false ∧
      ¬ SameMatch writer (.fallocate 5 4096) fallocateCall := by
  have wrapper :
      preloadMatch writer allocateSnapshot (.fallocate 5 4096) =
        some ⟨bytes "/data/f", { allocateFails with callSize := 4096 }⟩ := by
    decide +kernel
  have supervisor :
      chaosInitIoDecide writer allocateSnapshot fallocateCall =
        some (some ⟨bytes "/data/f", allocateFails⟩) := by
    decide +kernel
  refine ⟨⟨rfl, by decide, rfl⟩, wrapper, supervisor, by decide, by decide, ?_⟩
  intro same
  have decided := same allocateSnapshot
  rw [wrapper, supervisor] at decided
  exact absurd decided (by decide)

end ChaosLibs.Io.ModesAgree
