import ChaosLibs.Io.PreloadMatch
import ChaosLibs.Machine.Indices

/-!
# What the supervisor matches for the io rules

`chaos_init_io.c` up to the point where the matched rule is decided: the table
of system calls, the path a call names, and the byte count for `@size`.
Arguments are the 64-bit registers of the call.
-/

namespace ChaosLibs.Io.SupervisorMatch

open ChaosLibs.Common.CString
open ChaosLibs.Io.Rule
open ChaosLibs.Io.PathText
open ChaosLibs.Io.MatchLoaded
open ChaosLibs.Io.LoadedRules
open ChaosLibs.Io.CallingProcess
open ChaosLibs.Io.PreloadMatch

/-! ## Calls -/

/-- The system calls of the table. -/
inductive SystemCall where
  | openat
  | read
  | readv
  | write
  | writev
  | pread64
  | preadv
  | preadv2
  | pwrite64
  | pwritev
  | pwritev2
  | sendfile
  | copyFileRange
  | close
  | fsync
  | fdatasync
  | ftruncate
  | truncate
  | fallocate
  | unlinkat
  | renameat2
  | openat2
  | openFile
  | creat
  | unlink
  | rmdir
  | rename
  | renameat
  /-- Any call that is not in the table. -/
  | other
deriving DecidableEq, Repr

/-- `chaos_init_call_t`, the thread left out. -/
structure ChaosInitCall where
  nr : SystemCall
  args : Fin 6 → UInt64

/-- `chaos_init_io_kind_t`. -/
inductive ChaosInitIoKind where
  | fd
  | path
  | pathAt
  | rename
  | renameAt
deriving DecidableEq, Repr

/-- The size column: an argument, none (-1) or an array of `struct iovec` (-2). -/
inductive SizeColumn where
  | argument (index : Fin 6)
  | none
  | iovec
deriving DecidableEq, Repr

/-- `chaos_init_io_call_t`. -/
structure ChaosInitIoCall where
  nr : SystemCall
  operation : ChaosIoOperation
  kind : ChaosInitIoKind
  target : Fin 6
  size : SizeColumn
deriving DecidableEq, Repr

/-- `g_chaos_init_io_calls`. -/
def chaosInitIoCalls : List ChaosInitIoCall :=
  [⟨.openat, .open, .pathAt, 1, .none⟩,
    ⟨.read, .read, .fd, 0, .argument 2⟩,
    ⟨.readv, .read, .fd, 0, .iovec⟩,
    ⟨.write, .write, .fd, 0, .argument 2⟩,
    ⟨.writev, .write, .fd, 0, .iovec⟩,
    ⟨.pread64, .pread, .fd, 0, .argument 2⟩,
    ⟨.preadv, .pread, .fd, 0, .iovec⟩,
    ⟨.preadv2, .pread, .fd, 0, .iovec⟩,
    ⟨.pwrite64, .pwrite, .fd, 0, .argument 2⟩,
    ⟨.pwritev, .pwrite, .fd, 0, .iovec⟩,
    ⟨.pwritev2, .pwrite, .fd, 0, .iovec⟩,
    ⟨.sendfile, .write, .fd, 0, .argument 3⟩,
    ⟨.copyFileRange, .write, .fd, 2, .argument 4⟩,
    ⟨.close, .close, .fd, 0, .none⟩,
    ⟨.fsync, .fsync, .fd, 0, .none⟩,
    ⟨.fdatasync, .fdatasync, .fd, 0, .none⟩,
    ⟨.ftruncate, .truncate, .fd, 0, .none⟩,
    ⟨.truncate, .truncate, .path, 0, .none⟩,
    ⟨.fallocate, .allocate, .fd, 0, .none⟩,
    ⟨.unlinkat, .unlink, .pathAt, 1, .none⟩,
    ⟨.renameat2, .renameFrom, .renameAt, 0, .none⟩,
    ⟨.openat2, .open, .pathAt, 1, .none⟩,
    ⟨.openFile, .open, .path, 0, .none⟩,
    ⟨.creat, .open, .path, 0, .none⟩,
    ⟨.unlink, .unlink, .path, 0, .none⟩,
    ⟨.rmdir, .unlink, .path, 0, .none⟩,
    ⟨.rename, .renameFrom, .rename, 0, .none⟩,
    ⟨.renameat, .renameFrom, .renameAt, 0, .none⟩]

/-! ## Paths -/

/-- `(int32_t)` of an argument. -/
def int32 (argument : UInt64) : Int :=
  argument.toUInt32.toBitVec.toInt

/-- `chaos_init_read_string` into a buffer of `CHAOS_IO_MAX_PATH` bytes. -/
def chaosInitReadString (caller : Caller) (address : UInt64) : Option Bytes :=
  (caller.strings address).filter fun text => decide (text.length < chaosIoMaxPath)

/-- `chaos_init_proc_link` of a descriptor into a buffer of that size. -/
def procLinkFd (caller : Caller) (fd : Int) : Option Bytes :=
  (caller.nameOf fd).map (List.take (chaosIoMaxPath - 1))

/-- `chaos_init_proc_link` of the working directory. -/
def procLinkCwd (caller : Caller) : Option Bytes :=
  caller.cwd.link.map (List.take (chaosIoMaxPath - 1))

/-- `chaos_init_io_fd_path`. -/
def chaosInitIoFdPath (caller : Caller) (fd : UInt64) : Option Bytes :=
  if int32 fd ≤ 2 then none
  else (procLinkFd caller (int32 fd)).filter fun out => decide (IsAbsolute out)

/-- `chaos_init_io_at_path`. -/
def chaosInitIoAtPath (caller : Caller) (hasDirfd : Bool) (dirfd : UInt64)
    (address : UInt64) : Option Bytes :=
  match chaosInitReadString caller address with
  | none => none
  | some path =>
      let atCwd := !hasDirfd || int32 dirfd == atFdcwd
      let out :=
        if IsAbsolute path then
          chaosIoCopyPath chaosIoMaxPath path
        else
          let base :=
            if atCwd then (procLinkCwd caller).filter fun out => !out.isEmpty
            else chaosInitIoFdPath caller dirfd
          base.bind fun base => chaosIoJoinPaths chaosIoMaxPath base path
      out.map chaosIoNormalizePath

/-! ## Vectors -/

/-- A round of `chaos_init_io_iov_size`; `total` is a 64-bit word. -/
def iovSizeRound (caller : Caller) (address : UInt64) (total : UInt64)
    (round : Nat × Nat) : Option UInt64 :=
  (caller.vectors (entryAddress address round.1) round.2).map fun vector =>
    vector.foldl (fun total length => total + length) total

/-- `chaos_init_io_iov_size`. -/
def chaosInitIoIovSize (caller : Caller) (address count : UInt64) : Nat :=
  if 1024 < count.toNat then
    chaosPolicyNoSize
  else
    (((rounds count.toNat).foldlM (iovSizeRound caller address) 0).map
      UInt64.toNat).getD chaosPolicyNoSize

/-! ## Matching -/

/-- `chaos_init_io_match`. -/
def chaosInitIoMatch (snapshot : Snapshot) (operation : ChaosIoOperation)
    (path : Bytes) : Option Matched :=
  if chaosIoIsExcludedPath path then none
  else matchedAt snapshot operation path

/-- `chaos_init_io_rename`. -/
def chaosInitIoRename (caller : Caller) (snapshot : Snapshot)
    (call : ChaosInitCall) (atDirfd : Bool) : Option Matched :=
  let source :=
    chaosInitIoAtPath caller atDirfd (call.args 0)
      (call.args (if atDirfd then 1 else 0))
  let target :=
    chaosInitIoAtPath caller atDirfd (call.args 2)
      (call.args (if atDirfd then 3 else 1))
  if source.isNone && target.isNone || !chaosIoConfigPrepare snapshot then
    none
  else
    let haveFrom := source.bind (chaosInitIoMatch snapshot .renameFrom)
    let haveTo := target.bind (chaosInitIoMatch snapshot .renameTo)
    match haveTo with
    | some toRule =>
        match haveFrom with
        | none => some toRule
        | some fromRule =>
            if fromRule.rule.pathLen ≤ toRule.rule.pathLen then some toRule
            else some fromRule
    | none => haveFrom

/-- The switch of `chaos_init_io_decide`. -/
def matchEntry (caller : Caller) (snapshot : Snapshot) (entry : ChaosInitIoCall)
    (call : ChaosInitCall) : Option Matched :=
  match entry.kind with
  | .fd =>
      (chaosInitIoFdPath caller (call.args entry.target)).bind
        (chaosIoConfigMatchPath snapshot entry.operation)
  | .path =>
      (chaosInitIoAtPath caller false 0 (call.args entry.target)).bind
        (chaosIoConfigMatchPath snapshot entry.operation)
  | .pathAt =>
      (chaosInitIoAtPath caller true (call.args (entry.target - 1))
        (call.args entry.target)).bind
        (chaosIoConfigMatchPath snapshot entry.operation)
  | .rename => chaosInitIoRename caller snapshot call false
  | .renameAt => chaosInitIoRename caller snapshot call true

/-- The `@size` input of a matched rule. -/
def measureEntry (caller : Caller) (entry : ChaosInitIoCall)
    (call : ChaosInitCall) (found : Matched) : Matched :=
  match entry.size with
  | .argument index => found.measured (call.args index).toNat
  | .iovec =>
      found.measured (chaosInitIoIovSize caller (call.args 1) (call.args 2))
  | .none => found

/--
`chaos_init_io_decide` up to the decision on the matched rule: `none` for a
call that is not in the table, else the rule, if any.
-/
def chaosInitIoDecide (caller : Caller) (snapshot : Snapshot)
    (call : ChaosInitCall) : Option (Option Matched) :=
  (chaosInitIoCalls.find? fun entry => entry.nr == call.nr).map fun entry =>
    (matchEntry caller snapshot entry call).map (measureEntry caller entry call)

end ChaosLibs.Io.SupervisorMatch
