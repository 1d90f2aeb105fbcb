import ChaosLibs.Io.CallingProcess

/-!
# What the wrappers of libchaos-io match

Each wrapper up to the rule it applies: the path it builds or resolves, the
rule it selects for it, and the byte count it records for `@size`.  The
wrappers are those of one system call each; the buffered stdio functions other
than `fopen` and `freopen` make no call of their own.

A wrapper's path argument is an address.  The wrapper reads the string itself,
so `none` stands for `NULL`.
-/

namespace ChaosLibs.Io.PreloadMatch

open ChaosLibs.Common.CString
open ChaosLibs.Io.Rule
open ChaosLibs.Io.PathText
open ChaosLibs.Io.MatchLoaded
open ChaosLibs.Io.LoadedRules
open ChaosLibs.Io.CallingProcess

/-- `AT_FDCWD`. -/
def atFdcwd : Int := -100

/-- A match: the path and the rule copied out for it. -/
structure Matched where
  path : Bytes
  rule : StoredRule
deriving DecidableEq

/-- `rule->call_size = size`. -/
def Matched.measured (size : Nat) (found : Matched) : Matched :=
  { found with rule := { found.rule with callSize := size } }

/-- `chaos_io_config_match_loaded`, its path kept beside the rule. -/
def matchedAt (snapshot : Snapshot) (operation : ChaosIoOperation)
    (path : Bytes) : Option Matched :=
  (matchLoaded snapshot operation path).map fun rule => ⟨path, rule⟩

/-- `chaos_io_config_match_path`. -/
def chaosIoConfigMatchPath (snapshot : Snapshot) (operation : ChaosIoOperation)
    (path : Bytes) : Option Matched :=
  if chaosIoIsExcludedPath path then none
  else if !chaosIoConfigPrepare snapshot then none
  else matchedAt snapshot operation path

/-! ## Descriptors -/

/-- `chaos_io_match_fd_rule`. -/
def chaosIoMatchFdRule (caller : Caller) (snapshot : Snapshot) (fd : Int)
    (operation : ChaosIoOperation) : Option Matched :=
  if fd ≤ 2 then none
  else if !chaosIoConfigPrepare snapshot then none
  else (caller.fdcacheResolve fd).2.bind (matchedAt snapshot operation)

/-- `chaos_io_match_fd_rule_sized`. -/
def chaosIoMatchFdRuleSized (caller : Caller) (snapshot : Snapshot) (fd : Int)
    (operation : ChaosIoOperation) (size : Nat) : Option Matched :=
  (chaosIoMatchFdRule caller snapshot fd operation).map (Matched.measured size)

/-! ## Vectors -/

/-- `SSIZE_MAX`. -/
def ssizeMax : Nat := 2 ^ 63 - 1

/-- `IOV_MAX`, and the kernel's `UIO_MAXIOV`. -/
def iovMax : Nat := 1024

/-- The rounds of a loop over `count` entries, at most 64 a round: the first entry and how many. -/
def rounds (count : Nat) : List (Nat × Nat) :=
  (List.range ((count + 63) / 64)).map fun round =>
    (64 * round, min 64 (count - 64 * round))

/-- The address of an entry of an array of `struct iovec`. -/
def entryAddress (iov : UInt64) (index : Nat) : UInt64 :=
  iov + 16 * UInt64.ofNat index

/-- `chaos_io_iovec_total_bytes` of an array with entries. -/
def chaosIoIovecTotalBytes (lengths : List UInt64) : Option Nat :=
  lengths.foldlM
    (fun bytes length =>
      if ssizeMax - bytes < length.toNat then none
      else some (bytes + length.toNat)) 0

/-- A round of `chaos_io_iovec_size`. -/
def iovecSizeRound (caller : Caller) (iov : UInt64) (total : Nat)
    (round : Nat × Nat) : Option Nat :=
  (caller.vectors (entryAddress iov round.1) round.2).bind fun chunk =>
    (chaosIoIovecTotalBytes chunk).bind fun part =>
      if ssizeMax - total < part then none else some (total + part)

/-- `chaos_io_iovec_size`. -/
def chaosIoIovecSize (caller : Caller) (iov : UInt64) (iovcnt : Int) : Nat :=
  if iov = 0 ∨ iovcnt < 0 ∨ iovMax < iovcnt then
    chaosPolicyNoSize
  else
    ((rounds iovcnt.toNat).foldlM (iovecSizeRound caller iov) 0).getD
      chaosPolicyNoSize

/-- The start of `readv`, `writev`, `preadv` and `pwritev`. -/
def matchVector (caller : Caller) (snapshot : Snapshot) (fd : Int)
    (operation : ChaosIoOperation) (iov : UInt64) (iovcnt : Int) :
    Option Matched :=
  (chaosIoMatchFdRule caller snapshot fd operation).map
    (Matched.measured (chaosIoIovecSize caller iov iovcnt))

/-! ## Paths -/

/-- `chaos_io_resolve_at_path`, and the process as it leaves it. -/
def chaosIoResolveAtPath (caller : Caller) (dirfd : Int) (path : Option Bytes) :
    Caller × Option Bytes :=
  match path with
  | none => (caller, none)
  | some path =>
      if IsAbsolute path then
        (caller, (chaosIoCopyPath chaosIoMaxPath path).map chaosIoNormalizePath)
      else if dirfd = atFdcwd then
        (caller,
          (caller.cwd.getcwd.bind fun base =>
            chaosIoJoinPaths chaosIoMaxPath base path).map chaosIoNormalizePath)
      else
        (caller.afterResolve dirfd,
          ((caller.fdcacheResolve dirfd).2.bind fun base =>
            chaosIoJoinPaths chaosIoMaxPath base path).map chaosIoNormalizePath)

/-- `chaos_io_match_loaded_path_rule`. -/
def chaosIoMatchLoadedPathRule (snapshot : Snapshot)
    (operation : ChaosIoOperation) (path : Bytes) : Option Matched :=
  if chaosIoIsExcludedPath path then none
  else matchedAt snapshot operation path

/-- The start of `open`, `openat` and `truncate`. -/
def matchAtPath (caller : Caller) (snapshot : Snapshot) (dirfd : Int)
    (operation : ChaosIoOperation) (path : Option Bytes) : Option Matched :=
  (chaosIoResolveAtPath caller dirfd path).2.bind fun resolved =>
    if chaosIoIsExcludedPath resolved then none
    else chaosIoConfigMatchPath snapshot operation resolved

/-- `chaos_io_match_rename_rule`. -/
def chaosIoMatchRenameRule (caller : Caller) (snapshot : Snapshot)
    (olddirfd : Int) (oldpath : Option Bytes) (newdirfd : Int)
    (newpath : Option Bytes) : Option Matched :=
  let old := chaosIoResolveAtPath caller olddirfd oldpath
  let new := chaosIoResolveAtPath old.1 newdirfd newpath
  if old.2.isNone && new.2.isNone then none
  else if !chaosIoConfigPrepare snapshot then none
  else
    let haveFrom := old.2.bind (chaosIoMatchLoadedPathRule snapshot .renameFrom)
    let haveTo := new.2.bind (chaosIoMatchLoadedPathRule snapshot .renameTo)
    match haveFrom, haveTo with
    | none, none => none
    | none, some toRule => some toRule
    | some fromRule, none => some fromRule
    | some fromRule, some toRule =>
        if fromRule.rule.pathLen ≤ toRule.rule.pathLen then some toRule
        else some fromRule

/-! ## Wrappers -/

section

variable (caller : Caller) (snapshot : Snapshot)

def read (fd : Int) (count : UInt64) : Option Matched :=
  chaosIoMatchFdRuleSized caller snapshot fd .read count.toNat

def readv (fd : Int) (iov : UInt64) (iovcnt : Int) : Option Matched :=
  matchVector caller snapshot fd .read iov iovcnt

def write (fd : Int) (count : UInt64) : Option Matched :=
  chaosIoMatchFdRuleSized caller snapshot fd .write count.toNat

def writev (fd : Int) (iov : UInt64) (iovcnt : Int) : Option Matched :=
  matchVector caller snapshot fd .write iov iovcnt

def sendfile (outFd : Int) (count : UInt64) : Option Matched :=
  chaosIoMatchFdRuleSized caller snapshot outFd .write count.toNat

def copyFileRange (outFd : Int) (count : UInt64) : Option Matched :=
  chaosIoMatchFdRuleSized caller snapshot outFd .write count.toNat

def pread (fd : Int) (count : UInt64) : Option Matched :=
  chaosIoMatchFdRuleSized caller snapshot fd .pread count.toNat

def preadv (fd : Int) (iov : UInt64) (iovcnt : Int) : Option Matched :=
  matchVector caller snapshot fd .pread iov iovcnt

def pwrite (fd : Int) (count : UInt64) : Option Matched :=
  chaosIoMatchFdRuleSized caller snapshot fd .pwrite count.toNat

def pwritev (fd : Int) (iov : UInt64) (iovcnt : Int) : Option Matched :=
  matchVector caller snapshot fd .pwrite iov iovcnt

def close (fd : Int) : Option Matched :=
  chaosIoMatchFdRule caller snapshot fd .close

def fsync (fd : Int) : Option Matched :=
  chaosIoMatchFdRule caller snapshot fd .fsync

def fdatasync (fd : Int) : Option Matched :=
  chaosIoMatchFdRule caller snapshot fd .fdatasync

def ftruncate (fd : Int) : Option Matched :=
  chaosIoMatchFdRule caller snapshot fd .truncate

/-- `length` as the `uint64_t` it is cast to. -/
def fallocate (fd : Int) (length : UInt64) : Option Matched :=
  chaosIoMatchFdRuleSized caller snapshot fd .allocate length.toNat

def posixFallocate (fd : Int) (length : UInt64) : Option Matched :=
  chaosIoMatchFdRuleSized caller snapshot fd .allocate length.toNat

def openFile (path : UInt64) : Option Matched :=
  matchAtPath caller snapshot atFdcwd .open (caller.strings path)

def openat (dirfd : Int) (path : UInt64) : Option Matched :=
  matchAtPath caller snapshot dirfd .open (caller.strings path)

def creat (path : UInt64) : Option Matched :=
  openFile caller snapshot path

/-- `chaos_io_stdio_open_fault`, of `fopen` and of a `freopen` with a path. -/
def fopen (path : UInt64) : Option Matched :=
  (chaosIoResolveAtPath caller atFdcwd (caller.strings path)).2.bind
    fun resolved =>
      if chaosIoIsExcludedPath resolved then none
      else chaosIoConfigMatchPath snapshot .open resolved

def truncate (path : UInt64) : Option Matched :=
  matchAtPath caller snapshot atFdcwd .truncate (caller.strings path)

def unlinkat (dirfd : Int) (path : UInt64) : Option Matched :=
  (chaosIoResolveAtPath caller dirfd (caller.strings path)).2.bind
    fun resolved =>
      if chaosIoIsExcludedPath resolved then none
      else if !chaosIoConfigPrepare snapshot then none
      else chaosIoMatchLoadedPathRule snapshot .unlink resolved

def unlink (path : UInt64) : Option Matched :=
  unlinkat caller snapshot atFdcwd path

def rmdir (path : UInt64) : Option Matched :=
  unlinkat caller snapshot atFdcwd path

def renameat (olddirfd : Int) (oldpath : UInt64) (newdirfd : Int)
    (newpath : UInt64) : Option Matched :=
  chaosIoMatchRenameRule caller snapshot olddirfd (caller.strings oldpath)
    newdirfd (caller.strings newpath)

def renameat2 (olddirfd : Int) (oldpath : UInt64) (newdirfd : Int)
    (newpath : UInt64) : Option Matched :=
  chaosIoMatchRenameRule caller snapshot olddirfd (caller.strings oldpath)
    newdirfd (caller.strings newpath)

def rename (oldpath newpath : UInt64) : Option Matched :=
  renameat caller snapshot atFdcwd oldpath atFdcwd newpath

end

/-- A call of a wrapper, the arguments it passes on unread left out. -/
inductive LibcCall where
  | read (fd : Int) (count : UInt64)
  | readv (fd : Int) (iov : UInt64) (iovcnt : Int)
  | write (fd : Int) (count : UInt64)
  | writev (fd : Int) (iov : UInt64) (iovcnt : Int)
  | sendfile (outFd : Int) (count : UInt64)
  | copyFileRange (outFd : Int) (count : UInt64)
  | pread (fd : Int) (count : UInt64)
  | preadv (fd : Int) (iov : UInt64) (iovcnt : Int)
  | pwrite (fd : Int) (count : UInt64)
  | pwritev (fd : Int) (iov : UInt64) (iovcnt : Int)
  | close (fd : Int)
  | fsync (fd : Int)
  | fdatasync (fd : Int)
  | ftruncate (fd : Int)
  | fallocate (fd : Int) (length : UInt64)
  | posixFallocate (fd : Int) (length : UInt64)
  | openFile (path : UInt64)
  | openat (dirfd : Int) (path : UInt64)
  | creat (path : UInt64)
  | fopen (path : UInt64)
  | truncate (path : UInt64)
  | unlinkat (dirfd : Int) (path : UInt64)
  | unlink (path : UInt64)
  | rmdir (path : UInt64)
  | renameat (olddirfd : Int) (oldpath : UInt64) (newdirfd : Int)
      (newpath : UInt64)
  | renameat2 (olddirfd : Int) (oldpath : UInt64) (newdirfd : Int)
      (newpath : UInt64)
  | rename (oldpath newpath : UInt64)

/-- The rule a wrapper applies to its call. -/
def preloadMatch (caller : Caller) (snapshot : Snapshot) :
    LibcCall → Option Matched
  | .read fd count => read caller snapshot fd count
  | .readv fd iov iovcnt => readv caller snapshot fd iov iovcnt
  | .write fd count => write caller snapshot fd count
  | .writev fd iov iovcnt => writev caller snapshot fd iov iovcnt
  | .sendfile outFd count => sendfile caller snapshot outFd count
  | .copyFileRange outFd count => copyFileRange caller snapshot outFd count
  | .pread fd count => pread caller snapshot fd count
  | .preadv fd iov iovcnt => preadv caller snapshot fd iov iovcnt
  | .pwrite fd count => pwrite caller snapshot fd count
  | .pwritev fd iov iovcnt => pwritev caller snapshot fd iov iovcnt
  | .close fd => close caller snapshot fd
  | .fsync fd => fsync caller snapshot fd
  | .fdatasync fd => fdatasync caller snapshot fd
  | .ftruncate fd => ftruncate caller snapshot fd
  | .fallocate fd length => fallocate caller snapshot fd length
  | .posixFallocate fd length => posixFallocate caller snapshot fd length
  | .openFile path => openFile caller snapshot path
  | .openat dirfd path => openat caller snapshot dirfd path
  | .creat path => creat caller snapshot path
  | .fopen path => fopen caller snapshot path
  | .truncate path => truncate caller snapshot path
  | .unlinkat dirfd path => unlinkat caller snapshot dirfd path
  | .unlink path => unlink caller snapshot path
  | .rmdir path => rmdir caller snapshot path
  | .renameat olddirfd oldpath newdirfd newpath =>
      renameat caller snapshot olddirfd oldpath newdirfd newpath
  | .renameat2 olddirfd oldpath newdirfd newpath =>
      renameat2 caller snapshot olddirfd oldpath newdirfd newpath
  | .rename oldpath newpath => rename caller snapshot oldpath newpath

end ChaosLibs.Io.PreloadMatch
