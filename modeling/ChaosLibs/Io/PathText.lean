import ChaosLibs.Common.CString

/-!
# Path strings of libchaos-io

The exclusion test and the path builders of `chaos_io_internal.h`, which the
preload wrappers and the supervisor share.  A path is the list of its bytes
before the NUL; a destination buffer is its capacity, and a builder that does
not fit returns `none`.

`chaos_io_normalize_path` works in place: its write index never passes its
read index, so what it has written and what it has still to read are two lists
here.
-/

namespace ChaosLibs.Io.PathText

open ChaosLibs.Common.CString

/-- `CHAOS_IO_MAX_PATH`. -/
def chaosIoMaxPath : Nat := 4096

/-- `CHAOS_IO_CONFIG_PATH`. -/
def chaosIoConfigPath : Bytes := bytes "/tmp/.chaos-io.conf"

/-- `CHAOS_IO_CONTROL_PREFIX`. -/
def chaosIoControlPrefix : Bytes := bytes "/tmp/.chaos-"

/-- A text that begins with `/`. -/
def IsAbsolute (text : Bytes) : Prop :=
  text.head? = some (byte '/')

instance (text : Bytes) : Decidable (IsAbsolute text) :=
  inferInstanceAs (Decidable (text.head? = some (byte '/')))

/-! ## Exclusion -/

/-- `chaos_io_is_control_path`. -/
def chaosIoIsControlPath (path : Bytes) : Bool :=
  path == chaosIoConfigPath || startsWith chaosIoControlPrefix path

/-- `chaos_io_has_reserved_prefix`. -/
def chaosIoHasReservedPrefix (path reserved : Bytes) : Bool :=
  startsWith reserved path &&
    match path.drop reserved.length with
    | [] => true
    | next :: _ => next == byte '/'

/-- `chaos_io_is_excluded_path` of a path that is not `NULL`. -/
def chaosIoIsExcludedPath (path : Bytes) : Bool :=
  path.isEmpty || chaosIoIsControlPath path ||
    chaosIoHasReservedPrefix path (bytes "/proc") ||
    chaosIoHasReservedPrefix path (bytes "/sys") ||
    chaosIoHasReservedPrefix path (bytes "/dev")

/-! ## Builders -/

/-- `chaos_io_copy_path` into a buffer of `size` bytes. -/
def chaosIoCopyPath (size : Nat) (path : Bytes) : Option Bytes :=
  if size = 0 then none
  else if size < path.length + 1 then none
  else some path

/-- `chaos_io_join_paths` into a buffer of `size` bytes. -/
def chaosIoJoinPaths (size : Nat) (base path : Bytes) : Option Bytes :=
  if size = 0 then none
  else if base.isEmpty || path.isEmpty then none
  else
    let separator := if base.getLast? = some (byte '/') then [] else [byte '/']
    if size < base.length + separator.length + path.length + 1 then none
    else some (base ++ separator ++ path)

/-- What `chaos_io_normalize_path` has written, without its last component. -/
def dropComponent (written : Bytes) : Bytes :=
  let kept := written.reverse.dropWhile fun ch => ch != byte '/'
  if kept.length ≤ 1 then [byte '/'] else kept.tail.reverse

/-- One component read by `chaos_io_normalize_path`. -/
def writeComponent (written component : Bytes) : Bytes :=
  if component = [] || component = [byte '.'] then
    written
  else if component = [byte '.', byte '.'] then
    dropComponent written
  else if 1 < written.length then
    written ++ byte '/' :: component
  else
    written ++ component

/-- The components of a path: the runs between its slashes, empty ones included. -/
def components : Bytes → List Bytes
  | [] => [[]]
  | ch :: rest =>
      if ch == byte '/' then
        [] :: components rest
      else
        match components rest with
        | [] => [[ch]]
        | first :: others => (ch :: first) :: others

/-- `chaos_io_normalize_path`. -/
def chaosIoNormalizePath (path : Bytes) : Bytes :=
  match path with
  | [] => []
  | ch :: rest =>
      if ch == byte '/' then
        (components rest).foldl writeComponent [byte '/']
      else
        path

example :
    chaosIoNormalizePath (bytes "/tmp/pd/x/../data/./f//") =
      bytes "/tmp/pd/data/f" := by
  decide

end ChaosLibs.Io.PathText
