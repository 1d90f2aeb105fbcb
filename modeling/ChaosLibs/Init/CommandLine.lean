import ChaosLibs.Common.StatusReport
import ChaosLibs.Init.SeccompFilter
import ChaosLibs.Machine.SeparatedFields

/-!
# The command line and the status file of `chaos-init`

`chaos_init_parse_args`, `chaos_init_unsupported_reason` and `chaos_init_format_status` of
`chaos_init_core.c`.  The status file is one line for each key, and its list of libraries
is a list that the command line accepts, for the same libraries.
-/

namespace ChaosLibs.Init.CommandLine

open ChaosLibs.Common.CString
open ChaosLibs.Common.PrintedNumbers
open ChaosLibs.Common.StatusReport
open ChaosLibs.Init.SeccompFilter
open ChaosLibs.Machine

/-! ## `chaos_init_parse_args` -/

/-- `CHAOS_INIT_LIB_DNS`. -/
def chaosInitLibDns : UInt32 := 0x04

/-- `CHAOS_INIT_LIB_TIME`. -/
def chaosInitLibTime : UInt32 := 0x08

/-- `g_chaos_init_libs`. -/
def gChaosInitLibs : List (Bytes × UInt32) :=
  [(bytes "io", chaosInitLibIo), (bytes "net", chaosInitLibNet),
    (bytes "dns", chaosInitLibDns), (bytes "time", chaosInitLibTime),
    (bytes "memory", chaosInitLibMemory), (bytes "process", chaosInitLibProcess)]

/-- `chaos_init_lib_bit`. -/
def chaosInitLibBit (name : Bytes) : UInt32 :=
  match gChaosInitLibs.find? fun lib => lib.1 = name with
  | some lib => lib.2
  | none => 0

/-- `chaos_init_options_t`. -/
structure ChaosInitOptions where
  libs : UInt32
  command : Nat
deriving DecidableEq

/-- The loop of `chaos_init_parse_args` over the names between the commas. -/
def addLibs (libs : UInt32) : List Bytes → Option UInt32
  | [] => some libs
  | name :: rest =>
      if chaosInitLibBit name = 0 then none
      else addLibs (libs ||| chaosInitLibBit name) rest

/-- `chaos_init_parse_args`. -/
def chaosInitParseArgs : List Bytes → Option ChaosInitOptions
  | _ :: option :: list :: dashes :: _ :: _ =>
      if option ≠ bytes "--libs" ∨ dashes ≠ bytes "--" then none
      else (addLibs 0 (list.splitOn (byte ','))).map fun libs => ⟨libs, 4⟩
  | _ => none

/-! ## `chaos_init_format_status` -/

/-- The errno values that `chaos_init_unsupported_reason` tells apart. -/
def ePerm : Nat := 1
def eAcces : Nat := 13
def eInval : Nat := 22
def eNosys : Nat := 38
def eNotsup : Nat := 95

/-- `chaos_init_unsupported_reason`. -/
def chaosInitUnsupportedReason (error : Nat) : Bytes :=
  if error = eInval then
    bytes "seccomp user notification not available (emulated architecture?)"
  else if error = eNosys then bytes "seccomp not available in this kernel"
  else if error = eAcces ∨ error = ePerm then
    bytes "seccomp refused by the container's security settings"
  else if error = eNotsup then bytes "kernel older than 5.5"
  else bytes "seccomp could not be installed"

/-- One library of the list in the status file. -/
def appendName (libs : UInt32) (names : Bytes) (lib : Bytes × UInt32) : Bytes :=
  if libs &&& lib.2 = 0 then names
  else if names = [] then lib.1
  else names ++ byte ',' :: lib.1

/-- The `names` of `chaos_init_format_status`. -/
def statusNames (libs : UInt32) : Bytes :=
  gChaosInitLibs.foldl (appendName libs) []

/-- The text of `chaos_init_format_status`, before the size is checked. -/
def statusLayout (libs : UInt32) (reason : Option Bytes) (pid : Int) (mptcpOff : Bool) :
    Bytes :=
  match reason with
  | none =>
      bytes "state=active\nlibs=" ++ statusNames libs ++ bytes "\npid=" ++ intText pid ++
        bytes "\n" ++ (if mptcpOff then bytes "mptcp=off\n" else [])
  | some reason =>
      bytes "state=unsupported\nreason=" ++ reason ++ bytes "\nlibs=" ++
        statusNames libs ++ bytes "\npid=" ++ intText pid ++ bytes "\n"

/-- `chaos_init_format_status`; nothing when the text does not fit. -/
def chaosInitFormatStatus (size : Nat) (libs : UInt32) (reason : Option Bytes) (pid : Int)
    (mptcpOff : Bool) : Bytes :=
  if (statusLayout libs reason pid mptcpOff).length < size then
    statusLayout libs reason pid mptcpOff
  else []

/-! ## The names of the libraries -/

/-- The names that a mask selects, in bit order. -/
def selectedNames (libs : UInt32) : List Bytes :=
  (gChaosInitLibs.filter fun lib => libs &&& lib.2 ≠ 0).map Prod.fst

/-- A mask of the command line: known bits, at least one. -/
structure Selection (libs : UInt32) : Prop where
  known : libs.toNat < 2 ^ 6
  some : libs ≠ 0

theorem chaosInitLibBit_lt (name : Bytes) : (chaosInitLibBit name).toNat < 2 ^ 6 := by
  rw [chaosInitLibBit]
  split
  · rename_i lib found
    have each : ∀ lib ∈ gChaosInitLibs, lib.2.toNat < 2 ^ 6 := by decide
    exact each lib (List.mem_of_find?_eq_some found)
  · decide

theorem addLibs_lt {names : List Bytes} {libs selected : UInt32}
    (known : libs.toNat < 2 ^ 6) (added : addLibs libs names = some selected) :
    selected.toNat < 2 ^ 6 := by
  induction names generalizing libs with
  | nil => exact Option.some.inj added ▸ known
  | cons name rest induction =>
      rw [addLibs] at added
      split at added
      · cases added
      · refine induction ?_ added
        rw [UInt32.toNat_or]
        exact Nat.or_lt_two_pow known (chaosInitLibBit_lt name)

theorem addLibs_ne_zero {names : List Bytes} {libs selected : UInt32}
    (some : libs ≠ 0) (added : addLibs libs names = .some selected) : selected ≠ 0 := by
  induction names generalizing libs with
  | nil => exact Option.some.inj added ▸ some
  | cons name rest induction =>
      rw [addLibs] at added
      split at added
      · cases added
      · exact induction (fun zero => some (UInt32.or_eq_zero_iff.mp zero).1) added

/-- What the command line selects. -/
theorem selection_of_parseArgs {argv : List Bytes} {options : ChaosInitOptions}
    (parsed : chaosInitParseArgs argv = some options) : Selection options.libs := by
  unfold chaosInitParseArgs at parsed
  split at parsed
  · rename_i list _ _ _
    split at parsed
    · cases parsed
    · rcases Option.map_eq_some_iff.mp parsed with ⟨libs, added, rfl⟩
      refine ⟨addLibs_lt (by decide) added, ?_⟩
      cases names : list.splitOn (byte ',') with
      | nil => exact absurd names (List.splitOn_ne_nil _ _)
      | cons name rest =>
          rw [names, addLibs] at added
          split at added
          · cases added
          · rename_i known
            refine addLibs_ne_zero (fun zero => known ?_) added
            exact (UInt32.or_eq_zero_iff.mp zero).2
  · cases parsed

theorem foldl_appendName (libs : UInt32) (table : List (Bytes × UInt32)) {names : Bytes}
    (started : names ≠ []) :
    table.foldl (appendName libs) names =
      names ++ SeparatedFields.joined (byte ',')
        ((table.filter fun lib => libs &&& lib.2 ≠ 0).map Prod.fst) := by
  induction table generalizing names with
  | nil => simp
  | cons lib rest induction =>
      rw [List.foldl_cons, appendName]
      by_cases skipped : libs &&& lib.2 = 0
      · rw [if_pos skipped, induction started, List.filter_cons_of_neg (by simp [skipped])]
      · rw [if_neg skipped, if_neg started, induction (by simp),
          List.filter_cons_of_pos (by simp [skipped])]
        simp

/-- The names stand between commas. -/
theorem foldl_appendName_nil (libs : UInt32) {table : List (Bytes × UInt32)}
    (named : ∀ lib ∈ table, lib.1 ≠ []) :
    table.foldl (appendName libs) [] =
      [byte ','].intercalate
        ((table.filter fun lib => libs &&& lib.2 ≠ 0).map Prod.fst) := by
  induction table with
  | nil => rfl
  | cons lib rest induction =>
      rcases List.forall_mem_cons.mp named with ⟨first, later⟩
      rw [List.foldl_cons, appendName]
      by_cases skipped : libs &&& lib.2 = 0
      · rw [if_pos skipped, induction later, List.filter_cons_of_neg (by simp [skipped])]
      · rw [if_neg skipped, if_pos rfl, foldl_appendName libs rest first,
          List.filter_cons_of_pos (by simp [skipped]), List.map_cons,
          SeparatedFields.intercalate_cons]

theorem statusNames_eq (libs : UInt32) :
    statusNames libs = [byte ','].intercalate (selectedNames libs) :=
  foldl_appendName_nil libs (by decide)

/-- The names of a mask add up to the mask. -/
theorem addLibs_selectedNames {libs : UInt32} (known : libs.toNat < 2 ^ 6) :
    addLibs 0 (selectedNames libs) = some libs := by
  have each : ∀ mask < 2 ^ 6,
      addLibs 0 (selectedNames (UInt32.ofNat mask)) = some (UInt32.ofNat mask) := by
    decide
  have mask := each libs.toNat known
  rwa [UInt32.ofNat_toNat] at mask

/-- The list of a status file, given to the command line. -/
theorem addLibs_statusNames {libs : UInt32} (selection : Selection libs) :
    addLibs 0 ((statusNames libs).splitOn (byte ',')) = some libs := by
  have clean : ∀ name ∈ selectedNames libs, byte ',' ∉ name := by
    intro name member
    rcases List.mem_map.mp member with ⟨lib, inside, rfl⟩
    have each : ∀ lib ∈ gChaosInitLibs, byte ',' ∉ lib.1 := by decide
    exact each lib (List.mem_filter.mp inside).1
  have some : selectedNames libs ≠ [] := by
    intro none
    have sum := addLibs_selectedNames selection.known
    rw [none, addLibs] at sum
    exact selection.some (Option.some.inj sum).symm
  rw [statusNames_eq, List.splitOn_intercalate _ clean some,
    addLibs_selectedNames selection.known]

/-! ## Reading the status file -/

/-- The entries of the status file. -/
def statusEntries (libs : UInt32) (reason : Option Bytes) (pid : Int) (mptcpOff : Bool) :
    List (Bytes × Bytes) :=
  match reason with
  | none =>
      [(bytes "state", bytes "active"), (bytes "libs", statusNames libs),
        (bytes "pid", intText pid)] ++
        if mptcpOff then [(bytes "mptcp", bytes "off")] else []
  | some reason =>
      [(bytes "state", bytes "unsupported"), (bytes "reason", reason),
        (bytes "libs", statusNames libs), (bytes "pid", intText pid)]

theorem statusLayout_eq (libs : UInt32) (reason : Option Bytes) (pid : Int)
    (mptcpOff : Bool) :
    statusLayout libs reason pid mptcpOff =
      KeyedLines.report (byte '=') (byte '\n')
        (statusEntries libs reason pid mptcpOff) := by
  cases reason <;> cases mptcpOff <;>
    simp [statusLayout, statusEntries, KeyedLines.line, bytes, byte]

theorem statusNames_shape {libs : UInt32} (selection : Selection libs) :
    (statusNames libs).length ≤ 30 ∧ byte '\n' ∉ statusNames libs := by
  have each : ∀ mask < 2 ^ 6, (statusNames (UInt32.ofNat mask)).length ≤ 30 ∧
      byte '\n' ∉ statusNames (UInt32.ofNat mask) := by
    decide
  have mask := each libs.toNat selection.known
  rwa [UInt32.ofNat_toNat] at mask

theorem chaosInitUnsupportedReason_shape (error : Nat) :
    (chaosInitUnsupportedReason error).length ≤ 64 ∧
      byte '\n' ∉ chaosInitUnsupportedReason error := by
  unfold chaosInitUnsupportedReason
  split
  · decide
  · split
    · decide
    · split
      · decide
      · split <;> decide

variable {libs : UInt32} {pid : Int}

theorem length_statusLayout_lt (selection : Selection libs) (error : Option Nat)
    (low : -2 ^ 63 ≤ pid) (high : pid < 2 ^ 63) (mptcpOff : Bool) :
    (statusLayout libs (error.map chaosInitUnsupportedReason) pid mptcpOff).length <
      chaosStatusBufferSize := by
  have names := (statusNames_shape selection).1
  have number := length_intText_le low high
  have keys : (bytes "state=active\nlibs=").length = 18 ∧
      (bytes "state=unsupported\nreason=").length = 25 ∧
      (bytes "\nlibs=").length = 6 ∧ (bytes "\npid=").length = 5 ∧
      (bytes "\n").length = 1 ∧ (bytes "mptcp=off\n").length = 10 := by decide
  cases error with
  | none =>
      have flag : (if mptcpOff then bytes "mptcp=off\n" else []).length ≤ 10 := by
        cases mptcpOff <;> decide
      simp only [Option.map_none, statusLayout, List.length_append, chaosStatusBufferSize]
      omega
  | some error =>
      have why := (chaosInitUnsupportedReason_shape error).1
      simp only [Option.map_some, statusLayout, List.length_append, chaosStatusBufferSize]
      omega

theorem clean_statusEntries (selection : Selection libs) (error : Option Nat) (pid : Int)
    (mptcpOff : Bool) :
    ∀ entry ∈ statusEntries libs (error.map chaosInitUnsupportedReason) pid mptcpOff,
      KeyedLines.Clean (byte '=') (byte '\n') entry := by
  have names := (statusNames_shape selection).2
  have number := newline_not_mem_intText pid
  cases error with
  | none =>
      intro entry member
      rcases List.mem_append.mp member with fixed | flag
      · simp only [List.mem_cons, List.not_mem_nil, or_false] at fixed
        rcases fixed with rfl | rfl | rfl
        · exact clean_entry (by decide) (by decide)
        · exact clean_entry (by decide) names
        · exact clean_entry (by decide) number
      · cases mptcpOff with
        | false => cases flag
        | true =>
            rw [List.mem_singleton.mp flag]
            exact clean_entry (by decide) (by decide)
  | some error =>
      have why := (chaosInitUnsupportedReason_shape error).2
      intro entry member
      simp only [Option.map_some, statusEntries, List.mem_cons, List.not_mem_nil,
        or_false] at member
      rcases member with rfl | rfl | rfl | rfl
      · exact clean_entry (by decide) (by decide)
      · exact clean_entry (by decide) why
      · exact clean_entry (by decide) names
      · exact clean_entry (by decide) number

/--
For every command line that `chaos-init` accepts, whether the filter was installed or
refused with some errno: the status file is complete, a reader gets exactly its keys and
values, and its list of libraries, given as `--libs`, selects the same libraries.
-/
theorem status_file_reads_back {argv : List Bytes} {options : ChaosInitOptions}
    (parsed : chaosInitParseArgs argv = some options) (error : Option Nat)
    (low : -2 ^ 63 ≤ pid) (high : pid < 2 ^ 63) (mptcpOff : Bool)
    (program command : Bytes) :
    readReport (chaosInitFormatStatus chaosStatusBufferSize options.libs
        (error.map chaosInitUnsupportedReason) pid mptcpOff) =
      statusEntries options.libs (error.map chaosInitUnsupportedReason) pid mptcpOff ∧
    ∃ names, (bytes "libs", names) ∈
        statusEntries options.libs (error.map chaosInitUnsupportedReason) pid mptcpOff ∧
      chaosInitParseArgs [program, bytes "--libs", names, bytes "--", command] =
        some options := by
  have selection := selection_of_parseArgs parsed
  constructor
  · rw [chaosInitFormatStatus,
      if_pos (length_statusLayout_lt selection error low high mptcpOff), readReport,
      statusLayout_eq, KeyedLines.entries_report (clean_statusEntries selection error pid _)]
  · refine ⟨statusNames options.libs, ?_, ?_⟩
    · cases error <;> simp [statusEntries]
    · have command : options.command = 4 := by
        unfold chaosInitParseArgs at parsed
        split at parsed
        · split at parsed
          · cases parsed
          · rcases Option.map_eq_some_iff.mp parsed with ⟨_, -, rfl⟩
            rfl
        · cases parsed
      rw [chaosInitParseArgs, if_neg (by simp), addLibs_statusNames selection,
        Option.map_some, ← command]

/-- `chaos-init --libs net,io,net -- sh` on an old kernel. -/
theorem status_file_reads_back_old_kernel :
    readReport (chaosInitFormatStatus chaosStatusBufferSize 3
        (some (bytes "kernel older than 5.5")) 1 false) =
      [(bytes "state", bytes "unsupported"), (bytes "reason", bytes "kernel older than 5.5"),
        (bytes "libs", bytes "io,net"), (bytes "pid", bytes "1")] ∧
    ∃ names, (bytes "libs", names) ∈
        statusEntries 3 (some (bytes "kernel older than 5.5")) 1 false ∧
      chaosInitParseArgs [bytes "chaos-init", bytes "--libs", names, bytes "--", bytes "sh"] =
        some ⟨3, 4⟩ :=
  @status_file_reads_back 1
    [bytes "chaos-init", bytes "--libs", bytes "net,io,net", bytes "--", bytes "sh"] ⟨3, 4⟩
    (by decide) (some eNotsup) (by decide) (by decide) false (bytes "chaos-init") (bytes "sh")

end ChaosLibs.Init.CommandLine
