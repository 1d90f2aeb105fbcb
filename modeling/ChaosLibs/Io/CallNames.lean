import ChaosLibs.Io.SupervisorMatch

/-!
# The names a call is matched by

A rule is matched only for an absolute path outside the excluded directories.
For a descriptor and for a path this module reduces what the wrappers and what
the supervisor look up to the name of that kind they find, if any.
-/

namespace ChaosLibs.Io.CallNames

open ChaosLibs.Common.CString
open ChaosLibs.Io.Rule
open ChaosLibs.Io.PathText
open ChaosLibs.Io.FdCache
open ChaosLibs.Io.MatchLoaded
open ChaosLibs.Io.LoadedRules
open ChaosLibs.Io.CallingProcess
open ChaosLibs.Io.PreloadMatch
open ChaosLibs.Io.SupervisorMatch

/-! ## Names that can be matched -/

/-- An absolute path that is not excluded. -/
def matchable (path : Bytes) : Bool :=
  decide (IsAbsolute path) && !chaosIoIsExcludedPath path

theorem matchable_iff {path : Bytes} :
    matchable path = true ↔
      IsAbsolute path ∧ chaosIoIsExcludedPath path = false := by
  rw [matchable, Bool.and_eq_true, decide_eq_true_eq, Bool.not_eq_true']

/-- No rule is matched for a name that cannot be. -/
theorem bind_matchedAt_filter
    {snapshot : Snapshot} {operation : ChaosIoOperation}
    {found : Option Bytes}
    (kept : ∀ path, found = some path →
      IsKernelName path ∧ chaosIoIsExcludedPath path = false) :
    found.bind (matchedAt snapshot operation) =
      (found.filter matchable).bind (matchedAt snapshot operation) := by
  cases found with
  | none => rfl
  | some path =>
      rcases kept path rfl with ⟨absolute | pseudo, notExcluded⟩
      · rw [Option.filter_some, if_pos (matchable_iff.mpr ⟨absolute, notExcluded⟩)]
      · have unmatched : matchedAt snapshot operation path = none := by
          rw [matchedAt, matchLoaded_of_isPseudoName pseudo]
          rfl
        have unmatchable : ¬ matchable path = true := by
          intro both
          exact pseudo.not_isAbsolute (matchable_iff.mp both).1
        rw [Option.filter_some, if_neg unmatchable]
        exact unmatched

/-! ## Descriptors -/

/-- The name the library matches a descriptor by. -/
def preloadFd (caller : Caller) (fd : Int) : Option Bytes :=
  if fd ≤ 2 then none else (caller.fdcacheResolve fd).2.filter matchable

/-- The name the supervisor matches it by. -/
def supervisorFd (caller : Caller) (fd : Int) : Option Bytes :=
  if fd ≤ 2 then none else (caller.nameOf fd).filter matchable

theorem chaosIoMatchFdRule_eq (caller : Caller) (snapshot : Snapshot) (fd : Int)
    (operation : ChaosIoOperation) :
    chaosIoMatchFdRule caller snapshot fd operation =
      (preloadFd caller fd).bind (matchedAt snapshot operation) := by
  unfold chaosIoMatchFdRule preloadFd
  split
  · rfl
  · rw [← bind_matchedAt_filter fun path resolved =>
      Caller.isKernelName_of_resolve resolved]
    split
    · rename_i unprepared
      rw [Bool.not_eq_true'] at unprepared
      cases (caller.fdcacheResolve fd).2 with
      | none => rfl
      | some path =>
          rw [Option.bind_some, matchedAt,
            matchLoaded_of_unprepared unprepared]
          rfl
    · rfl

/-- Of a name that is found, only a matchable one is matched. -/
theorem bind_chaosIoConfigMatchPath
    {snapshot : Snapshot} {operation : ChaosIoOperation}
    {found : Option Bytes}
    (named : ∀ path, found = some path → IsKernelName path) :
    found.bind (chaosIoConfigMatchPath snapshot operation) =
      (found.filter matchable).bind (matchedAt snapshot operation) := by
  cases found with
  | none => rfl
  | some path =>
      rw [Option.bind_some]
      unfold chaosIoConfigMatchPath
      split
      · rename_i excluded
        rw [Option.filter_some, if_neg]
        · rfl
        · intro both
          rw [(matchable_iff.mp both).2] at excluded
          cases excluded
      · rename_i kept
        rw [← bind_matchedAt_filter, Option.bind_some]
        · split
          · rename_i unprepared
            rw [Bool.not_eq_true'] at unprepared
            rw [matchedAt, matchLoaded_of_unprepared unprepared]
            rfl
          · rfl
        · rintro other same
          cases same
          exact ⟨named path rfl, Bool.eq_false_iff.mpr kept⟩

theorem matchFdPath_eq (caller : Caller) (snapshot : Snapshot) (fd : UInt64)
    (operation : ChaosIoOperation) :
    (chaosInitIoFdPath caller fd).bind
        (chaosIoConfigMatchPath snapshot operation) =
      (supervisorFd caller (int32 fd)).bind (matchedAt snapshot operation) := by
  unfold chaosInitIoFdPath supervisorFd procLinkFd
  split
  · rfl
  · cases named : caller.nameOf (int32 fd) with
    | none => rfl
    | some name =>
        rw [Option.map_some, (Caller.nameOf_eq_some named).2.1,
          Option.filter_some]
        by_cases absolute : IsAbsolute name
        · rw [if_pos (decide_eq_true absolute)]
          apply bind_chaosIoConfigMatchPath
          rintro path same
          cases same
          exact Or.inl absolute
        · have unmatchable : ¬ matchable name = true := by
            intro both
            exact absolute (matchable_iff.mp both).1
          rw [Option.filter_some, if_neg unmatchable,
            if_neg (by rw [decide_eq_true_eq]; exact absolute)]
          rfl

/-! ## Paths -/

/-- The matchable path that a relative path names below a directory. -/
def joined (base path : Bytes) : Option Bytes :=
  ((chaosIoJoinPaths chaosIoMaxPath base path).map
    chaosIoNormalizePath).filter matchable

/-- The path the library matches a path by. -/
def preloadPath (caller : Caller) (dirfd : Int) (path : Option Bytes) :
    Option Bytes :=
  (chaosIoResolveAtPath caller dirfd path).2.filter matchable

/-- The path the supervisor matches it by. -/
def supervisorPath (caller : Caller) (dirfd : Int) :
    Option Bytes → Option Bytes
  | none => none
  | some path =>
      if IsAbsolute path then
        ((chaosIoCopyPath chaosIoMaxPath path).map
          chaosIoNormalizePath).filter matchable
      else if dirfd = atFdcwd then
        caller.cwd.link.bind fun base => joined base path
      else if dirfd ≤ 2 then
        none
      else
        (caller.nameOf dirfd).bind fun base => joined base path

theorem chaosIoJoinPaths_eq_some
    {size : Nat} {base path text : Bytes}
    (join : chaosIoJoinPaths size base path = some text) :
    base ≠ [] ∧ path.length < size ∧ ∃ rest, text = base ++ rest := by
  unfold chaosIoJoinPaths at join
  split at join
  · cases join
  · split at join
    · cases join
    · rename_i both
      rw [Bool.or_eq_true, not_or, List.isEmpty_iff, List.isEmpty_iff] at both
      simp only at join
      generalize (if base.getLast? = some (byte '/') then [] else [byte '/']) =
        separator at join
      split at join
      · cases join
      · cases join
        exact ⟨both.1, by omega, separator ++ path,
          List.append_assoc base separator path⟩

theorem isAbsolute_append {base rest : Bytes} (nonempty : base ≠ []) :
    IsAbsolute (base ++ rest) ↔ IsAbsolute base := by
  cases base with
  | nil => exact absurd rfl nonempty
  | cons ch base => exact Iff.rfl

theorem chaosIoNormalizePath_of_not_isAbsolute
    {path : Bytes} (relative : ¬ IsAbsolute path) :
    chaosIoNormalizePath path = path := by
  cases path with
  | nil => rfl
  | cons ch rest =>
      have other : (ch == byte '/') = false := by
        rw [beq_eq_false_iff_ne]
        intro slash
        exact relative (isAbsolute_iff.mpr ⟨rest, slash ▸ rfl⟩)
      rw [chaosIoNormalizePath, other]
      rfl

/-- Below a pseudo name there is nothing to match. -/
theorem joined_of_not_isAbsolute
    {base : Bytes} (relative : ¬ IsAbsolute base) (path : Bytes) :
    joined base path = none := by
  unfold joined
  cases join : chaosIoJoinPaths chaosIoMaxPath base path with
  | none => rfl
  | some text =>
      rcases chaosIoJoinPaths_eq_some join with ⟨nonempty, -, rest, rfl⟩
      have relative' : ¬ IsAbsolute (base ++ rest) := by
        rwa [isAbsolute_append nonempty]
      rw [Option.map_some, chaosIoNormalizePath_of_not_isAbsolute relative',
        Option.filter_some, if_neg]
      intro both
      exact relative' (matchable_iff.mp both).1

/-- A path too long for the supervisor's buffer does not fit the joined one either. -/
theorem joined_of_long
    {path : Bytes} (long : ¬ path.length < chaosIoMaxPath) (base : Bytes) :
    joined base path = none := by
  unfold joined
  cases join : chaosIoJoinPaths chaosIoMaxPath base path with
  | none => rfl
  | some text => exact absurd (chaosIoJoinPaths_eq_some join).2.1 long

theorem WorkingDirectory.link_eq_some
    {cwd : WorkingDirectory} {text : Bytes} (linked : cwd.link = some text) :
    IsAbsolute text ∧ text.length < chaosIoMaxPath := by
  unfold WorkingDirectory.link at linked
  split at linked
  · simp only at linked
    split at linked
    · rename_i short
      cases linked
      refine ⟨?_, short⟩
      have nonempty : cwd.name.text ≠ [] := by
        intro empty
        have absolute := cwd.absolute
        rw [empty] at absolute
        cases absolute
      exact (isAbsolute_append nonempty).mpr cwd.absolute
    · cases linked
  · cases linked
    exact ⟨cwd.absolute, cwd.name.short⟩

/-- Where the supervisor's base is `found`, its path is that joined to it. -/
theorem filter_bind_join (found : Option Bytes) (path : Bytes) :
    ((found.bind fun base =>
        chaosIoJoinPaths chaosIoMaxPath base path).map
      chaosIoNormalizePath).filter matchable =
      found.bind fun base => joined base path := by
  cases found with
  | none => rfl
  | some base => rfl

theorem bind_joined_filter (found : Option Bytes) (path : Bytes) :
    ((found.filter fun base => decide (IsAbsolute base)).bind fun base =>
        joined base path) =
      found.bind fun base => joined base path := by
  cases found with
  | none => rfl
  | some base =>
      rw [Option.filter_some]
      split
      · rfl
      · rename_i relative
        rw [decide_eq_true_eq] at relative
        exact (joined_of_not_isAbsolute relative path).symm

/-! ### The paths that are built are kernel names -/

theorem isAbsolute_dropComponent
    {written : Bytes} (absolute : IsAbsolute written) :
    IsAbsolute (dropComponent written) := by
  unfold dropComponent
  simp only
  split
  · rfl
  · rename_i long
    have suffix :
        List.dropWhile (fun ch => ch != byte '/') written.reverse <:+
          written.reverse :=
      List.dropWhile_suffix _
    rcases suffix with ⟨before, split⟩
    generalize List.dropWhile (fun ch => ch != byte '/') written.reverse = kept
      at long split
    cases kept with
    | nil => simp at long
    | cons last kept =>
        have whole : written = kept.reverse ++ (last :: before.reverse) := by
          rw [← List.reverse_reverse written, ← split]
          simp
        have nonempty : kept.reverse ≠ [] := by
          intro empty
          rw [List.reverse_eq_nil_iff] at empty
          rw [empty] at long
          exact long (Nat.le_refl 1)
        rw [whole, isAbsolute_append nonempty] at absolute
        exact absolute

theorem isAbsolute_writeComponent
    {written : Bytes} (absolute : IsAbsolute written) (component : Bytes) :
    IsAbsolute (writeComponent written component) := by
  have nonempty : written ≠ [] := by
    rintro rfl
    cases absolute
  unfold writeComponent
  split
  · exact absolute
  · split
    · exact isAbsolute_dropComponent absolute
    · split
      · exact (isAbsolute_append nonempty).mpr absolute
      · exact (isAbsolute_append nonempty).mpr absolute

theorem isAbsolute_writeComponents
    {written : Bytes} (absolute : IsAbsolute written) (list : List Bytes) :
    IsAbsolute (list.foldl writeComponent written) := by
  induction list generalizing written with
  | nil => exact absolute
  | cons component rest induction =>
      exact induction (isAbsolute_writeComponent absolute component)

theorem isKernelName_normalize {path : Bytes} (named : IsKernelName path) :
    IsKernelName (chaosIoNormalizePath path) := by
  rcases named with absolute | pseudo
  · rcases isAbsolute_iff.mp absolute with ⟨rest, rfl⟩
    have root : IsAbsolute [byte '/'] := rfl
    exact Or.inl (isAbsolute_writeComponents root (components rest))
  · rw [chaosIoNormalizePath_of_not_isAbsolute pseudo.not_isAbsolute]
    exact Or.inr pseudo

theorem isKernelName_join
    {base path text : Bytes} (named : IsKernelName base)
    (join : chaosIoJoinPaths chaosIoMaxPath base path = some text) :
    IsKernelName text := by
  rcases chaosIoJoinPaths_eq_some join with ⟨nonempty, -, rest, rfl⟩
  rcases named with absolute | ⟨kind, tail, rfl, noSlash, noNul⟩
  · exact Or.inl ((isAbsolute_append nonempty).mpr absolute)
  · refine Or.inr ⟨kind, tail ++ rest, ?_, noSlash, noNul⟩
    rw [List.append_assoc, List.cons_append]

/-- A path built below a directory whose name is a kernel name is one. -/
theorem isKernelName_of_built
    {found : Option Bytes} {path text : Bytes}
    (named : ∀ base, found = some base → IsKernelName base)
    (built : (found.bind fun base =>
        chaosIoJoinPaths chaosIoMaxPath base path).map chaosIoNormalizePath =
      some text) : IsKernelName text := by
  rcases Option.map_eq_some_iff.mp built with ⟨whole, joins, rfl⟩
  rcases Option.bind_eq_some_iff.mp joins with ⟨base, there, join⟩
  exact isKernelName_normalize (isKernelName_join (named base there) join)

theorem isKernelName_of_copied
    {path text : Bytes} (absolute : IsAbsolute path)
    (copied : (chaosIoCopyPath chaosIoMaxPath path).map chaosIoNormalizePath =
      some text) : IsKernelName text := by
  rcases Option.map_eq_some_iff.mp copied with ⟨copy, copies, rfl⟩
  have same : path = copy := by
    unfold chaosIoCopyPath at copies
    split at copies
    · cases copies
    · split at copies
      · cases copies
      · exact Option.some.inj copies
  exact isKernelName_normalize (Or.inl (same ▸ absolute))

theorem isKernelName_of_resolveAtPath
    {caller : Caller} {dirfd : Int} {path : Option Bytes} {text : Bytes}
    (resolved : (chaosIoResolveAtPath caller dirfd path).2 = some text) :
    IsKernelName text := by
  unfold chaosIoResolveAtPath at resolved
  split at resolved
  · cases resolved
  · rename_i path
    split at resolved
    · rename_i absolute
      exact isKernelName_of_copied absolute resolved
    · split at resolved
      · refine isKernelName_of_built ?_ resolved
        intro base named
        unfold WorkingDirectory.getcwd at named
        split at named
        · cases named
        · cases named
          exact Or.inl caller.cwd.absolute
      · refine isKernelName_of_built ?_ resolved
        intro base named
        exact (Caller.isKernelName_of_resolve named).1

/-! ### The two paths -/

theorem procLinkCwd_eq (caller : Caller) :
    ((procLinkCwd caller).filter fun out => !out.isEmpty) = caller.cwd.link := by
  unfold procLinkCwd
  cases linked : caller.cwd.link with
  | none => rfl
  | some text =>
      rcases WorkingDirectory.link_eq_some linked with ⟨absolute, short⟩
      rcases isAbsolute_iff.mp absolute with ⟨rest, rfl⟩
      rw [Option.map_some, List.take_of_length_le (Nat.le_sub_one_of_lt short)]
      rfl

theorem procLinkFd_eq (caller : Caller) (fd : Int) :
    procLinkFd caller fd = caller.nameOf fd := by
  unfold procLinkFd
  cases named : caller.nameOf fd with
  | none => rfl
  | some text => rw [Option.map_some, (Caller.nameOf_eq_some named).2.1]

theorem isAbsolute_of_fdPath
    {caller : Caller} {fd : UInt64} {base : Bytes}
    (found : chaosInitIoFdPath caller fd = some base) : IsAbsolute base := by
  unfold chaosInitIoFdPath at found
  split at found
  · cases found
  · rcases Option.filter_eq_some_iff.mp found with ⟨-, absolute⟩
    exact of_decide_eq_true absolute

/-- What `chaos_init_io_at_path` joins a relative path to. -/
def supervisorBase (caller : Caller) (hasDirfd : Bool) (dirfd : UInt64) :
    Option Bytes :=
  if !hasDirfd || int32 dirfd == atFdcwd then
    (procLinkCwd caller).filter fun out => !out.isEmpty
  else
    chaosInitIoFdPath caller dirfd

theorem isAbsolute_of_supervisorBase
    {caller : Caller} {hasDirfd : Bool} {dirfd : UInt64} {base : Bytes}
    (found : supervisorBase caller hasDirfd dirfd = some base) :
    IsAbsolute base := by
  unfold supervisorBase at found
  split at found
  · rw [procLinkCwd_eq] at found
    exact (WorkingDirectory.link_eq_some found).1
  · exact isAbsolute_of_fdPath found

theorem isKernelName_of_atPath
    {caller : Caller} {hasDirfd : Bool} {dirfd address : UInt64} {text : Bytes}
    (built : chaosInitIoAtPath caller hasDirfd dirfd address = some text) :
    IsKernelName text := by
  unfold chaosInitIoAtPath at built
  split at built
  · cases built
  · rename_i path
    simp only at built
    split at built
    · rename_i absolute
      exact isKernelName_of_copied absolute built
    · have bases : ∀ base, supervisorBase caller hasDirfd dirfd = some base →
          IsKernelName base := by
        intro base found
        exact Or.inl (isAbsolute_of_supervisorBase found)
      exact isKernelName_of_built bases built

/-- The directory descriptor a path of the supervisor is relative to. -/
def dirfdOf (hasDirfd : Bool) (dirfd : UInt64) : Int :=
  if hasDirfd then int32 dirfd else atFdcwd

theorem supervisorBase_bind_joined (caller : Caller) (hasDirfd : Bool)
    (dirfd : UInt64) (path : Bytes) :
    ((supervisorBase caller hasDirfd dirfd).bind fun base => joined base path) =
      if dirfdOf hasDirfd dirfd = atFdcwd then
        caller.cwd.link.bind fun base => joined base path
      else if dirfdOf hasDirfd dirfd ≤ 2 then
        none
      else
        (caller.nameOf (dirfdOf hasDirfd dirfd)).bind fun base =>
          joined base path := by
  unfold supervisorBase dirfdOf
  rw [procLinkCwd_eq]
  cases hasDirfd with
  | false => rfl
  | true =>
      simp only [Bool.not_true, Bool.false_or, beq_iff_eq, if_true]
      split
      · rfl
      · unfold chaosInitIoFdPath
        split
        · rfl
        · rw [procLinkFd_eq]
          exact bind_joined_filter _ _

theorem filter_chaosInitIoAtPath (caller : Caller) (hasDirfd : Bool)
    (dirfd address : UInt64) :
    (chaosInitIoAtPath caller hasDirfd dirfd address).filter matchable =
      supervisorPath caller (dirfdOf hasDirfd dirfd)
        (caller.strings address) := by
  unfold chaosInitIoAtPath chaosInitReadString
  cases caller.strings address with
  | none => rfl
  | some path =>
      rw [Option.filter_some]
      by_cases short : path.length < chaosIoMaxPath
      · rw [if_pos (decide_eq_true short)]
        unfold supervisorPath
        simp only
        split
        · rfl
        · rw [← supervisorBase_bind_joined]
          exact filter_bind_join (supervisorBase caller hasDirfd dirfd) path
      · rw [if_neg (by rw [decide_eq_true_eq]; exact short)]
        unfold supervisorPath
        simp only
        split
        · have full : chaosIoCopyPath chaosIoMaxPath path = none := by
            unfold chaosIoCopyPath
            rw [if_neg (by decide), if_pos (by omega)]
          rw [full]
          rfl
        · rw [← supervisorBase_bind_joined]
          cases supervisorBase caller hasDirfd dirfd with
          | none => rfl
          | some base => exact (joined_of_long short base).symm

/-! ## When both modes find the same name -/

/-- A cached name is matched as the descriptor's current name is. -/
def DescriptorAlike (caller : Caller) (fd : Int) : Prop :=
  ∀ served, caller.cachedName fd = some served →
    (some served).filter matchable = (caller.nameOf fd).filter matchable

/--
A relative path is looked up below a working directory that has not been
removed, or below a directory that is not excluded and whose cached name is
current; or it names nothing matchable below the directory's other name.
-/
def PathAlike (caller : Caller) (dirfd : Int) : Option Bytes → Prop
  | none => True
  | some path =>
      if IsAbsolute path then
        True
      else if dirfd = atFdcwd then
        caller.cwd.removed = true →
          ∀ base, caller.cwd.link = some base → joined base path = none
      else if dirfd ≤ 2 then
        True
      else
        match caller.cachedName dirfd with
        | none => ∀ base, caller.nameOf dirfd = some base →
            chaosIoIsExcludedPath base = true → joined base path = none
        | some served =>
            joined served path =
              (caller.nameOf dirfd).bind fun base => joined base path

theorem filter_unexcluded (found : Option Bytes) :
    (found.filter fun text => !chaosIoIsExcludedPath text).filter matchable =
      found.filter matchable := by
  cases found with
  | none => rfl
  | some text =>
      rw [Option.filter_some, Option.filter_some]
      by_cases both : matchable text = true
      · have kept := (matchable_iff.mp both).2
        rw [if_pos (by rw [kept]; rfl), if_pos both, Option.filter_some,
          if_pos both]
      · rw [if_neg both]
        split
        · rw [Option.filter_some, if_neg both]
        · rfl

theorem preloadFd_eq_iff (caller : Caller) (fd : Int) :
    preloadFd caller fd = supervisorFd caller fd ↔
      fd ≤ 2 ∨ DescriptorAlike caller fd := by
  unfold preloadFd supervisorFd
  by_cases standard : fd ≤ 2
  · rw [if_pos standard, if_pos standard]
    exact iff_of_true rfl (Or.inl standard)
  · rw [if_neg standard, if_neg standard, or_iff_right standard,
      caller.fdcacheResolve_snd (not_le.mp standard)]
    unfold DescriptorAlike
    cases caller.cachedName fd with
    | none =>
        rw [filter_unexcluded]
        exact iff_of_true rfl (fun _ cached => nomatch cached)
    | some served =>
        constructor
        · rintro same other cached
          cases cached
          exact same
        · intro alike
          exact alike served rfl

/-- Below a directory that the library has not cached. -/
theorem bind_joined_unexcluded_eq_iff (found : Option Bytes) (path : Bytes) :
    (((found.filter fun text => !chaosIoIsExcludedPath text).bind fun base =>
        joined base path) = found.bind fun base => joined base path) ↔
      ∀ base, found = some base → chaosIoIsExcludedPath base = true →
        joined base path = none := by
  cases found with
  | none => exact iff_of_true rfl (fun _ there => nomatch there)
  | some text =>
      rw [Option.filter_some, Option.bind_some]
      by_cases excluded : chaosIoIsExcludedPath text = true
      · rw [if_neg (by rw [excluded]; decide), Option.bind_none]
        constructor
        · rintro same base there -
          cases there
          exact same.symm
        · intro nothing
          exact (nothing text rfl excluded).symm
      · have kept := Bool.eq_false_iff.mpr excluded
        rw [if_pos (by rw [kept]; rfl), Option.bind_some]
        refine iff_of_true rfl ?_
        rintro base there excluded'
        cases there
        exact absurd excluded' excluded

theorem preloadPath_eq_iff (caller : Caller) (dirfd : Int)
    (path : Option Bytes) :
    preloadPath caller dirfd path = supervisorPath caller dirfd path ↔
      PathAlike caller dirfd path := by
  cases path with
  | none => exact iff_of_true rfl trivial
  | some path =>
      unfold preloadPath chaosIoResolveAtPath supervisorPath PathAlike
      simp only
      by_cases absolute : IsAbsolute path
      · rw [if_pos absolute, if_pos absolute, if_pos absolute]
        exact iff_of_true rfl trivial
      · rw [if_neg absolute, if_neg absolute, if_neg absolute]
        by_cases cwd : dirfd = atFdcwd
        · rw [if_pos cwd, if_pos cwd, if_pos cwd, filter_bind_join]
          unfold WorkingDirectory.getcwd
          by_cases removed : caller.cwd.removed = true
          · rw [if_pos removed, Option.bind_none]
            constructor
            · intro same _ base linked
              rw [linked] at same
              exact same.symm
            · intro nothing
              cases linked : caller.cwd.link with
              | none => rfl
              | some base => exact (nothing removed base linked).symm
          · rw [if_neg removed]
            have linked : caller.cwd.link = some caller.cwd.name.text := by
              rw [WorkingDirectory.link, if_neg removed]
            rw [linked]
            exact iff_of_true rfl (fun gone => absurd gone removed)
        · rw [if_neg cwd, if_neg cwd, if_neg cwd, filter_bind_join]
          by_cases standard : dirfd ≤ 2
          · rw [if_pos standard, if_pos standard,
              caller.fdcacheResolve_of_standard standard]
            exact iff_of_true rfl trivial
          · rw [if_neg standard, if_neg standard,
              caller.fdcacheResolve_snd (not_le.mp standard)]
            cases caller.cachedName dirfd with
            | none => exact bind_joined_unexcluded_eq_iff _ path
            | some served => exact Iff.rfl

/-! ### Names that are found can be matched -/

theorem isAbsolute_of_preloadFd
    {caller : Caller} {fd : Int} {path : Bytes}
    (found : preloadFd caller fd = some path) : IsAbsolute path := by
  unfold preloadFd at found
  split at found
  · cases found
  · exact (matchable_iff.mp (Option.filter_eq_some_iff.mp found).2).1

theorem isAbsolute_of_supervisorFd
    {caller : Caller} {fd : Int} {path : Bytes}
    (found : supervisorFd caller fd = some path) : IsAbsolute path := by
  unfold supervisorFd at found
  split at found
  · cases found
  · exact (matchable_iff.mp (Option.filter_eq_some_iff.mp found).2).1

theorem isAbsolute_of_preloadPath
    {caller : Caller} {dirfd : Int} {path : Option Bytes} {text : Bytes}
    (found : preloadPath caller dirfd path = some text) : IsAbsolute text :=
  (matchable_iff.mp (Option.filter_eq_some_iff.mp found).2).1

theorem isAbsolute_of_joined
    {found : Option Bytes} {path text : Bytes}
    (joins : (found.bind fun base => joined base path) = some text) :
    IsAbsolute text := by
  rcases Option.bind_eq_some_iff.mp joins with ⟨base, -, join⟩
  exact (matchable_iff.mp (Option.filter_eq_some_iff.mp join).2).1

theorem isAbsolute_of_supervisorPath
    {caller : Caller} {dirfd : Int} {path : Option Bytes} {text : Bytes}
    (found : supervisorPath caller dirfd path = some text) :
    IsAbsolute text := by
  cases path with
  | none => cases found
  | some path =>
      simp only [supervisorPath] at found
      split at found
      · exact (matchable_iff.mp (Option.filter_eq_some_iff.mp found).2).1
      · split at found
        · exact isAbsolute_of_joined found
        · split at found
          · cases found
          · exact isAbsolute_of_joined found

end ChaosLibs.Io.CallNames
