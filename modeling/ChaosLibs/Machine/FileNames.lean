import Mathlib.Logic.Function.Basic

/-!
# Names and files

A file system as far as names and contents go: a name stands for a file or for none,
and several names may stand for one file.  An operation that the system would refuse
has no result.
-/

namespace ChaosLibs.Machine

variable {Name Byte : Type*}

/-- The file of each name, the bytes of each file, and the first unused file. -/
structure FileSystem (Name Byte : Type*) where
  names : Name → Option Nat
  content : Nat → List Byte
  unused : Nat

namespace FileSystem

/-- What is read under a name. -/
def read (files : FileSystem Name Byte) (name : Name) : Option (List Byte) :=
  (files.names name).map files.content

/-- The files that names stand for are not the unused ones. -/
def WellFormed (files : FileSystem Name Byte) : Prop :=
  ∀ name file, files.names name = some file → file < files.unused

/-- A file is emptied. -/
def truncate (files : FileSystem Name Byte) (file : Nat) : FileSystem Name Byte :=
  { files with content := Function.update files.content file [] }

/-- Bytes are written at the end of a file. -/
def append (files : FileSystem Name Byte) (file : Nat) (bytes : List Byte) :
    FileSystem Name Byte :=
  { files with
    content := Function.update files.content file (files.content file ++ bytes) }

variable {files : FileSystem Name Byte} {name other : Name} {file : Nat}

theorem read_eq_some (named : files.names name = some file) :
    files.read name = some (files.content file) := by
  rw [read, named]
  rfl

variable [DecidableEq Name]

/-- `open` with `O_CREAT | O_EXCL`: a new file under a free name. -/
def create (files : FileSystem Name Byte) (name : Name) :
    Option (FileSystem Name Byte) :=
  match files.names name with
  | some _ => none
  | none =>
      some
        { names := Function.update files.names name (some files.unused)
          content := Function.update files.content files.unused []
          unused := files.unused + 1 }

/-- `link`: a second name, which must be free. -/
def link (files : FileSystem Name Byte) (name second : Name) :
    Option (FileSystem Name Byte) :=
  match files.names name, files.names second with
  | some file, none =>
      some { files with names := Function.update files.names second (some file) }
  | _, _ => none

/-- `rename`, which replaces what the second name stood for. -/
def rename (files : FileSystem Name Byte) (name second : Name) :
    Option (FileSystem Name Byte) :=
  match files.names name with
  | none => none
  | some file =>
      -- Two names of one file both stay.
      if files.names second = some file then some files
      else
        some
          { files with
            names := Function.update
              (Function.update files.names second (some file)) name none }

/-- `unlink`. -/
def unlink (files : FileSystem Name Byte) (name : Name) : FileSystem Name Byte :=
  { files with names := Function.update files.names name none }

theorem create_of_free (free : files.names name = none) :
    files.create name = some
      ⟨Function.update files.names name (some files.unused),
        Function.update files.content files.unused [], files.unused + 1⟩ := by
  rw [create, free]

theorem free_of_create {after : FileSystem Name Byte}
    (created : files.create name = some after) : files.names name = none := by
  cases named : files.names name with
  | none => rfl
  | some file =>
      rw [create, named] at created
      cases created

/-! A name that stands for a file goes on doing so, unless it is removed. -/

theorem named_of_create {after : FileSystem Name Byte}
    (created : files.create name = some after) (named : files.names other ≠ none) :
    after.names other ≠ none := by
  have free := free_of_create created
  rw [create_of_free free] at created
  cases created
  have different : other ≠ name := fun same => named (same ▸ free)
  exact (Function.update_of_ne different _ _).trans_ne named

theorem named_of_link {after : FileSystem Name Byte} {second : Name}
    (linked : files.link name second = some after) (named : files.names other ≠ none) :
    after.names other ≠ none := by
  dsimp only [link] at linked
  split at linked
  · rename_i free
    cases linked
    have different : other ≠ second := fun same => named (same ▸ free)
    exact (Function.update_of_ne different _ _).trans_ne named
  · cases linked

/-- A `link` takes a free name. -/
theorem taken_of_link {after : FileSystem Name Byte} {second : Name}
    (linked : files.link name second = some after) :
    files.names second = none ∧ after.names second ≠ none := by
  dsimp only [link] at linked
  split at linked
  · rename_i free
    cases linked
    exact ⟨free, (Function.update_self _ _ _).trans_ne (Option.some_ne_none _)⟩
  · cases linked

theorem named_of_rename {after : FileSystem Name Byte} {second : Name}
    (renamed : files.rename name second = some after) (different : other ≠ name)
    (named : files.names other ≠ none) : after.names other ≠ none := by
  dsimp only [rename] at renamed
  split at renamed
  · cases renamed
  · split at renamed
    · cases renamed
      exact named
    · cases renamed
      refine (Function.update_of_ne different _ _).trans_ne ?_
      by_cases target : other = second
      · rw [target, Function.update_self]
        exact Option.some_ne_none _
      · exact (Function.update_of_ne target _ _).trans_ne named

theorem unlink_names_of_ne (different : other ≠ name) :
    (files.unlink name).names other = files.names other :=
  Function.update_of_ne different _ _

theorem read_unlink_of_ne (different : other ≠ name) :
    (files.unlink name).read other = files.read other := by
  rw [read, unlink_names_of_ne different]
  rfl

end FileSystem

end ChaosLibs.Machine
