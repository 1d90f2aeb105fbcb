import ChaosLibs.Common.StatusPublish

/-!
# All or nothing

What a publication leaves behind, for every outcome of its system calls: no staging
file, and the old content or the new one.  The exception is a target that is rewritten
in place by a write that fails.
-/

namespace ChaosLibs.Common.PublishAtomic

open ChaosLibs.Common.CString
open ChaosLibs.Common.StatusPublish
open ChaosLibs.Machine

/-! ## What the steps do to the files -/

/-- The target holds what it held, or the data, and no other name has changed. -/
def AllOrNothing (publication : Publication) (before after : Files) : Prop :=
  (∀ name, name ≠ publication.path → after.names name = before.names name) ∧
    (after.read publication.path = before.read publication.path ∨
      after.read publication.path = some publication.data)

/-- The staging file with `written` bytes, beside what was there before. -/
structure Staged (publication : Publication) (before files : Files) (staging : Bytes)
    (file written : Nat) : Prop where
  free : before.names staging = none
  other : staging ≠ publication.path
  names : files.names = Function.update before.names staging (some file)
  new : file = before.unused
  kept : ∀ old, old ≠ file → files.content old = before.content old
  content : files.content file = publication.data.take written
  within : written ≤ publication.data.length

/-- The staging name is the only one besides the target that may have changed. -/
structure Leaving (publication : Publication) (before files : Files) (staging : Bytes) :
    Prop where
  free : before.names staging = none
  other : staging ≠ publication.path
  names : ∀ name, name ≠ publication.path → name ≠ staging →
    files.names name = before.names name

/-- What is true before each system call, as long as the target is not rewritten. -/
inductive Stage (publication : Publication) (before : Files) : Pc × Files → Prop where
  | openStaging (attempt : Nat) :
      Stage publication before (.openStaging attempt, before)
  | write {files : Files} {staging : Bytes} {file written : Nat}
      (staged : Staged publication before files staging file written) :
      Stage publication before (.write staging file written, files)
  | link {files : Files} {staging : Bytes} {file : Nat}
      (staged : Staged publication before files staging file publication.data.length) :
      Stage publication before (.link staging, files)
  | rename {files : Files} {staging : Bytes} {file : Nat}
      (staged : Staged publication before files staging file publication.data.length) :
      Stage publication before (.rename staging, files)
  | openExisting {files : Files} {staging : Bytes} {file : Nat}
      (staged : Staged publication before files staging file publication.data.length) :
      Stage publication before (.openExisting staging, files)
  | unlink {files : Files} {staging : Bytes} (result : Int)
      (leaving : Leaving publication before files staging)
      (target : files.read publication.path = before.read publication.path ∨
        files.read publication.path = some publication.data) :
      Stage publication before (.unlink staging result, files)
  | done {files : Files} (result : Int)
      (finished : AllOrNothing publication before files) :
      Stage publication before (.done result, files)

variable {publication : Publication} {before files after : Files}
  {staging : Bytes} {file written : Nat} {answers : List Answer} {result : Int}

/-! ## The staging name -/

/-- A staging name is longer than its path. -/
theorem staging_ne_path (attempt : Nat) :
    publication.staging attempt ≠ publication.path := by
  intro same
  have lengths := congrArg List.length same
  have parts := length_splitDirectory publication.path
  have marker : (bytes ".chaos-staging-").length = 15 := by decide
  have dotless : (splitDirectory publication.path).2.length ≤
      (withoutDot (splitDirectory publication.path).2).length + 1 := by
    dsimp only [withoutDot]
    split
    · rw [List.length_drop]
      omega
    · omega
  dsimp only [Publication.staging] at lengths
  simp only [List.length_append, marker] at lengths
  omega

theorem allOrNothing_refl : AllOrNothing publication files files :=
  ⟨fun _ _ => rfl, Or.inl rfl⟩

theorem stage_attempt (attempt : Nat) :
    Stage publication before (publication.attempt attempt, before) := by
  dsimp only [Publication.attempt]
  split
  · exact .done 0 allOrNothing_refl
  · exact .openStaging attempt

theorem stage_wrote (staged : Staged publication before files staging file written) :
    Stage publication before (publication.wrote staging file written, files) := by
  dsimp only [Publication.wrote]
  split
  · exact .write staged
  · rename_i complete
    have whole : written = publication.data.length :=
      Nat.le_antisymm staged.within (Nat.le_of_not_lt complete)
    rw [whole] at staged
    split
    · exact .link staged
    · exact .rename staged

/-- Beside the staging file, the target is what it was. -/
theorem Staged.read_target
    (staged : Staged publication before files staging file written)
    (sound : before.WellFormed) :
    files.read publication.path = before.read publication.path := by
  dsimp only [FileSystem.read]
  rw [staged.names, Function.update_of_ne staged.other.symm]
  cases named : before.names publication.path with
  | none => rfl
  | some old =>
      have older := sound _ old named
      exact congrArg some (staged.kept old (by rw [staged.new]; exact Nat.ne_of_lt older))

theorem Staged.leaving
    (staged : Staged publication before files staging file written) :
    Leaving publication before files staging :=
  ⟨staged.free, staged.other, fun name _ different => by
    rw [staged.names, Function.update_of_ne different]⟩

/-- The staging file is given up. -/
theorem Staged.stage_unlink
    (staged : Staged publication before files staging file written)
    (sound : before.WellFormed) (result : Int) :
    Stage publication before (.unlink staging result, files) :=
  .unlink result staged.leaving (Or.inl (staged.read_target sound))

/-- A write takes the next bytes of the data. -/
theorem take_append_chunk (written count : Nat) :
    publication.data.take written ++ publication.chunk written count =
      publication.data.take (written + count) :=
  List.take_add.symm

theorem Staged.append {count : Nat}
    (staged : Staged publication before files staging file written)
    (room : ¬ publication.data.length - written < count) :
    Staged publication before
      (files.append file (publication.chunk written count)) staging file
      (written + count) where
  free := staged.free
  other := staged.other
  names := staged.names
  new := staged.new
  kept old different :=
    (Function.update_of_ne different _ _).trans (staged.kept old different)
  content := by
    refine (Function.update_self _ _ _).trans ?_
    rw [staged.content, take_append_chunk]
  within := by
    have within := staged.within
    omega

/-- Removing the staging name leaves the other names. -/
theorem Leaving.allOrNothing_unlink
    (leaving : Leaving publication before files staging)
    (target : files.read publication.path = before.read publication.path ∨
      files.read publication.path = some publication.data) :
    AllOrNothing publication before (files.unlink staging) := by
  constructor
  · intro name different
    by_cases same : name = staging
    · rw [same, leaving.free]
      exact Function.update_self _ _ _
    · rw [FileSystem.unlink_names_of_ne same]
      exact leaving.names name different same
  · rw [FileSystem.read_unlink_of_ne leaving.other.symm]
    exact target

/-! ## The outcomes of the calls -/

/-- The staging file can be removed. -/
def UnlinkSucceeds : Pc × Files → Answer → Prop
  | (.unlink _ _, _), .error _ => False
  | _, _ => True

/-- The bytes that write calls with these outcomes take, of `remaining` ones. -/
def accepted : List Answer → Nat → Nat
  | [], _ => 0
  | answer :: rest, remaining =>
      if remaining = 0 then 0
      else
        match answer with
        | .ok count => if count = 0 then 0 else count + accepted rest (remaining - count)
        | .error errno => if errno = eintr then accepted rest remaining else 0

/-- The target is opened to be rewritten. -/
def opensTarget : Pc → Answer → Bool
  | .openExisting _, .ok _ => true
  | _, _ => false

/--
The bytes that a rewriting in place takes, when the outcomes of the calls lead to one.
-/
def rewritten (publication : Publication) : Pc × Files → List Answer → Option Nat
  | _, [] => none
  | state, answer :: rest =>
      if opensTarget state.1 answer then some (accepted rest publication.data.length)
      else
        (publication.step state answer).bind fun next => rewritten publication next rest

/-- The target is being rewritten, `written` bytes in. -/
structure Rewriting (publication : Publication) (before files : Files) (staging : Bytes)
    (file written : Nat) : Prop where
  leaving : Leaving publication before files staging
  target : files.names publication.path = some file
  content : files.content file = publication.data.take written
  within : written ≤ publication.data.length

theorem Rewriting.read_target
    (rewriting : Rewriting publication before files staging file written) :
    files.read publication.path = some (publication.data.take written) := by
  rw [FileSystem.read_eq_some rewriting.target, rewriting.content]

theorem Rewriting.append {count : Nat}
    (rewriting : Rewriting publication before files staging file written)
    (room : ¬ publication.data.length - written < count) :
    Rewriting publication before
      (files.append file (publication.chunk written count)) staging file
      (written + count) where
  leaving := ⟨rewriting.leaving.free, rewriting.leaving.other, rewriting.leaving.names⟩
  target := rewriting.target
  content := by
    refine (Function.update_self _ _ _).trans ?_
    rw [rewriting.content, take_append_chunk]
  within := by
    have within := rewriting.within
    omega

/-! ## Runs -/

/-- What a publication that has returned leaves. -/
def Leaves (publication : Publication) (before after : Files) (target : Option Nat) :
    Prop :=
  (∀ name, name ≠ publication.path → after.names name = before.names name) ∧
    match target with
    | none =>
        after.read publication.path = before.read publication.path ∨
          after.read publication.path = some publication.data
    | some count =>
        count ≤ publication.data.length ∧
          after.read publication.path = some (publication.data.take count)

theorem run_done {first : Int}
    (returned : run publication.step (.done first, files) answers =
      some (.done result, after)) : answers = [] ∧ after = files := by
  cases answers with
  | nil =>
      cases returned
      exact ⟨rfl, rfl⟩
  | cons answer rest =>
      rcases run_cons_eq_some.mp returned with ⟨next, stepped, -⟩
      cases stepped

/-- The staging file is removed and the call returns. -/
theorem run_unlink {first : Int}
    (returned : run publication.step (.unlink staging first, files) answers =
      some (.done result, after))
    (unlinks : Meets publication.step UnlinkSucceeds (.unlink staging first, files)
      answers) : after = files.unlink staging := by
  cases answers with
  | nil => cases returned
  | cons answer rest =>
      rcases run_cons_eq_some.mp returned with ⟨next, stepped, later⟩
      rcases (meets_cons stepped).mp unlinks with ⟨succeeds, -⟩
      cases answer with
      | error errno => cases succeeds
      | ok value =>
          cases stepped
          exact (run_done later).2

theorem Rewriting.run_unlink {first : Int}
    (rewriting : Rewriting publication before files staging file written)
    (returned : run publication.step (.unlink staging first, files) answers =
      some (.done result, after))
    (unlinks : Meets publication.step UnlinkSucceeds (.unlink staging first, files)
      answers) : Leaves publication before after (some written) := by
  rw [PublishAtomic.run_unlink returned unlinks]
  refine ⟨fun name different => ?_, rewriting.within, ?_⟩
  · by_cases same : name = staging
    · rw [same, rewriting.leaving.free]
      exact Function.update_self _ _ _
    · rw [FileSystem.unlink_names_of_ne same]
      exact rewriting.leaving.names name different same
  · rw [FileSystem.read_unlink_of_ne rewriting.leaving.other.symm]
    exact rewriting.read_target

/-- The rest of a rewriting in place. -/
theorem Rewriting.leaves
    (rewriting : Rewriting publication before files staging file written)
    (returned : run publication.step
      (publication.rewrote staging file written, files) answers =
        some (.done result, after))
    (unlinks : Meets publication.step UnlinkSucceeds
      (publication.rewrote staging file written, files) answers) :
    Leaves publication before after
      (some (written + accepted answers (publication.data.length - written))) := by
  induction answers generalizing files written with
  | nil =>
      dsimp only [Publication.rewrote] at returned
      split at returned <;> cases returned
  | cons answer rest induction =>
      by_cases unfinished : written < publication.data.length
      · have here : publication.rewrote staging file written =
            .rewrite staging file written := if_pos unfinished
        have some : publication.data.length - written ≠ 0 := by omega
        rw [here] at returned unlinks
        rcases run_cons_eq_some.mp returned with ⟨next, stepped, later⟩
        rcases (meets_cons stepped).mp unlinks with ⟨-, unlinksLater⟩
        dsimp only [accepted]
        rw [if_neg some]
        cases answer with
        | ok count =>
            rcases Publication.step_rewrite stepped with
              ⟨nothing, same⟩ | ⟨something, room, same⟩
            · cases same
              dsimp only
              rw [if_pos nothing]
              exact rewriting.run_unlink later unlinksLater
            · cases same
              have rest := induction (rewriting.append room) later unlinksLater
              dsimp only
              rw [if_neg something, ← Nat.add_assoc, Nat.sub_sub]
              exact rest
        | error errno =>
            dsimp only [Publication.step] at stepped
            by_cases interrupted : errno = eintr
            · rw [if_pos interrupted] at stepped
              cases stepped
              rw [← here] at later unlinksLater
              dsimp only
              rw [if_pos interrupted]
              exact induction rewriting later unlinksLater
            · rw [if_neg interrupted] at stepped
              cases stepped
              dsimp only
              rw [if_neg interrupted]
              exact rewriting.run_unlink later unlinksLater
      · have here : publication.rewrote staging file written = .unlink staging 0 :=
          if_neg unfinished
        have whole : publication.data.length - written = 0 := by omega
        rw [here] at returned unlinks
        dsimp only [accepted]
        rw [if_pos whole]
        exact rewriting.run_unlink returned unlinks

/-- An exclusive publication has given its file a second name. -/
theorem Staged.stage_linked
    (staged : Staged publication before files staging file publication.data.length)
    (linked : files.link staging publication.path = some after) (result : Int) :
    Stage publication before (.unlink staging result, after) := by
  have named : files.names staging = some file := by
    rw [staged.names, Function.update_self]
  dsimp only [FileSystem.link] at linked
  rw [named] at linked
  split at linked
  · rename_i first second same free
    cases same
    cases linked
    refine .unlink result
      ⟨staged.free, staged.other, fun name notTarget notStaging => ?_⟩ (Or.inr ?_)
    · refine (Function.update_of_ne notTarget _ _).trans ?_
      rw [staged.names, Function.update_of_ne notStaging]
    · refine (FileSystem.read_eq_some (Function.update_self _ _ _)).trans ?_
      rw [staged.content, List.take_length]
  · cases linked

/-- A publication has renamed its file. -/
theorem Staged.stage_renamed
    (staged : Staged publication before files staging file publication.data.length)
    (sound : before.WellFormed)
    (renamed : files.rename staging publication.path = some after) (result : Int) :
    Stage publication before (.done result, after) := by
  have named : files.names staging = some file := by
    rw [staged.names, Function.update_self]
  have replaced : files.names publication.path ≠ some file := by
    rw [staged.names, Function.update_of_ne staged.other.symm]
    intro same
    exact absurd (sound _ _ same) (by rw [staged.new]; exact Nat.lt_irrefl _)
  dsimp only [FileSystem.rename] at renamed
  rw [named] at renamed
  dsimp only at renamed
  rw [if_neg replaced] at renamed
  cases renamed
  refine .done result ⟨fun name notTarget => ?_, Or.inr ?_⟩
  · by_cases same : name = staging
    · rw [same, staged.free]
      exact Function.update_self _ _ _
    · refine (Function.update_of_ne same _ _).trans ?_
      rw [Function.update_of_ne notTarget, staged.names, Function.update_of_ne same]
  · refine (@FileSystem.read_eq_some _ _ _ _ file ?_).trans ?_
    · exact (Function.update_of_ne staged.other.symm _ _).trans (Function.update_self _ _ _)
    · rw [staged.content, List.take_length]

/-- A staging file has been created. -/
theorem stage_created {attempt : Nat}
    (created : before.create (publication.staging attempt) = some after) :
    Stage publication before
      (publication.wrote (publication.staging attempt) before.unused 0, after) := by
  have free := FileSystem.free_of_create created
  rw [FileSystem.create_of_free free] at created
  cases created
  refine stage_wrote ⟨free, staging_ne_path attempt, rfl, rfl, fun old different => ?_,
    ?_, Nat.zero_le _⟩
  · exact Function.update_of_ne different _ _
  · exact Function.update_self _ _ _

/-- A system call other than the opening of the target for a rewriting. -/
theorem stage_step {state next : Pc × Files} {answer : Answer}
    (sound : before.WellFormed) (stage : Stage publication before state)
    (unopened : opensTarget state.1 answer = false)
    (unlinks : UnlinkSucceeds state answer)
    (stepped : publication.step state answer = some next) :
    Stage publication before next := by
  cases stage with
  | openStaging attempt =>
      cases answer with
      | ok value =>
          rcases Option.map_eq_some_iff.mp stepped with ⟨after, created, rfl⟩
          exact stage_created created
      | error errno =>
          cases stepped
          split
          · exact stage_attempt (attempt + 1)
          · exact .done 0 allOrNothing_refl
  | write staged =>
      cases answer with
      | ok count =>
          rcases Publication.step_write stepped with ⟨-, same⟩ | ⟨-, room, same⟩
          · cases same
            exact staged.stage_unlink sound 0
          · cases same
            exact stage_wrote (staged.append room)
      | error errno =>
          cases stepped
          split
          · exact .write staged
          · exact staged.stage_unlink sound 0
  | link staged =>
      cases answer with
      | ok value =>
          rcases Option.map_eq_some_iff.mp stepped with ⟨after, linked, rfl⟩
          exact staged.stage_linked linked 0
      | error errno =>
          cases stepped
          split
          · exact staged.stage_unlink sound 1
          · exact .rename staged
  | rename staged =>
      cases answer with
      | ok value =>
          rcases Option.map_eq_some_iff.mp stepped with ⟨after, renamed, rfl⟩
          exact staged.stage_renamed sound renamed 0
      | error errno =>
          cases stepped
          split
          · exact .openExisting staged
          · exact staged.stage_unlink sound 0
  | openExisting staged =>
      cases answer with
      | ok value => cases unopened
      | error errno =>
          cases stepped
          exact staged.stage_unlink sound 0
  | unlink result leaving target =>
      cases answer with
      | ok value =>
          cases stepped
          exact .done result (leaving.allOrNothing_unlink target)
      | error errno => cases unlinks
  | done result finished => cases stepped

/-- The target has been opened and emptied. -/
theorem Staged.rewriting
    (staged : Staged publication before files staging file publication.data.length)
    {target : Nat} (named : files.names publication.path = some target) :
    Rewriting publication before (files.truncate target) staging target 0 where
  leaving := ⟨staged.free, staged.other, staged.leaving.names⟩
  target := named
  content := Function.update_self _ _ _
  within := Nat.zero_le _

/-- What any run of a publication leaves. -/
theorem leaves_of_run {state : Pc × Files}
    (sound : before.WellFormed) (stage : Stage publication before state)
    (returned : run publication.step state answers = some (.done result, after))
    (unlinks : Meets publication.step UnlinkSucceeds state answers) :
    Leaves publication before after (rewritten publication state answers) := by
  induction answers generalizing state with
  | nil =>
      cases returned
      cases stage with
      | done result finished => exact finished
  | cons answer rest induction =>
      rcases run_cons_eq_some.mp returned with ⟨next, stepped, later⟩
      rcases (meets_cons stepped).mp unlinks with ⟨here, unlinksLater⟩
      dsimp only [rewritten]
      cases opened : opensTarget state.1 answer with
      | false =>
          rw [if_neg Bool.false_ne_true, stepped, Option.bind_some]
          exact induction (stage_step sound stage opened here stepped) later unlinksLater
      | true =>
          rw [if_pos rfl]
          cases stage with
          | openExisting staged =>
              cases answer with
              | error errno => cases opened
              | ok value =>
                  rcases Option.map_eq_some_iff.mp stepped with ⟨target, named, rfl⟩
                  have whole := (staged.rewriting named).leaves later unlinksLater
                  rw [Nat.zero_add, Nat.sub_zero] at whole
                  exact whole
          | _ => cases answer <;> cases opened

/--
A publication that returns is all or nothing exactly when it has not rewritten the
target in place, or has rewritten all of it, or has left what was there.
-/
theorem allOrNothing_iff_rewritten
    (sound : before.WellFormed)
    (returned : run publication.step (publication.attempt 0, before) answers =
      some (.done result, after))
    (unlinks : Meets publication.step UnlinkSucceeds (publication.attempt 0, before)
      answers) :
    AllOrNothing publication before after ↔
      ∀ count,
        rewritten publication (publication.attempt 0, before) answers = some count →
          count = publication.data.length ∨
            before.read publication.path = some (publication.data.take count) := by
  have leaves := leaves_of_run sound (stage_attempt 0) returned unlinks
  cases target : rewritten publication (publication.attempt 0, before) answers with
  | none =>
      rw [target] at leaves
      exact iff_of_true leaves nofun
  | some count =>
      rw [target] at leaves
      rcases leaves with ⟨names, within, read⟩
      constructor
      · rintro ⟨-, kept | published⟩ other same
        · cases same
          exact Or.inr (kept.symm.trans read)
        · cases same
          have lengths := congrArg List.length
            (Option.some.inj (published.symm.trans read))
          rw [List.length_take] at lengths
          exact Or.inl (by omega)
      · intro whole
        refine ⟨names, ?_⟩
        rcases whole count rfl with all | kept
        · rw [read, all, List.take_length]
          exact Or.inr rfl
        · rw [read, kept]
          exact Or.inl rfl

/-! ## A rewriting that fails -/

instance : ∀ state answer, Decidable (UnlinkSucceeds state answer)
  | (.unlink _ _, _), .error _ => isFalse id
  | (.unlink _ _, _), .ok _ => isTrue trivial
  | (.openStaging _, _), _ => isTrue trivial
  | (.write _ _ _, _), _ => isTrue trivial
  | (.link _, _), _ => isTrue trivial
  | (.rename _, _), _ => isTrue trivial
  | (.openExisting _, _), _ => isTrue trivial
  | (.rewrite _ _ _, _), _ => isTrue trivial
  | (.done _, _), _ => isTrue trivial

/-- The status file of a load. -/
def statusPublication : Publication where
  path := bytes "/tmp/.chaos-io.status"
  data := bytes "state=ok\n"
  exclusive := false
  pid := 7
  nonce := 1

/-- Another user's status file is there. -/
def statusFiles : Files where
  names name := if name = bytes "/tmp/.chaos-io.status" then some 0 else none
  content _ := bytes "state=error\n"
  unused := 1

theorem wellFormed_statusFiles : statusFiles.WellFormed := by
  intro name file named
  dsimp only [statusFiles] at named
  split at named
  · cases named
    exact Nat.zero_lt_one
  · cases named

/-- The rename is refused, and the disk is full once the target is empty. -/
def diskFull : List Answer :=
  [.ok 3, .ok 9, .error eperm, .ok 3, .error 28, .ok 0]

theorem returns_diskFull :
    ∃ after, run statusPublication.step (statusPublication.attempt 0, statusFiles)
      diskFull = some (.done 0, after) := by
  have ends : (run statusPublication.step (statusPublication.attempt 0, statusFiles)
      diskFull).map Prod.fst = some (.done 0) := by decide +kernel
  rcases Option.map_eq_some_iff.mp ends with ⟨⟨pc, after⟩, ran, same⟩
  cases same
  exact ⟨after, ran⟩

theorem allOrNothing_iff_rewritten_diskFull :
    ∃ after,
      run statusPublication.step (statusPublication.attempt 0, statusFiles) diskFull =
          some (.done 0, after) ∧
        (AllOrNothing statusPublication statusFiles after ↔
          ∀ count,
            rewritten statusPublication (statusPublication.attempt 0, statusFiles)
                diskFull = some count →
              count = statusPublication.data.length ∨
                statusFiles.read statusPublication.path =
                  some (statusPublication.data.take count)) := by
  rcases returns_diskFull with ⟨after, ran⟩
  exact ⟨after, ran,
    allOrNothing_iff_rewritten wellFormed_statusFiles ran (by decide +kernel)⟩

/-- The status file is left empty. -/
theorem diskFull_leaves_empty :
    ∃ after,
      run statusPublication.step (statusPublication.attempt 0, statusFiles) diskFull =
          some (.done 0, after) ∧
        after.read statusPublication.path = some [] ∧
          ¬ AllOrNothing statusPublication statusFiles after := by
  rcases returns_diskFull with ⟨after, ran⟩
  have leaves := leaves_of_run wellFormed_statusFiles (stage_attempt 0) ran
    (by decide +kernel)
  have target : rewritten statusPublication
      (statusPublication.attempt 0, statusFiles) diskFull = some 0 := by
    decide +kernel
  rw [target] at leaves
  rcases leaves with ⟨-, -, read⟩
  rw [List.take_zero] at read
  refine ⟨after, ran, read, fun whole => ?_⟩
  rcases whole.2 with kept | published
  · rw [read] at kept
    revert kept
    decide +kernel
  · rw [read] at published
    revert published
    decide +kernel

end ChaosLibs.Common.PublishAtomic
