import ChaosLibs.Common.HitsFiles
import Mathlib.Data.List.TakeWhile

/-!
# Who owns a hits file

A process that takes a file for its own has created it, as long as no exclusive
publication gives up before its `link`; a publication that gives up returns what a
successful one returns.
-/

namespace ChaosLibs.Common.HitsOwnership

open ChaosLibs.Common.CString
open ChaosLibs.Common.HitsFiles
open ChaosLibs.Common.StatusPublish
open ChaosLibs.Machine

/-! ## Names -/

theorem splitDirectory_append {base name : Bytes} (noSlash : byte '/' ∉ name) :
    splitDirectory (base ++ byte '/' :: name) = (base ++ [byte '/'], name) := by
  have reversed : (base ++ byte '/' :: name).reverse =
      name.reverse ++ byte '/' :: base.reverse := by
    rw [List.reverse_append, List.reverse_cons, List.append_assoc, List.singleton_append]
  have others : ∀ ch ∈ name.reverse, (ch != byte '/') = true := fun ch member =>
    bne_iff_ne.mpr fun slash => noSlash (slash ▸ List.mem_reverse.mp member)
  dsimp only [splitDirectory]
  rw [reversed, List.dropWhile_append_of_pos others, List.takeWhile_append_of_pos others]
  simp

theorem slash_not_mem_decimal (number : Nat) : byte '/' ∉ bytes (toString number) := by
  intro member
  rcases List.mem_map.mp member with ⟨digit, inside, same⟩
  rw [Nat.toString_eq_ofList_toDigits, String.toList_ofList] at inside
  have bounds := Char.isDigit_iff_toNat.mp
    (Nat.isDigit_of_mem_toDigits (by decide) (by decide) inside)
  have values := congrArg UInt8.toNat same
  have slash : (byte '/').toNat = 47 := by decide
  have zero : '0'.toNat = 48 := by decide
  have nine : '9'.toNat = 57 := by decide
  rw [UInt8.toNat_ofNat', slash] at values
  omega

/-- The name of a hits file in its directory. -/
theorem hitsPath_eq (library : Library) (number : Nat) :
    ∃ name, byte '/' ∉ name ∧
      library.hitsPath number = bytes "/tmp" ++ byte '/' :: name := by
  have decimal := slash_not_mem_decimal number
  have shorten : ∀ lead : Bytes, byte '/' ∉ lead →
      byte '/' ∉ lead ++ bytes "." ++ bytes (toString number) := by
    intro lead noSlash member
    rcases List.mem_append.mp member with front | digits
    · rcases List.mem_append.mp front with inside | dot
      · exact noSlash inside
      · revert dot
        decide
    · exact decimal digits
  cases library with
  | io => exact ⟨_, shorten (bytes ".chaos-io.hits") (by decide), rfl⟩
  | net => exact ⟨_, shorten (bytes ".chaos-net.hits") (by decide), rfl⟩
  | process => exact ⟨_, shorten (bytes ".chaos-process.hits") (by decide), rfl⟩
  | dns => exact ⟨_, shorten (bytes ".chaos-dns.hits") (by decide), rfl⟩
  | time => exact ⟨_, shorten (bytes ".chaos-time.hits") (by decide), rfl⟩
  | memory => exact ⟨_, shorten (bytes ".chaos-memory.hits") (by decide), rfl⟩

/-- The byte after `/tmp/.chaos-` tells a hits file from a staging file. -/
theorem hitsPath_byte (library : Library) (number : Nat) :
    (library.hitsPath number)[12]? ≠ some (byte 's') := by
  cases library <;> exact fun same => absurd (Option.some.inj same) (by decide)

theorem staging_byte {publication : Publication} {library : Library} {number : Nat}
    (path : publication.path = library.hitsPath number) (attempt : Nat) :
    (publication.staging attempt)[12]? = some (byte 's') := by
  rcases hitsPath_eq library number with ⟨name, noSlash, split⟩
  dsimp only [Publication.staging]
  rw [path, split, splitDirectory_append noSlash]
  rfl

/-- No staging file has the name of a hits file. -/
theorem staging_ne_hitsPath {publication : Publication} {library other : Library}
    {number : Nat} (path : publication.path = library.hitsPath number)
    (attempt second : Nat) : publication.staging attempt ≠ other.hitsPath second := by
  intro same
  apply hitsPath_byte other second
  rw [← same]
  exact staging_byte path attempt

/-- The name of a staging file always fits. -/
theorem attempt_eq_openStaging {publication : Publication}
    (short : publication.path.length < pathSize) (pid : publication.pid < 2 ^ 32)
    (attempt : Nat) : publication.attempt attempt = .openStaging attempt := by
  have parts := length_splitDirectory publication.path
  have marker : (bytes ".chaos-staging-").length = 15 := by decide
  have dash : (bytes "-").length = 1 := by decide
  have dotless : (withoutDot (splitDirectory publication.path).2).length ≤
      (splitDirectory publication.path).2.length := by
    dsimp only [withoutDot]
    split
    · exact (List.length_drop).trans_le (Nat.sub_le _ _)
    · exact Nat.le_refl _
  have decimal : (bytes (toString publication.pid)).length ≤ 10 := by
    rw [bytes, List.length_map, Nat.toString_eq_ofList_toDigits, String.toList_ofList]
    refine (Nat.length_toDigits_le_iff (by decide) (by decide)).mpr (pid.trans ?_)
    decide
  have hex : (hexText (publication.nonce + UInt64.ofNat attempt)).length ≤ 16 := by
    rw [hexText, List.length_map]
    refine (Nat.length_toDigits_le_iff (by decide) (by decide)).mpr ?_
    exact UInt64.toNat_lt _
  dsimp only [pathSize] at short
  refine if_neg (Nat.not_le.mpr ?_)
  dsimp only [Publication.staging, stagingSize]
  simp only [List.length_append, marker, dash]
  omega

/-! ## The invariant -/

/-- The staging name that a publication holds. -/
def stagingOf : Pc → Option Bytes
  | .write staging _ _ | .link staging | .rename staging | .openExisting staging
  | .rewrite staging _ _ | .unlink staging _ => some staging
  | .openStaging _ | .done _ => none

/-- What the result of an exclusive publication will say, it has done. -/
def Honest (creator : Bytes → Option Nat) (mover : Nat) (publication : Publication) :
    Pc → Prop
  | .openStaging _ | .write _ _ _ | .link _ => True
  | .rename _ | .openExisting _ | .rewrite _ _ _ => publication.exclusive = false
  | .unlink _ result | .done result =>
      publication.exclusive = true → result = 0 →
        creator publication.path = some mover

/-- A process in `chaos_hits_write_for`. -/
structure Publishing (creator : Bytes → Option Nat) (mover : Nat) (process : Process)
    (publication : Publication) (pc : Pc) : Prop where
  path : publication.path = process.path
  exclusive : publication.exclusive = !process.owned
  short : publication.path.length < pathSize
  pid : publication.pid < 2 ^ 32
  staging : ∀ staging ∈ stagingOf pc, ∃ attempt, staging = publication.staging attempt
  honest : Honest creator mover publication pc

/-- A process owns only what it has created. -/
structure Owner (creator : Bytes → Option Nat) (mover : Nat) (process : Process) :
    Prop where
  owned : process.owned = true → creator process.path = some mover
  publishing : ∀ attempt publication pc,
    process.stage = .publishing attempt publication pc →
      Publishing creator mover process publication pc

/-- The invariant of the runs. -/
structure Invariant (world : World) : Prop where
  owner : ∀ mover, Owner world.creator mover (world.process mover)
  created : ∀ path mover, world.creator path = some mover →
    world.files.names path ≠ none ∧
      ∃ (library : Library) (number : Nat), path = library.hitsPath number
  foreign : world.foreign = false

theorem invariant_initial (files : Files) (library : Nat → Library)
    (number : Nat → Nat) : Invariant (World.initial files library number) where
  owner _ := ⟨nofun, nofun⟩
  created := nofun
  foreign := rfl

theorem Invariant.safe {world : World} (invariant : Invariant world) : Safe world where
  owned mover := (invariant.owner mover).owned
  replacing mover path replacing := by
    cases stage : (world.process mover).stage with
    | idle =>
        rw [stage] at replacing
        cases replacing
    | publishing attempt publication pc =>
        rw [stage] at replacing
        dsimp only [Stage.replacing] at replacing
        have publishing := (invariant.owner mover).publishing _ _ _ stage
        split at replacing
        · cases replacing
        · rename_i shared
          cases replacing
          rw [publishing.exclusive, Bool.not_eq_true, Bool.not_eq_false'] at shared
          rw [publishing.path]
          exact (invariant.owner mover).owned shared
  foreign := invariant.foreign

/-! ## Steps -/

variable {creator later : Bytes → Option Nat} {mover : Nat} {process : Process}
  {publication : Publication} {pc next : Pc} {files after : Files} {answer : Answer}

/-- What has been created stays so. -/
theorem Honest.mono
    (extends_ : ∀ path other, creator path = some other → later path = some other)
    (honest : Honest creator mover publication pc) :
    Honest later mover publication pc := by
  cases pc with
  | openStaging attempt => trivial
  | write staging file written => trivial
  | link staging => trivial
  | rename staging => exact honest
  | openExisting staging => exact honest
  | rewrite staging file written => exact honest
  | unlink staging result =>
      exact fun exclusive success => extends_ _ _ (honest exclusive success)
  | done result =>
      exact fun exclusive success => extends_ _ _ (honest exclusive success)

theorem Owner.mono
    (extends_ : ∀ path other, creator path = some other → later path = some other)
    (owner : Owner creator mover process) : Owner later mover process where
  owned flag := extends_ _ _ (owner.owned flag)
  publishing attempt publication pc stage :=
    have publishing := owner.publishing attempt publication pc stage
    { publishing with honest := publishing.honest.mono extends_ }

/-- A round begins with the opening of a staging file, or not at all. -/
theorem owner_attempt {data : Bytes} {pid : Nat} {nonce : UInt64} (attempt : Nat)
    (owned : process.owned = true → creator process.path = some mover)
    (word : pid < 2 ^ 32) :
    Owner creator mover (process.attempt attempt data pid nonce) := by
  dsimp only [Process.attempt]
  split
  · exact ⟨owned, nofun⟩
  · rename_i fits
    have short := Nat.lt_of_not_le fits
    refine ⟨owned, fun attempt publication pc stage => ?_⟩
    cases stage
    rw [attempt_eq_openStaging short word]
    exact ⟨rfl, rfl, short, word, nofun, trivial⟩

theorem owner_resume {attempt number : Nat} {result : Int} {nonce : UInt64}
    (owner : Owner creator mover process)
    (stage : process.stage = .publishing attempt publication (.done result)) :
    Owner creator mover (process.resume attempt publication result number nonce) := by
  have publishing := owner.publishing _ _ _ stage
  dsimp only [Process.resume]
  split
  · exact ⟨owner.owned, nofun⟩
  · rename_i exclusive
    have exclusive : publication.exclusive = true := by simpa using exclusive
    split
    · rename_i success
      refine ⟨fun _ => ?_, nofun⟩
      have created := publishing.honest exclusive success
      rw [publishing.path] at created
      exact created
    · have notOwned : process.owned = false := by
        have flags := publishing.exclusive
        rw [exclusive] at flags
        simpa using flags.symm
      split
      · refine owner_attempt _ (fun flag => ?_) publishing.pid
        rw [notOwned] at flag
        cases flag
      · refine ⟨fun flag => ?_, nofun⟩
        rw [notOwned] at flag
        cases flag

/-- Every name of a hits file that stands for a file goes on doing so. -/
theorem names_step {path : Bytes} {library : Library} {number : Nat}
    (hits : path = library.hitsPath number)
    (publishing : Publishing creator mover process publication pc)
    (stepped : publication.step (pc, files) answer = some (next, after))
    (named : files.names path ≠ none) : after.names path ≠ none := by
  have away : ∀ staging ∈ stagingOf pc, path ≠ staging := by
    intro staging member same
    rcases publishing.staging staging member with ⟨attempt, held⟩
    have target : publication.path = process.library.hitsPath process.number :=
      publishing.path
    exact staging_ne_hitsPath target attempt number (held.symm.trans (same.symm.trans hits))
  cases answer with
  | ok value =>
      cases pc with
      | openStaging attempt =>
          rcases Option.map_eq_some_iff.mp stepped with ⟨files, created, same⟩
          cases same
          exact FileSystem.named_of_create created named
      | link staging =>
          rcases Option.map_eq_some_iff.mp stepped with ⟨files, linked, same⟩
          cases same
          exact FileSystem.named_of_link linked named
      | rename staging =>
          rcases Option.map_eq_some_iff.mp stepped with ⟨files, renamed, same⟩
          cases same
          exact FileSystem.named_of_rename renamed (away staging rfl) named
      | openExisting staging =>
          rcases Option.map_eq_some_iff.mp stepped with ⟨file, target, same⟩
          cases same
          exact named
      | unlink staging result =>
          cases stepped
          rw [FileSystem.unlink_names_of_ne (away staging rfl)]
          exact named
      | write staging file written =>
          rcases Publication.step_write stepped with ⟨-, same⟩ | ⟨-, -, same⟩
          · cases same
            exact named
          · cases same
            exact named
      | rewrite staging file written =>
          rcases Publication.step_rewrite stepped with ⟨-, same⟩ | ⟨-, -, same⟩
          · cases same
            exact named
          · cases same
            exact named
      | done result => cases stepped
  | error errno =>
      cases pc <;> cases stepped <;> exact named

theorem honest_wrote (staging : Bytes) (file written : Nat) :
    Honest creator mover publication (publication.wrote staging file written) := by
  dsimp only [Publication.wrote]
  split
  · trivial
  · split
    · trivial
    · rename_i shared
      exact Bool.eq_false_iff.mpr shared

theorem honest_of_shared (shared : publication.exclusive = false) :
    Honest creator mover publication pc := by
  cases pc with
  | openStaging attempt => trivial
  | write staging file written => trivial
  | link staging => trivial
  | rename staging => exact shared
  | openExisting staging => exact shared
  | rewrite staging file written => exact shared
  | unlink staging result =>
      intro exclusive
      rw [shared] at exclusive
      cases exclusive
  | done result =>
      intro exclusive
      rw [shared] at exclusive
      cases exclusive

/-- The answer of a system call keeps the result honest. -/
theorem honest_step
    (honest : Honest creator mover publication pc)
    (short : publication.path.length < pathSize) (pid : publication.pid < 2 ^ 32)
    (whole : (publication.exclusive && abandons pc answer) = false)
    (works : ∀ staging errno, pc = .link staging → answer = .error errno →
      errno = eexist)
    (created : creates pc answer = true → later publication.path = some mover)
    (extends_ : ∀ path other, creator path = some other → later path = some other)
    (stepped : publication.step (pc, files) answer = some (next, after)) :
    Honest later mover publication next := by
  cases shared : publication.exclusive with
  | false => exact honest_of_shared shared
  | true =>
      rw [shared, Bool.true_and] at whole
      have impossible : ∀ {goal : Prop}, publication.exclusive = false → goal := by
        intro goal other
        rw [shared] at other
        cases other
      cases pc with
      | openStaging attempt =>
          cases answer with
          | ok value =>
              rcases Option.map_eq_some_iff.mp stepped with ⟨files, created, same⟩
              cases same
              exact honest_wrote _ _ _
          | error errno =>
              cases stepped
              have retries : errno = eexist ∧ attempt + 1 < stagingAttempts := by
                simpa [abandons] using whole
              rw [if_pos retries, attempt_eq_openStaging short pid]
              trivial
      | write staging file written =>
          cases answer with
          | ok count =>
              rcases Publication.step_write stepped with ⟨nothing, -⟩ | ⟨-, -, same⟩
              · rw [nothing] at whole
                cases whole
              · cases same
                exact honest_wrote _ _ _
          | error errno =>
              cases stepped
              have interrupted : errno = eintr := by simpa [abandons] using whole
              rw [if_pos interrupted]
              trivial
      | link staging =>
          cases answer with
          | ok value =>
              rcases Option.map_eq_some_iff.mp stepped with ⟨files, linked, same⟩
              cases same
              exact fun _ _ => created rfl
          | error errno =>
              cases stepped
              rw [if_pos (works staging errno rfl rfl)]
              intro _ success
              cases success
      | rename staging => exact impossible honest
      | openExisting staging => exact impossible honest
      | rewrite staging file written => exact impossible honest
      | unlink staging result =>
          cases answer with
          | ok value =>
              cases stepped
              exact honest.mono extends_
          | error errno =>
              cases stepped
              exact honest.mono extends_
      | done result => cases stepped

theorem stagingOf_wrote (staging : Bytes) (file written : Nat) :
    stagingOf (publication.wrote staging file written) = some staging := by
  dsimp only [Publication.wrote]
  split
  · rfl
  · split <;> rfl

theorem stagingOf_rewrote (staging : Bytes) (file written : Nat) :
    stagingOf (publication.rewrote staging file written) = some staging := by
  dsimp only [Publication.rewrote]
  split <;> rfl

/-- A publication keeps its staging name. -/
theorem stagingOf_step
    (stepped : publication.step (pc, files) answer = some (next, after)) :
    stagingOf next = none ∨ stagingOf next = stagingOf pc ∨
      ∃ attempt, stagingOf next = some (publication.staging attempt) := by
  cases pc with
  | openStaging attempt =>
      cases answer with
      | ok value =>
          rcases Option.map_eq_some_iff.mp stepped with ⟨files, created, same⟩
          cases same
          exact Or.inr (Or.inr ⟨attempt, stagingOf_wrote _ _ _⟩)
      | error errno =>
          cases stepped
          refine Or.inl ?_
          dsimp only [Publication.attempt]
          split
          · split <;> rfl
          · rfl
  | write staging file written =>
      refine Or.inr (Or.inl ?_)
      cases answer with
      | ok count =>
          rcases Publication.step_write stepped with ⟨-, same⟩ | ⟨-, -, same⟩
          · cases same
            rfl
          · cases same
            exact stagingOf_wrote _ _ _
      | error errno =>
          cases stepped
          split <;> rfl
  | link staging =>
      refine Or.inr (Or.inl ?_)
      cases answer with
      | ok value =>
          rcases Option.map_eq_some_iff.mp stepped with ⟨files, linked, same⟩
          cases same
          rfl
      | error errno =>
          cases stepped
          split <;> rfl
  | rename staging =>
      cases answer with
      | ok value =>
          rcases Option.map_eq_some_iff.mp stepped with ⟨files, renamed, same⟩
          cases same
          exact Or.inl rfl
      | error errno =>
          cases stepped
          refine Or.inr (Or.inl ?_)
          split <;> rfl
  | openExisting staging =>
      refine Or.inr (Or.inl ?_)
      cases answer with
      | ok value =>
          rcases Option.map_eq_some_iff.mp stepped with ⟨file, target, same⟩
          cases same
          exact stagingOf_rewrote _ _ _
      | error errno =>
          cases stepped
          rfl
  | rewrite staging file written =>
      refine Or.inr (Or.inl ?_)
      cases answer with
      | ok count =>
          rcases Publication.step_rewrite stepped with ⟨-, same⟩ | ⟨-, -, same⟩
          · cases same
            rfl
          · cases same
            exact stagingOf_rewrote _ _ _
      | error errno =>
          cases stepped
          split <;> rfl
  | unlink staging result =>
      cases answer <;> cases stepped <;> exact Or.inl rfl
  | done result => cases stepped

/-- The target of a `link` that succeeds was free. -/
theorem taken_of_creates (creating : creates pc answer = true)
    (stepped : publication.step (pc, files) answer = some (next, after)) :
    files.names publication.path = none ∧ after.names publication.path ≠ none := by
  cases pc with
  | link staging =>
      cases answer with
      | ok value =>
          rcases Option.map_eq_some_iff.mp stepped with ⟨linkedFiles, linked, same⟩
          cases same
          exact FileSystem.taken_of_link linked
      | error errno => cases creating
  | _ => cases answer <;> cases creating

/-- An honest publication that replaces its target is no exclusive one. -/
theorem shared_of_replaces (honest : Honest creator mover publication pc)
    (replacing : replaces pc answer = true) : publication.exclusive = false := by
  cases pc with
  | rename staging => exact honest
  | openExisting staging => exact honest
  | _ => cases answer <;> cases replacing

/-! ## Runs -/

/-- A system call of one process. -/
theorem invariant_answer {world : World} {attempt : Nat} {result : Pc × Files}
    (invariant : Invariant world)
    (stage : (world.process mover).stage = .publishing attempt publication pc)
    (whole : (publication.exclusive && abandons pc answer) = false)
    (works : ∀ staging errno, pc = .link staging → answer = .error errno →
      errno = eexist)
    (stepped : publication.step (pc, world.files) answer = some result) :
    Invariant (world.afterCall mover attempt publication pc answer result) := by
  have publishing := (invariant.owner mover).publishing _ _ _ stage
  have target : publication.path =
      (world.process mover).library.hitsPath (world.process mover).number :=
    publishing.path
  -- A name that a `link` takes was free, so nobody had created it.
  have extends_ : ∀ path other, world.creator path = some other →
      (world.afterCall mover attempt publication pc answer result).creator path =
        some other := by
    intro path other made
    dsimp only [World.afterCall]
    split
    · rename_i creating
      by_cases here : path = publication.path
      · have free := (taken_of_creates creating stepped).1
        exact absurd (here ▸ free) (invariant.created path other made).1
      · rw [Function.update_of_ne here]
        exact made
    · exact made
  have created : creates pc answer = true →
      (world.afterCall mover attempt publication pc answer result).creator
        publication.path = some mover := by
    intro creating
    dsimp only [World.afterCall]
    rw [if_pos creating, Function.update_self]
  constructor
  · intro other
    by_cases here : other = mover
    · have same : (world.afterCall mover attempt publication pc answer result).process
          other =
            { world.process mover with
              stage := .publishing attempt publication result.1 } := by
        rw [here]
        exact Function.update_self _ _ _
      rw [same, here]
      refine ⟨fun flag => extends_ _ _ ((invariant.owner mover).owned flag), ?_⟩
      intro again publication' pc' stage'
      cases stage'
      refine ⟨publishing.path, publishing.exclusive, publishing.short, publishing.pid,
        ?_, ?_⟩
      · intro staging member
        rcases stagingOf_step stepped with none | kept | ⟨attempt, opened⟩
        · rw [none] at member
          cases member
        · rw [kept] at member
          exact publishing.staging staging member
        · rw [opened] at member
          cases member
          exact ⟨attempt, rfl⟩
      · exact honest_step publishing.honest publishing.short publishing.pid whole works
          created extends_ stepped
    · have same : (world.afterCall mover attempt publication pc answer result).process
          other = world.process other := Function.update_of_ne here _ _
      rw [same]
      exact (invariant.owner other).mono extends_
  · intro path other made
    dsimp only [World.afterCall] at made
    split at made
    · rename_i creating
      by_cases here : path = publication.path
      · refine ⟨?_, _, _, here.trans target⟩
        rw [here]
        exact (taken_of_creates creating stepped).2
      · rw [Function.update_of_ne here] at made
        rcases invariant.created path other made with ⟨named, library, number, hits⟩
        exact ⟨names_step hits publishing stepped named, library, number, hits⟩
    · rcases invariant.created path other made with ⟨named, library, number, hits⟩
      exact ⟨names_step hits publishing stepped named, library, number, hits⟩
  · dsimp only [World.afterCall]
    rw [invariant.foreign, Bool.false_or]
    cases replacing : replaces pc answer with
    | false => rfl
    | true =>
        have shared := shared_of_replaces publishing.honest replacing
        have flag : (world.process mover).owned = true := by
          have flags := publishing.exclusive
          rw [shared] at flags
          simpa using flags.symm
        have own := (invariant.owner mover).owned flag
        rw [← publishing.path] at own
        rw [own, bne_self_eq_false, Bool.and_false]

/-- What one step of one process keeps. -/
theorem invariant_step {world afterwards : World} {label : Label}
    (invariant : Invariant world)
    (condition : linkWorks world label = true ∧ completes world label = true)
    (stepped : step world label = some afterwards) : Invariant afterwards := by
  rcases label with ⟨mover, action⟩
  rcases condition with ⟨works, whole⟩
  have owner := invariant.owner mover
  -- A step outside the system calls changes the process only.
  have replaced : ∀ process, Owner world.creator mover process →
      Invariant { world with process := Function.update world.process mover process } := by
    intro process good
    refine ⟨fun other => ?_, invariant.created, invariant.foreign⟩
    dsimp only
    by_cases here : other = mover
    · rw [here, Function.update_self]
      exact good
    · rw [Function.update_of_ne here]
      exact invariant.owner other
  dsimp only [step] at stepped
  split at stepped
  · rename_i data pid nonce stage
    cases stepped
    exact replaced _ (owner_attempt 0 owner.owned (UInt32.toNat_lt pid))
  · rename_i attempt publication result number nonce stage
    cases stepped
    exact replaced _ (owner_resume owner stage)
  · rename_i attempt publication pc answer stage
    rcases Option.map_eq_some_iff.mp stepped with ⟨result, called, rfl⟩
    refine invariant_answer invariant stage ?_ ?_ called
    · dsimp only [completes] at whole
      rw [stage] at whole
      exact (Bool.not_eq_true' _).mp whole
    · rintro staging errno rfl rfl
      dsimp only [linkWorks] at works
      rw [stage] at works
      exact beq_iff_eq.mp works
  · cases stepped

/--
Where `link` works, no process ever takes for its own, replaces or empties a hits file
that it has not created, in runs in which no exclusive publication gives up before its
`link`.
-/
theorem safe_throughout (files : Files) (library : Nat → Library) (number : Nat → Nat)
    (labels : List Label)
    (conditions : Meets step
      (fun world label => linkWorks world label = true ∧ completes world label = true)
      (World.initial files library number) labels) :
    Throughout step Safe (World.initial files library number) labels := by
  have invariant := @throughout_of_meets _ _ step (fun _ => True) _ Invariant
    (fun world label afterwards _ holds met stepped =>
      invariant_step holds met stepped)
    _ labels (fun _ _ => trivial) (invariant_initial files library number) conditions
  exact fun before after middle split ran =>
    (invariant before after middle split ran).safe

/-- No hits file yet, and two processes of pid 1 in containers that share `/tmp`. -/
def sharedDirectory : World :=
  World.initial ⟨fun _ => none, fun _ => [], 0⟩ (fun _ => .io) fun _ => 1

/-- A whole exclusive publication of one byte, and the return from it. -/
def publishes (mover : Nat) (nonce : UInt64) : List Label :=
  [(mover, .call [byte '1'] 1 nonce), (mover, .answer (.ok 3)), (mover, .answer (.ok 1)),
    (mover, .answer (.ok 0)), (mover, .answer (.ok 0)), (mover, .resume 1 nonce)]

/-- The second process finds the name taken, and chooses another number. -/
def nameTaken : List Label :=
  publishes 0 7 ++
    [(1, .call [byte '1'] 1 8), (1, .answer (.ok 3)), (1, .answer (.ok 1)),
      (1, .answer (.error eexist)), (1, .answer (.ok 0)), (1, .resume 1000000042 9),
      (1, .answer (.ok 3)), (1, .answer (.ok 1)), (1, .answer (.ok 0)),
      (1, .answer (.ok 0)), (1, .resume 1 9)]

theorem safe_throughout_nameTaken :
    (run step sharedDirectory nameTaken).isSome = true ∧
      Throughout step Safe sharedDirectory nameTaken :=
  ⟨by decide +kernel, safe_throughout _ _ _ _ (by decide +kernel)⟩

/-- The first process cannot create its staging file, and writes again later. -/
def failedCreation : List Label :=
  [(0, .call [byte '1'] 1 7), (0, .answer (.error 28)), (0, .resume 1 7)] ++
    publishes 1 8 ++
    [(0, .call [byte '2'] 1 9), (0, .answer (.ok 3)), (0, .answer (.ok 1)),
      (0, .answer (.ok 0))]

/-- It replaces the file of the second process, and `link` has worked throughout. -/
theorem failedCreation_replaces_foreign :
    Meets step (fun world label => linkWorks world label = true) sharedDirectory
        failedCreation ∧
      (run step sharedDirectory failedCreation).map World.foreign = some true ∧
        ¬ Throughout step Safe sharedDirectory failedCreation := by
  have foreign : (run step sharedDirectory failedCreation).map World.foreign =
      some true := by decide +kernel
  refine ⟨by decide +kernel, foreign, fun safe => ?_⟩
  rcases Option.map_eq_some_iff.mp foreign with ⟨last, ran, replaced⟩
  rw [(safe.final ran).foreign] at replaced
  cases replaced

end ChaosLibs.Common.HitsOwnership
