import ChaosLibs.Init.TraceeCells
import ChaosLibs.Init.TraceeTable

/-!
# The table of the supervisor with its cells

The state of `chaos_init_tracee.c` for all libraries, and its operations.  A run is any order
of calls of `chaos_init_tracee_of`, of hits, flushes and reloads; what becomes of the
processes in between is the population that each call is given.  All writes succeed.
-/

namespace ChaosLibs.Init.TraceeState

open ChaosLibs.Common.CString
open ChaosLibs.Init.TraceeCells
open ChaosLibs.Init.TraceeSlots
open ChaosLibs.Init.TraceeTable

/-! ## The log -/

/-- What happens in a run. -/
inductive Event (Lib : Type*) where
  /-- `chaos_init_tracee_of` is called for a thread of a process. -/
  | asked (image : Image)
  /-- An entry is given to another process. -/
  | got (index : Index)
  /-- What a library keeps for an entry is reset; with the process and its file. -/
  | freed (lib : Lib) (index : Index) (image : Image) (number : Nat)
  /-- The slots of an entry are brought to the rules of the active snapshot. -/
  | synced (lib : Lib) (index : Index) (texts : List Bytes)
  /-- A process hits a rule. -/
  | hit (lib : Lib) (image : Image) (text : Bytes)
  /-- The hits file of an entry is written. -/
  | wrote (lib : Lib) (index : Index) (number : Nat)

section Log

variable {Lib : Type*}

/-- The calls of `chaos_init_tracee_of`. -/
def asks : List (Event Lib) → Nat
  | [] => 0
  | .asked _ :: log => asks log + 1
  | _ :: log => asks log

/-- The number of the last call for a process; 0 before the first. -/
def lastAsked (image : Image) : List (Event Lib) → Nat
  | [] => 0
  | .asked other :: log => if other = image then asks log + 1 else lastAsked image log
  | _ :: log => lastAsked image log

variable {event : Event Lib}

theorem asks_cons (log : List (Event Lib)) (plain : ∀ image, event ≠ .asked image) :
    asks (event :: log) = asks log := by
  cases event with
  | asked image => exact absurd rfl (plain image)
  | got | freed | synced | hit | wrote => rfl

theorem lastAsked_cons {image : Image} (log : List (Event Lib))
    (plain : ∀ image, event ≠ .asked image) :
    lastAsked image (event :: log) = lastAsked image log := by
  cases event with
  | asked image => exact absurd rfl (plain image)
  | got | freed | synced | hit | wrote => rfl

variable [DecidableEq Lib]

/-- The part of an event that concerns a library, an entry and a process. -/
def Event.view (lib : Lib) (index : Index) (image : Image) :
    Event Lib → Option CellEvent
  | .asked _ => none
  | .got other => if other = index then some .start else none
  | .freed library other _ _ =>
      if library = lib ∧ other = index then some .start else none
  | .synced library other texts =>
      if library = lib ∧ other = index then some (.synced texts) else none
  | .hit library hitter text =>
      if library = lib ∧ hitter = image then some (.hit text) else none
  | .wrote library other number =>
      if library = lib ∧ other = index then some (.wrote number) else none

/-- What the log tells of a library, an entry and a process. -/
def story (lib : Lib) (index : Index) (image : Image) (log : List (Event Lib)) :
    List CellEvent :=
  log.filterMap (Event.view lib index image)

end Log

/-! ## The state -/

/-- The state of `chaos_init_tracee.c`, and the hits files of each library by number. -/
structure State (Lib : Type*) (known : Set Bytes) where
  table : Table
  cells : Lib → Index → Cell
  snapshot : Lib → Snapshot known
  files : Lib → Nat → Option HitsFile
  /-- How many files were created. -/
  created : Lib → Nat
  log : List (Event Lib)

/--
The registered libraries, and the numbers that the files they create get one after another:
none twice, since a file is only created under a free name.  `known` are the rule texts that
come up; their hashes differ.
-/
structure Setup (Lib : Type*) (known : Set Bytes) where
  libs : List Lib
  complete : ∀ lib, lib ∈ libs
  maxRules : Lib → Nat
  number : Lib → Nat → Nat
  number_injective : ∀ lib, Function.Injective (number lib)
  number_pos : ∀ lib count, 0 < number lib count
  hash_injOn : Set.InjOn chaosInitHash known

/--
The processes at one moment, as `CHAOS_INIT_PROCESS_OF` finds them.  The first thread of
a process has the process's id.
-/
structure Population where
  lookup : Lookup
  positive : ∀ {tid tgid start}, lookup tid = some (tgid, start) → tgid ≠ 0
  leader : ∀ {tid tgid start}, lookup tid = some (tgid, start) →
    lookup tgid = some (tgid, start)

/-- The image that an entry is of. -/
def imageOf (entry : Tracee) : Image :=
  (entry.tgid, entry.start)

variable {Lib : Type*} [DecidableEq Lib] {known : Set Bytes}

/-- One cell is replaced. -/
def State.setCell (state : State Lib known) (lib : Lib) (index : Index) (cell : Cell) :
    State Lib known :=
  { state with
    cells := Function.update state.cells lib
      (Function.update (state.cells lib) index cell) }

/-- An event is logged. -/
def State.record (state : State Lib known) (event : Event Lib) : State Lib known :=
  { state with log := event :: state.log }

/-- The hits file of an entry. -/
def ownFile (state : State Lib known) (lib : Lib) (index : Index) : Option HitsFile :=
  state.files lib (state.cells lib index).file

/-! ## The operations -/

variable (setup : Setup Lib known)

/-- `chaos_init_tracee_sync`. -/
def traceeSync (lib : Lib) (index : Index) (state : State Lib known) :
    State Lib known :=
  (state.setCell lib index
    ((state.cells lib index).sync (setup.maxRules lib) (state.snapshot lib))).record
      (.synced lib index (slotted (setup.maxRules lib) (state.snapshot lib)))

/-- The number of the file that a write goes to. -/
def fileNumber (lib : Lib) (index : Index) (state : State Lib known) : Nat :=
  if (state.cells lib index).file = 0 then setup.number lib (state.created lib)
  else (state.cells lib index).file

/-- The write of `chaos_init_tracee_write`, the slots having been synchronised. -/
def writeSynced (lib : Lib) (index : Index) (state : State Lib known) : State Lib known :=
  let cell := state.cells lib index
  let number := fileNumber setup lib index state
  { state.setCell lib index { cell with pending := false, file := number } with
    files := Function.update state.files lib
      (Function.update (state.files lib) number
        (some ⟨imageOf (state.table.entries index),
          linesOf (setup.maxRules lib) (state.snapshot lib) cell⟩))
    created :=
      if cell.file = 0 then
        Function.update state.created lib (state.created lib + 1)
      else state.created
    log := .wrote lib index number :: state.log }

/-- `chaos_init_tracee_write`. -/
def chaosInitTraceeWrite (lib : Lib) (index : Index) (state : State Lib known) :
    State Lib known :=
  writeSynced setup lib index (traceeSync setup lib index state)

/-- `chaos_init_tracee_report` for a slot of an entry. -/
def chaosInitTraceeReport (lib : Lib) (index : Index) (state : State Lib known) :
    State Lib known :=
  let cell := state.cells lib index
  if cell.total + 1 ≤ chaosHitsEager then
    chaosInitTraceeWrite setup lib index
      (state.setCell lib index { cell with total := cell.total + 1 })
  else
    state.setCell lib index { cell with total := cell.total + 1, pending := true }

/-- `chaos_hit_record` of the slot of a rule, hit by a process: the count, and the report. -/
def chaosHitRecord (lib : Lib) (index : Index) (rule : Nat) (image : Image) (text : Bytes)
    (state : State Lib known) : State Lib known :=
  chaosInitTraceeReport setup lib index
    ((state.setCell lib index ((state.cells lib index).hit rule)).record (.hit lib image text))

/-- A round of `chaos_init_tracee_drop`. -/
def dropLib (index : Index) (state : State Lib known) (lib : Lib) : State Lib known :=
  let written :=
    if (state.cells lib index).pending then chaosInitTraceeWrite setup lib index state
    else state
  let cell := written.cells lib index
  (written.setCell lib index
    { cell with slots := .empty, total := 0, file := 0 }).record
      (.freed lib index (imageOf (written.table.entries index)) cell.file)

/-- `chaos_init_tracee_drop`, but for the entry itself. -/
def chaosInitTraceeDrop (state : State Lib known) (index : Index) : State Lib known :=
  setup.libs.foldl (dropLib setup index) state

/-- `chaos_init_tracee_of` for a thread of a process: the entry, and the state. -/
def traceeOf (population : Population) (tid : Nat) (image : Image) (state : State Lib known) :
    Option (Index × State Lib known) :=
  (chaosInitTraceeOf population.lookup tid state.table).map
    fun (index, table, dropped) =>
      let dropped := dropped.foldl (chaosInitTraceeDrop setup) state
      (index,
        { dropped with
          table := table
          log := .asked image ::
            if table.serial = state.table.serial then dropped.log
            else .got index :: dropped.log })

/--
`chaos_init_tracee_hit` for a rule of the active snapshot that matches a call of a thread,
and what the decider does with the slot.
-/
def chaosInitTraceeHit (population : Population) (lib : Lib) (tid rule : Nat)
    (fires : Bool) (state : State Lib known) : State Lib known :=
  match (state.snapshot lib).texts[rule]?, population.lookup tid with
  | some text, some image =>
      match traceeOf setup population tid image state with
      | none => state
      | some (index, entered) =>
          let synced := traceeSync setup lib index entered
          if rule < (synced.cells lib index).slots.rows.length ∧ fires then
            chaosHitRecord setup lib index rule image text synced
          else synced
  | _, _ => state

/-- A round of `chaos_init_tracee_flush`. -/
def flushCell (all : Bool) (state : State Lib known) (place : Lib × Index) : State Lib known :=
  let cell := state.cells place.1 place.2
  if (state.table.entries place.2).tgid ≠ 0 ∧
      (cell.pending = true ∨ all = true ∧ cell.total ≠ 0) then
    chaosInitTraceeWrite setup place.1 place.2 state
  else state

/-- `chaos_init_tracee_flush`. -/
def chaosInitTraceeFlush (all : Bool) (state : State Lib known) : State Lib known :=
  (setup.libs ×ˢ List.finRange chaosInitMaxTracees).foldl (flushCell setup all) state

/-! ## Runs -/

/-- What happens next. -/
inductive Label (Lib : Type*) (known : Set Bytes) where
  /-- A thread's process is looked up. -/
  | enter (population : Population) (tid : Nat)
  /-- A rule of a library matches a thread's call, and fires or not. -/
  | hit (population : Population) (lib : Lib) (tid rule : Nat) (fires : Bool)
  | flush (all : Bool)
  /-- A library loads rules; its load counter grows. -/
  | reload (lib : Lib) (texts : RuleTexts known) (skipped : Nat)

/-- The processes that a step looks at. -/
def Label.population : Label Lib known → Option Population
  | .enter population _ => some population
  | .hit population _ _ _ _ => some population
  | .flush _ => none
  | .reload _ _ _ => none

/-- One step of the supervisor. -/
def step (state : State Lib known) : Label Lib known → State Lib known
  | .enter population tid =>
      match population.lookup tid with
      | none => state
      | some image => ((traceeOf setup population tid image state).map Prod.snd).getD state
  | .hit population lib tid rule fires =>
      chaosInitTraceeHit setup population lib tid rule fires state
  | .flush all => chaosInitTraceeFlush setup all state
  | .reload lib texts skipped =>
      { state with
        snapshot := Function.update state.snapshot lib
          { texts with
            load := (state.snapshot lib).load + skipped + 1
            loaded := Nat.succ_pos _ } }

/-- No process was seen; every library has loaded rules. -/
def initial (snapshot : Lib → Snapshot known) : State Lib known where
  table := .initial
  cells _ _ := .empty
  snapshot := snapshot
  files _ _ := none
  created _ := 0
  log := []

/-- The state after a list of labels. -/
def after (snapshot : Lib → Snapshot known) (labels : List (Label Lib known)) :
    State Lib known :=
  labels.foldl (step setup) (initial snapshot)

omit setup in
theorem cells_setCell_same (state : State Lib known) (lib : Lib) (index : Index) (cell : Cell) :
    (state.setCell lib index cell).cells lib index = cell := by
  rw [State.setCell]
  dsimp only
  rw [Function.update_self, Function.update_self]

omit setup in
theorem cells_setCell_of_ne (state : State Lib known) {lib library : Lib} {index other : Index}
    (differ : ¬ (library = lib ∧ other = index)) (cell : Cell) :
    (state.setCell lib index cell).cells library other = state.cells library other := by
  rw [State.setCell]
  dsimp only
  by_cases same : library = lib
  · subst same
    rw [Function.update_self, Function.update_of_ne fun here => differ ⟨rfl, here⟩]
  · rw [Function.update_of_ne same]

omit setup in
theorem setCell_setCell (state : State Lib known) (lib : Lib) (index : Index)
    (first second : Cell) :
    (state.setCell lib index first).setCell lib index second =
      state.setCell lib index second := by
  rw [State.setCell, State.setCell, State.setCell]
  dsimp only
  rw [Function.update_self, Function.update_idem, Function.update_idem]

end ChaosLibs.Init.TraceeState
