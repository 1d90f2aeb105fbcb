import ChaosLibs.Common.CString
import ChaosLibs.Machine.LabelledRun
import Mathlib.Logic.Function.Basic

/-!
# The writer of the hits file

`chaos_hit_record` and the report hook of the libraries (`chaos_io_config_report_hits`
and its siblings), with the reloads that publish new snapshots, one access to shared
memory a step.  All writes succeed.

The check of a slot's generation and the addition to its count are one step here.  The
order of a slot's hits is the order of their additions, so that a hit is its number.
-/

namespace ChaosLibs.Common.HitsReport

open ChaosLibs.Common.CString
open ChaosLibs.Machine

/-! ## What the threads share -/

/-- A rule of a snapshot: its text and its slot. -/
structure Rule where
  text : Bytes
  slot : Nat
deriving DecidableEq, Repr

/--
`chaos_hit_slot_t`; `requested` is the last hit whose report has been requested, and is
not read.
-/
structure Slot where
  count : Nat
  generation : Nat
  requested : Nat
deriving DecidableEq, Repr

/-- A line of the hits file; `none` is the line of an entry that has been cleared. -/
abbrev Line := Option (Rule × Nat)

/-- Where the owner of a reload is. -/
inductive Reload where
  | idle
  | cleared
  | filled
deriving DecidableEq, Repr

/-- A thread in a wrapper, `chaos_hit_record` or the report hook. -/
inductive Pc where
  | idle
  /-- It holds a copy of a rule. -/
  | matched (slot generation : Nat)
  /-- It has counted its hit. -/
  | counted (slot generation number : Nat)
  /-- It has read `pending` as 0. -/
  | requesting (slot generation number : Nat)
  /-- It asks whether a write is due. -/
  | requested
  | acquire
  | sample
  /-- `while (pending != 0)`, with the snapshot it has sampled. -/
  | loop (snapshot : Bool)
  | clear (snapshot : Bool)
  /-- `chaos_hits_write_for` is called. -/
  | begin (snapshot : Bool)
  /-- It formats a line a step. -/
  | format (snapshot : Bool) (count : Nat) (lines : List Line)
  | release
  | recheck
deriving DecidableEq, Repr

/-- The two snapshots, the slots, the two flags and the file. -/
structure State where
  snapshots : Bool → List Rule
  active : Bool
  slots : Nat → Slot
  pending : Bool
  writing : Bool
  file : List Line
  reload : Reload
  threads : Nat → Pc

/-- No rules, no hits and no file. -/
def State.initial : State where
  snapshots _ := []
  active := false
  slots _ := ⟨0, 0, 0⟩
  pending := false
  writing := false
  file := []
  reload := .idle
  threads _ := .idle

/-- The rules that are matched. -/
def State.rules (state : State) : List Rule :=
  state.snapshots state.active

/-! ## Steps -/

/-- What a thread does next, where it has a choice. -/
inductive Choice where
  /-- A rule is matched. -/
  | hit (rule : Rule)
  /-- The hook is called with `NULL`. -/
  | poll
  /-- Whether the first hits or the interval make a write due. -/
  | due (now : Bool)
  | go

/-- A move of a thread or of the owner of the reload. -/
inductive Label where
  | thread (mover : Nat) (choice : Choice)
  | clearNext
  | fillNext (rules : List Rule)
  | publish

/-- The report of a hit has been requested. -/
def Slot.request (slot : Slot) (generation number : Nat) : Slot :=
  if slot.generation = generation then
    { slot with requested := max slot.requested number }
  else slot

/-- The line of an entry. -/
def State.line (state : State) (snapshot : Bool) (index : Nat) : Line :=
  (state.snapshots snapshot)[index]?.map fun rule =>
    (rule, (state.slots rule.slot).count)

/-- The report of a thread's hit has been requested. -/
def State.request (state : State) (slot generation number : Nat) : Nat → Slot :=
  Function.update state.slots slot ((state.slots slot).request generation number)

/-- A step of a thread: what it shares, and where it is next. -/
def threadStep (state : State) : Pc → Choice → Option (State × Pc)
  | .idle, .hit rule =>
      if rule ∈ state.rules then
        some (state, .matched rule.slot (state.slots rule.slot).generation)
      else none
  | .idle, .poll => some (state, if state.pending then .acquire else .idle)
  | .matched slot generation, .go =>
      if (state.slots slot).generation = generation then
        let number := (state.slots slot).count + 1
        some
          ({ state with
              slots := Function.update state.slots slot
                { state.slots slot with count := number } },
            .counted slot generation number)
      else some (state, .idle)
  | .counted slot generation number, .go =>
      if state.pending then
        some ({ state with slots := state.request slot generation number }, .requested)
      else some (state, .requesting slot generation number)
  | .requesting slot generation number, .go =>
      some
        ({ state with
            pending := true
            slots := state.request slot generation number },
          .requested)
  | .requested, .due now => some (state, if now then .acquire else .idle)
  | .acquire, .go =>
      if state.writing then some (state, .idle)
      else some ({ state with writing := true }, .sample)
  | .sample, .go => some (state, .loop state.active)
  | .loop snapshot, .go =>
      some (state, if state.pending then .clear snapshot else .release)
  | .clear snapshot, .go => some ({ state with pending := false }, .begin snapshot)
  | .begin snapshot, .go =>
      some (state, .format snapshot (state.snapshots snapshot).length [])
  | .format snapshot count lines, .go =>
      if lines.length < count then
        some
          (state, .format snapshot count (lines ++ [state.line snapshot lines.length]))
      else some ({ state with file := lines }, .loop snapshot)
  | .release, .go => some ({ state with writing := false }, .recheck)
  | .recheck, .go => some (state, if state.pending then .acquire else .idle)
  | _, _ => none

/-- `chaos_hits_assign` has given every rule its own slot, or one that nobody has. -/
def State.assigns (state : State) (rules : List Rule) : Bool :=
  rules.all fun rule =>
    rule ∈ state.rules || state.rules.all fun other => other.slot != rule.slot

/-- The slots after `chaos_hits_assign`: new rules begin at 0. -/
def State.assigned (state : State) (rules : List Rule) (slot : Nat) : Slot :=
  if rules.any fun rule => rule.slot == slot && decide (rule ∉ state.rules) then
    { state.slots slot with count := 0, requested := 0 }
  else state.slots slot

/-- The slots after `chaos_hits_release`: those without a rule get a new generation. -/
def State.released (state : State) (slot : Nat) : Slot :=
  if (state.rules.any fun rule => rule.slot == slot) &&
      (state.snapshots (!state.active)).all fun rule => rule.slot != slot then
    { state.slots slot with generation := (state.slots slot).generation + 1 }
  else state.slots slot

/-- One step. -/
def step (state : State) : Label → Option State
  | .thread mover choice =>
      (threadStep state (state.threads mover) choice).map fun (after, pc) =>
        { after with threads := Function.update state.threads mover pc }
  | .clearNext =>
      if state.reload = .idle then
        some
          { state with
            snapshots := Function.update state.snapshots (!state.active) []
            reload := .cleared }
      else none
  | .fillNext rules =>
      if state.reload = .cleared ∧ state.assigns rules then
        some
          { state with
            snapshots := Function.update state.snapshots (!state.active) rules
            slots := state.assigned rules
            reload := .filled }
      else none
  | .publish =>
      if state.reload = .filled then
        some
          { state with
            active := !state.active
            slots := state.released
            reload := .idle }
      else none

/-! ## What is reported -/

/-- The hit that a thread has counted and whose report it has yet to request. -/
def Pc.asks : Pc → Option (Nat × Nat × Nat)
  | .counted slot generation number | .requesting slot generation number =>
      some (slot, generation, number)
  | _ => none

/--
When no writer is at work and none is wanted, every counted hit of every rule of the
active snapshot is in the file, unless the thread that has counted it has yet to request
its report.
-/
def Reported (state : State) : Prop :=
  state.writing = false → state.pending = false →
    ∀ rule ∈ state.rules, ∀ number, 0 < number →
      number ≤ (state.slots rule.slot).count →
        (∃ thread, (state.threads thread).asks =
          some (rule.slot, (state.slots rule.slot).generation, number)) ∨
        ∃ count, some (rule, count) ∈ state.file ∧ number ≤ count

/-- The snapshot that a thread is writing out. -/
def Pc.writes : Pc → Option Bool
  | .begin snapshot | .format snapshot _ _ => some snapshot
  | _ => none

/--
A writer clears the pending flag with a snapshot that has every rule that has been hit,
and no snapshot is rewritten that a writer is writing out.
-/
def Current (state : State) : Label → Prop
  | .thread mover _ =>
      ∀ snapshot, state.threads mover = .clear snapshot →
        ∀ rule ∈ state.rules, (state.slots rule.slot).requested ≠ 0 →
          rule ∈ state.snapshots snapshot
  | .clearNext | .fillNext _ =>
      ∀ thread, (state.threads thread).writes ≠ some (!state.active)
  | .publish => True

end ChaosLibs.Common.HitsReport
