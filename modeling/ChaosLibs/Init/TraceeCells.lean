import ChaosLibs.Init.TraceeSlots
import Mathlib.Data.Set.Function

/-!
# What a library keeps for a process

The slots, the total, the pending flag and the hits file that one library keeps for one
entry of the table of `chaos_init_tracee.c`.  A log, which nothing reads, tells what
happened to the entry and what its process hit, newest first; what the library keeps is a
function of that log, and what it has written covers what it has counted.
-/

namespace ChaosLibs.Init.TraceeCells

open ChaosLibs.Common.CString
open ChaosLibs.Init.TraceeSlots

/-- `CHAOS_HITS_EAGER`. -/
def chaosHitsEager : Nat := 64

/-- A process image: the id of its process, and its identity. -/
abbrev Image := Nat × Nat

/-! ## The log of one entry -/

/-- What concerns one library, one entry and one process. -/
inductive CellEvent where
  /-- A process gets the entry, or the entry is freed. -/
  | start
  /-- The slots are brought to the rules of a snapshot. -/
  | synced (texts : List Bytes)
  /-- The process hits a rule. -/
  | hit (text : Bytes)
  /-- The hits file with a number is written. -/
  | wrote (number : Nat)

/--
The hits of a rule text since the process got the entry, or since the entry was last
synchronised with a snapshot without the text.
-/
def counted (text : Bytes) : List CellEvent → Nat
  | [] => 0
  | .start :: _ => 0
  | .synced texts :: story => if text ∈ texts then counted text story else 0
  | .hit other :: story => counted text story + if other = text then 1 else 0
  | .wrote _ :: story => counted text story

/-- All hits since the process got the entry. -/
def hitsOf : List CellEvent → Nat
  | [] => 0
  | .start :: _ => 0
  | .hit _ :: story => hitsOf story + 1
  | _ :: story => hitsOf story

/-- There was a hit since the file was last written. -/
def unwritten : List CellEvent → Bool
  | [] => false
  | .start :: _ => false
  | .hit _ :: _ => true
  | .wrote _ :: _ => false
  | .synced _ :: story => unwritten story

/-- The file that was last written; 0 before the first. -/
def lastWrote : List CellEvent → Nat
  | [] => 0
  | .start :: _ => 0
  | .wrote number :: _ => number
  | _ :: story => lastWrote story

/-- The texts that the slots were last brought to. -/
def lastSynced : List CellEvent → List Bytes
  | [] => []
  | .start :: _ => []
  | .synced texts :: _ => texts
  | _ :: story => lastSynced story

/-! ## What is kept -/

/-- The rule texts of a file. -/
structure RuleTexts (known : Set Bytes) where
  texts : List Bytes
  nodup : texts.Nodup
  known : ∀ text ∈ texts, text ∈ known

/-- What `snapshot` of a library reports: the rule texts and the load counter. -/
structure Snapshot (known : Set Bytes) extends RuleTexts known where
  load : Nat
  loaded : 0 < load

/-- What a library keeps for an entry; `file` is 0 before the first write. -/
structure Cell where
  slots : ProcessSlots Nat
  total : Nat
  pending : Bool
  file : Nat

/-- What a library keeps for a free entry. -/
def Cell.empty : Cell :=
  ⟨.empty, 0, false, 0⟩

/-- A hits file: the image it was created for, and its lines. -/
structure HitsFile where
  image : Image
  lines : List (Bytes × Nat)

/-- The count that a file has for a rule text. -/
def recorded (text : Bytes) (file : Option HitsFile) : Nat :=
  match file with
  | none => 0
  | some file => (file.lines.lookup text).getD 0

variable {known : Set Bytes}

/-- The rules of a snapshot that have slots. -/
def slotted (maxRules : Nat) (snapshot : Snapshot known) : List Bytes :=
  snapshot.texts.take maxRules

/-- `chaos_init_tracee_sync` of what a library keeps for an entry. -/
def Cell.sync (maxRules : Nat) (snapshot : Snapshot known) (cell : Cell) : Cell :=
  { cell with
    slots := chaosInitTraceeSync maxRules (fun _ => 0) snapshot.texts snapshot.load
      cell.slots }

/-- The count of `chaos_hit_record` in the slot of a rule. -/
def Cell.hit (rule : Nat) (cell : Cell) : Cell :=
  { cell with
    slots :=
      { cell.slots with
        rows := cell.slots.rows.modify rule fun row => { row with slot := row.slot + 1 } } }

/-- The lines that `chaos_hits_write_for` formats. -/
def linesOf (maxRules : Nat) (snapshot : Snapshot known) (cell : Cell) : List (Bytes × Nat) :=
  (slotted maxRules snapshot).zip (cell.slots.rows.map Row.slot)

/-! ## What the log tells of it -/

/--
What a library keeps for a process agrees with the log: `own` is the file that it has
created for the process, and what is not pending is in it.
-/
structure CellKept (maxRules : Nat) (snapshot : Snapshot known) (image : Image) (cell : Cell)
    (own : Option HitsFile) (story : List CellEvent) : Prop where
  rows : cell.slots.rows =
    (lastSynced story).map fun text => ⟨chaosInitHash text, counted text story⟩
  knownTexts : ∀ text ∈ lastSynced story, text ∈ known
  behind : cell.slots.generation ≤ snapshot.load
  current : cell.slots.generation = snapshot.load →
    lastSynced story = slotted maxRules snapshot
  unlisted : ∀ text, text ∉ lastSynced story → counted text story = 0
  total : cell.total = hitsOf story
  pending : cell.pending = unwritten story
  file : cell.file = lastWrote story
  present : cell.file ≠ 0 → own ≠ none
  owner : ∀ file, own = some file → file.image = image
  saved : cell.pending = false → ∀ text, counted text story ≤ recorded text own

variable {maxRules : Nat} {snapshot : Snapshot known} {image : Image} {cell : Cell}
variable {own : Option HitsFile} {story : List CellEvent}

theorem known_of_slotted {text : Bytes} (member : text ∈ slotted maxRules snapshot) :
    text ∈ known :=
  snapshot.known text (List.mem_of_mem_take member)

/-- A process that gets the entry has nothing. -/
theorem cellKept_start (story : List CellEvent) :
    CellKept maxRules snapshot image .empty none (.start :: story) where
  rows := rfl
  knownTexts := fun _ member => absurd member List.not_mem_nil
  behind := Nat.zero_le _
  current := fun same => absurd same snapshot.loaded.ne
  unlisted := fun _ _ => rfl
  total := rfl
  pending := rfl
  file := rfl
  present := fun named => absurd rfl named
  owner := fun _ none => absurd none (Option.some_ne_none _).symm
  saved := fun _ _ => Nat.zero_le _

/-- Another snapshot of a later load. -/
theorem CellKept.reload (kept : CellKept maxRules snapshot image cell own story)
    {next : Snapshot known} (later : snapshot.load < next.load) :
    CellKept maxRules next image cell own story :=
  { kept with
    behind := (kept.behind.trans_lt later).le
    current := fun same => absurd same (kept.behind.trans_lt later).ne }

/-! ## Synchronisation -/

/-- A synchronisation finds the slot of a text by its hash. -/
theorem slot_find {texts : List Bytes} (listed : ∀ text ∈ texts, text ∈ known)
    (injective : Set.InjOn chaosInitHash known) (slot : Bytes → Nat) {text : Bytes}
    (here : text ∈ known) :
    (((texts.map fun text => (⟨chaosInitHash text, slot text⟩ : Row Nat)).find? fun row =>
        row.hash == chaosInitHash text).map Row.slot).getD 0 =
      if text ∈ texts then slot text else 0 := by
  induction texts with
  | nil => rfl
  | cons first others induction =>
      rw [List.map_cons, List.find?_cons]
      by_cases same : text = first
      · rw [same, if_pos List.mem_cons_self, beq_self_eq_true]
        rfl
      · have differ : (chaosInitHash first == chaosInitHash text) = false :=
          beq_eq_false_iff_ne.mpr fun equal =>
            same (injective here (listed first List.mem_cons_self) equal.symm)
        rw [differ]
        refine (induction fun text member => listed text (List.mem_cons_of_mem _ member)).trans ?_
        exact if_congr (by rw [List.mem_cons, or_iff_right same]) rfl rfl

/-- Counts move to the slots of the new snapshot. -/
theorem CellKept.sync (kept : CellKept maxRules snapshot image cell own story)
    (injective : Set.InjOn chaosInitHash known) :
    CellKept maxRules snapshot image (cell.sync maxRules snapshot) own
      (.synced (slotted maxRules snapshot) :: story) where
  rows := by
    rw [Cell.sync, chaosInitTraceeSync]
    dsimp only [lastSynced]
    by_cases same : cell.slots.generation = snapshot.load
    · rw [if_pos same, kept.rows, kept.current same]
      refine List.map_congr_left fun text member => ?_
      rw [counted, if_pos member]
    · rw [if_neg same]
      refine List.map_congr_left fun text member => ?_
      have listed : text ∈ slotted maxRules snapshot := member
      rw [rowOf, kept.rows, slot_find kept.knownTexts injective _ (known_of_slotted listed),
        counted, if_pos listed]
      split
      · rfl
      · next absent => rw [kept.unlisted text absent]
  knownTexts := fun _ member => known_of_slotted member
  behind := by
    rw [Cell.sync, generation_chaosInitTraceeSync]
  current := fun _ => rfl
  unlisted := fun _ absent => if_neg absent
  total := kept.total
  pending := kept.pending
  file := kept.file
  present := kept.present
  owner := kept.owner
  saved := by
    intro written text
    rw [counted]
    split
    · exact kept.saved written text
    · exact Nat.zero_le _

theorem generation_sync (snapshot : Snapshot known) (cell : Cell) :
    (cell.sync maxRules snapshot).slots.generation = snapshot.load :=
  generation_chaosInitTraceeSync

/-! ## Writes -/

theorem lookup_zip_map (texts : List Bytes) (slot : Bytes → Nat) (text : Bytes) :
    (((texts.zip (texts.map slot)).lookup text).getD 0) =
      if text ∈ texts then slot text else 0 := by
  induction texts with
  | nil => rfl
  | cons first others induction =>
      rw [List.map_cons, List.zip_cons_cons, List.lookup_cons]
      by_cases same : text = first
      · rw [same, if_pos List.mem_cons_self, beq_self_eq_true]
        rfl
      · rw [beq_eq_false_iff_ne.mpr same]
        refine induction.trans ?_
        exact if_congr (by rw [List.mem_cons, or_iff_right same]) rfl rfl

/-- The lines of a synchronised entry are its counts. -/
theorem CellKept.recorded_linesOf (kept : CellKept maxRules snapshot image cell own story)
    (synced : cell.slots.generation = snapshot.load) (text : Bytes) :
    recorded text (some ⟨image, linesOf maxRules snapshot cell⟩) = counted text story := by
  rw [recorded, linesOf, kept.rows, ← kept.current synced, List.map_map]
  refine (lookup_zip_map _ _ text).trans ?_
  split
  · rfl
  · next absent => exact (kept.unlisted text absent).symm

/-- A write of a synchronised entry covers what it has counted. -/
theorem CellKept.write (kept : CellKept maxRules snapshot image cell own story)
    (synced : cell.slots.generation = snapshot.load) (number : Nat) :
    CellKept maxRules snapshot image { cell with pending := false, file := number }
      (some ⟨image, linesOf maxRules snapshot cell⟩) (.wrote number :: story) :=
  { kept with
    pending := rfl
    file := rfl
    present := fun _ => Option.some_ne_none _
    owner := by
      rintro file same
      cases same
      rfl
    saved := fun _ text => (kept.recorded_linesOf synced text).ge }

/-! ## Hits -/

theorem nodup_slotted (snapshot : Snapshot known) : (slotted maxRules snapshot).Nodup :=
  snapshot.nodup.sublist (List.take_sublist _ _)

/-- One slot goes up: that of one text, in a list without repetitions. -/
theorem modify_map_of_nodup {texts : List Bytes} (nodup : texts.Nodup) {rule : Nat}
    {text : Bytes} (listed : texts[rule]? = some text) (slot : Bytes → Nat) :
    ((texts.map fun other => (⟨chaosInitHash other, slot other⟩ : Row Nat)).modify rule
        fun row => { row with slot := row.slot + 1 }) =
      texts.map fun other =>
        ⟨chaosInitHash other, slot other + if text = other then 1 else 0⟩ := by
  refine List.ext_getElem? fun index => ?_
  rw [List.getElem?_modify, List.getElem?_map, List.getElem?_map]
  cases there : texts[index]? with
  | none => rfl
  | some other =>
      by_cases same : rule = index
      · subst same
        cases listed.symm.trans there
        simp
      · have differ : text ≠ other := by
          rintro rfl
          exact same ((List.getElem?_inj (List.getElem?_eq_some_iff.mp listed).1 nodup).mp
            (listed.trans there.symm))
        simp [same, differ]

/-- A hit is counted in the slot of its text, and is still to be written. -/
theorem CellKept.strike (kept : CellKept maxRules snapshot image cell own story)
    (synced : cell.slots.generation = snapshot.load) {rule : Nat} {text : Bytes}
    (listed : (slotted maxRules snapshot)[rule]? = some text) :
    CellKept maxRules snapshot image
      { cell.hit rule with total := cell.total + 1, pending := true } own
      (.hit text :: story) where
  rows := by
    change cell.slots.rows.modify rule _ = (lastSynced story).map _
    rw [kept.rows, kept.current synced]
    exact modify_map_of_nodup (nodup_slotted snapshot) listed fun text => counted text story
  knownTexts := kept.knownTexts
  behind := kept.behind
  current := kept.current
  unlisted := by
    intro other absent
    have differ : text ≠ other := by
      rintro rfl
      have member := List.mem_of_getElem? listed
      rw [← kept.current synced] at member
      exact absent member
    rw [counted, kept.unlisted other absent, if_neg differ]
  total := congrArg (· + 1) kept.total
  pending := rfl
  file := kept.file
  present := kept.present
  owner := kept.owner
  saved := fun written => absurd written Bool.noConfusion

end ChaosLibs.Init.TraceeCells
