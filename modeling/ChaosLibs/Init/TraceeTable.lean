import ChaosLibs.Init.TraceeSlots
import Mathlib.Data.List.FinRange
import Mathlib.Logic.Function.Basic

/-!
# The process table

The table of `chaos_init_tracee.c`, and how a process gets its entry.  One scan
looks for the entry, drops the one of a process that had the same id, finds a
free entry and ranks the entries by their last use; only on a full table are the
entries of ended processes looked for, and only then is the oldest one dropped.

What a drop does to the libraries' slots is left to the users of the table, which
get the dropped entries in their order.
-/

namespace ChaosLibs.Init.TraceeTable

open ChaosLibs.Init.TraceeSlots

/-- An index of the table. -/
abbrev Index := Fin chaosInitMaxTracees

instance lawfulBEqIndex : LawfulBEq Index :=
  inferInstance

/-- `chaos_init_tracee_t`; `tgid` is 0 when free. -/
structure Tracee where
  tgid : Nat
  start : Nat
  age : Nat
  serial : Nat
deriving DecidableEq, Repr

/-- A table entry that was never used. -/
def Tracee.unused : Tracee :=
  ⟨0, 0, 0, 0⟩

/-- `g_chaos_init_tracees`, `g_chaos_init_age` and `g_chaos_init_serial`. -/
structure Table where
  entries : Index → Tracee
  age : Nat
  serial : Nat

/-- The table before any process was seen. -/
def Table.initial : Table :=
  ⟨fun _ => .unused, 0, 0⟩

/-- `CHAOS_INIT_PROCESS_OF`: the process of a thread, with its identity. -/
abbrev Lookup := Nat → Option (Nat × Nat)

/-- An entry is freed. -/
def freeEntry (entries : Index → Tracee) (index : Index) : Index → Tracee :=
  Function.update entries index { entries index with tgid := 0 }

/-- What a scan has found so far, and the entries it dropped. -/
structure Scan where
  entries : Index → Tracee
  free : Option Index
  oldest : Index
  dropped : List Index

/-- A round of the loop that does not return. -/
def scanRound (tgid : Nat) (scan : Scan) (index : Index) : Scan :=
  let entries :=
    if (scan.entries index).tgid = tgid then freeEntry scan.entries index
    else scan.entries
  { entries := entries
    free :=
      if (entries index).tgid = 0 ∧ scan.free = none then some index
      else scan.free
    oldest :=
      if (entries index).age < (entries scan.oldest).age then index
      else scan.oldest
    dropped :=
      if (scan.entries index).tgid = tgid then scan.dropped ++ [index]
      else scan.dropped }

/-- The loop of `chaos_init_tracee_of`: the entry of the process, if it has one. -/
def scanTable (tgid start : Nat) : List Index → Scan → Option Index × Scan
  | [], scan => (none, scan)
  | index :: rest, scan =>
      if (scan.entries index).tgid = tgid ∧
          (scan.entries index).start = start then
        (some index, scan)
      else
        scanTable tgid start rest (scanRound tgid scan index)

/-- Whether the process of an entry lives, with the image it had. -/
def unchanged (lookup : Lookup) (entry : Tracee) : Bool :=
  lookup entry.tgid == some (entry.tgid, entry.start)

/-- A round of `chaos_init_tracee_reclaim`. -/
def reclaimRound (lookup : Lookup) (scan : Scan) (index : Index) : Scan :=
  if unchanged lookup (scan.entries index) then scan
  else
    { scan with
      entries := freeEntry scan.entries index
      free := if scan.free = none then some index else scan.free
      dropped := scan.dropped ++ [index] }

/-- `chaos_init_tracee_reclaim`. -/
def chaosInitTraceeReclaim (lookup : Lookup) (scan : Scan) : Scan :=
  (List.finRange chaosInitMaxTracees).foldl (reclaimRound lookup) scan

/-- The entry for a new process, the others, and those that were dropped. -/
def makeRoom (lookup : Lookup) (scan : Scan) :
    Index × (Index → Tracee) × List Index :=
  let reclaimed :=
    if scan.free = none then chaosInitTraceeReclaim lookup scan else scan
  match reclaimed.free with
  | some index => (index, reclaimed.entries, reclaimed.dropped)
  | none =>
      (scan.oldest, freeEntry reclaimed.entries scan.oldest,
        reclaimed.dropped ++ [scan.oldest])

/-- The scan before its first round. -/
def Scan.begin (table : Table) : Scan :=
  ⟨table.entries, none, 0, []⟩

/--
`chaos_init_tracee_of`: the entry of the process of a thread, the table, and the
entries that were dropped; `none` when the thread is gone.
-/
def chaosInitTraceeOf (lookup : Lookup) (tid : Nat) (table : Table) :
    Option (Index × Table × List Index) :=
  (lookup tid).map fun (tgid, start) =>
    match scanTable tgid start (List.finRange chaosInitMaxTracees)
        (.begin table) with
    | (some index, scan) =>
        (index,
          { table with
            entries := Function.update scan.entries index
              { scan.entries index with age := table.age + 1 }
            age := table.age + 1 },
          scan.dropped)
    | (none, scan) =>
        let room := makeRoom lookup scan
        (room.1,
          { entries := Function.update room.2.1 room.1
              ⟨tgid, start, table.age + 1, table.serial + 1⟩
            age := table.age + 1
            serial := table.serial + 1 },
          room.2.2)

/-- `chaos_init_tracee_find`. -/
def chaosInitTraceeFind (table : Table) (tgid : Nat) : Option Index :=
  if tgid = 0 then none
  else (List.finRange chaosInitMaxTracees).find? fun index =>
    (table.entries index).tgid == tgid

/-! ## One entry for a process -/

/-- No two entries are of one process id. -/
def Single (entries : Index → Tracee) : Prop :=
  ∀ one other, (entries one).tgid ≠ 0 →
    (entries one).tgid = (entries other).tgid → one = other

/-! ## The scan -/

variable {lookup : Lookup} {tgid start : Nat} {scan : Scan}

theorem freeEntry_same (entries : Index → Tracee) (index : Index) :
    freeEntry entries index index = { entries index with tgid := 0 } :=
  Function.update_self _ _ _

theorem freeEntry_of_ne
    (entries : Index → Tracee) {index other : Index} (different : other ≠ index) :
    freeEntry entries index other = entries other :=
  Function.update_of_ne different _ _

theorem age_freeEntry (entries : Index → Tracee) (index other : Index) :
    (freeEntry entries index other).age = (entries other).age := by
  by_cases same : other = index
  · rw [same, freeEntry_same]
  · rw [freeEntry_of_ne entries same]

theorem entries_scanRound_of_ne
    {index other : Index} (different : other ≠ index) :
    (scanRound tgid scan index).entries other = scan.entries other := by
  unfold scanRound
  dsimp only
  split
  · exact freeEntry_of_ne _ different
  · rfl

theorem age_scanRound (index other : Index) :
    ((scanRound tgid scan index).entries other).age =
      (scan.entries other).age := by
  unfold scanRound
  dsimp only
  split
  · exact age_freeEntry _ _ _
  · rfl

/-- An entry of the process is found, and nothing was dropped on the way. -/
theorem scanTable_of_mem
    {indices : List Index} {index : Index} (member : index ∈ indices)
    (own : (scan.entries index).tgid = tgid ∧
      (scan.entries index).start = start)
    (single : ∀ other ∈ indices, (scan.entries other).tgid = tgid →
      other = index) :
    ∃ after, scanTable tgid start indices scan = (some index, after) ∧
      after.entries = scan.entries ∧ after.dropped = scan.dropped := by
  induction indices generalizing scan with
  | nil => cases member
  | cons head rest induction =>
      unfold scanTable
      by_cases here : head = index
      · rw [here, if_pos own]
        exact ⟨scan, rfl, rfl, rfl⟩
      · have other : (scan.entries head).tgid ≠ tgid :=
          fun same => here (single head List.mem_cons_self same)
        rw [if_neg fun same => other same.1]
        have entries : (scanRound tgid scan head).entries = scan.entries := by
          unfold scanRound
          dsimp only
          rw [if_neg other]
        have dropped : (scanRound tgid scan head).dropped = scan.dropped := by
          unfold scanRound
          dsimp only
          rw [if_neg other]
        have later : index ∈ rest := by
          rcases List.mem_cons.mp member with same | later
          · exact absurd same.symm here
          · exact later
        rw [← entries] at own single ⊢
        rcases induction later own
          (fun other inRest => single other (List.mem_cons_of_mem _ inRest)) with
            ⟨after, found, sameEntries, sameDropped⟩
        exact ⟨after, found, sameEntries, sameDropped.trans dropped⟩

/-- Without an entry of the process every round is made. -/
theorem scanTable_of_forall
    {indices : List Index} (distinct : indices.Nodup)
    (absent : ∀ index ∈ indices, ¬ ((scan.entries index).tgid = tgid ∧
      (scan.entries index).start = start)) :
    scanTable tgid start indices scan =
      (none, indices.foldl (scanRound tgid) scan) := by
  induction indices generalizing scan with
  | nil => rfl
  | cons head rest induction =>
      rcases List.nodup_cons.mp distinct with ⟨fresh, distinct⟩
      unfold scanTable
      rw [if_neg (absent head List.mem_cons_self), List.foldl_cons]
      apply induction distinct
      intro index member
      have different : index ≠ head := by
        rintro rfl
        exact fresh member
      rw [entries_scanRound_of_ne different]
      exact absent index (List.mem_cons_of_mem _ member)

/-- The entries at some indices that a test picks are freed, and no others. -/
structure Freed (drops : Tracee → Prop) (scan : Scan) (indices : List Index)
    (after : Scan) : Prop where
  dropped : ∀ index, index ∈ after.dropped ↔ index ∈ scan.dropped ∨
    index ∈ indices ∧ drops (scan.entries index)
  freed : ∀ index ∈ indices, drops (scan.entries index) →
    after.entries index = { scan.entries index with tgid := 0 }
  kept : ∀ index, index ∉ indices ∨ ¬ drops (scan.entries index) →
    after.entries index = scan.entries index

namespace Freed

variable {drops : Tracee → Prop} {middle after : Scan}

theorem nil : Freed drops scan [] scan where
  dropped := fun _ => ⟨Or.inl, fun found => found.elim id nofun⟩
  freed := nofun
  kept := fun _ _ => rfl

theorem ages
    {indices : List Index} (freed : Freed drops scan indices after)
    (index : Index) :
    (after.entries index).age = (scan.entries index).age := by
  by_cases picked : index ∈ indices ∧ drops (scan.entries index)
  · rw [freed.freed index picked.1 picked.2]
  · rw [freed.kept index (not_and_or.mp picked)]

/-- One round, and the rounds over other indices. -/
theorem cons
    {head : Index} {rest : List Index} (fresh : head ∉ rest)
    (first : Freed drops scan [head] middle)
    (others : Freed drops middle rest after) :
    Freed drops scan (head :: rest) after := by
  have same : ∀ index ∈ rest, middle.entries index = scan.entries index := by
    intro index member
    apply first.kept
    rw [List.mem_singleton]
    refine Or.inl ?_
    rintro rfl
    exact fresh member
  constructor
  · intro index
    rw [others.dropped, first.dropped, List.mem_singleton, List.mem_cons]
    constructor
    · rintro ((before | here) | ⟨later, drop⟩)
      · exact Or.inl before
      · exact Or.inr ⟨Or.inl here.1, here.2⟩
      · exact Or.inr ⟨Or.inr later, same index later ▸ drop⟩
    · rintro (before | ⟨here | later, drop⟩)
      · exact Or.inl (Or.inl before)
      · exact Or.inl (Or.inr ⟨here, drop⟩)
      · exact Or.inr ⟨later, (same index later).symm ▸ drop⟩
  · intro index member drop
    rcases List.mem_cons.mp member with rfl | later
    · rw [others.kept index (Or.inl fresh)]
      exact first.freed index (List.mem_singleton_self _) drop
    · have drop' : drops (middle.entries index) :=
        (same index later).symm ▸ drop
      rw [others.freed index later drop', same index later]
  · intro index out
    have first' : middle.entries index = scan.entries index := by
      apply first.kept
      rcases out with outside | stays
      · refine Or.inl fun here => outside ?_
        rw [List.mem_singleton.mp here]
        exact List.mem_cons_self
      · exact Or.inr stays
    rw [← first']
    apply others.kept
    rcases out with outside | stays
    · exact Or.inl fun later => outside (List.mem_cons_of_mem _ later)
    · exact Or.inr (first'.symm ▸ stays)

end Freed

/-- A round that frees its entry. -/
theorem freed_one
    {drops : Tracee → Prop} {after : Scan} {index : Index}
    (gone : drops (scan.entries index))
    (entries : after.entries = freeEntry scan.entries index)
    (dropped : after.dropped = scan.dropped ++ [index]) :
    Freed drops scan [index] after := by
  constructor
  · intro other
    rw [dropped, List.mem_append, List.mem_singleton]
    constructor
    · rintro (before | rfl)
      · exact Or.inl before
      · exact Or.inr ⟨rfl, gone⟩
    · rintro (before | ⟨here, -⟩)
      · exact Or.inl before
      · exact Or.inr here
  · intro other member _
    rw [entries, List.mem_singleton.mp member]
    exact freeEntry_same _ _
  · intro other out
    rw [entries]
    apply freeEntry_of_ne
    rintro rfl
    rcases out with outside | stays
    · exact outside (List.mem_singleton_self _)
    · exact stays gone

/-- A round that leaves its entry. -/
theorem freed_none
    {drops : Tracee → Prop} {after : Scan} {index : Index}
    (stays : ¬ drops (scan.entries index)) (entries : after.entries = scan.entries)
    (dropped : after.dropped = scan.dropped) : Freed drops scan [index] after := by
  refine ⟨fun other => ?_, ?_, fun other _ => congrFun entries other⟩
  · rw [dropped]
    refine ⟨Or.inl, ?_⟩
    rintro (before | ⟨here, gone⟩)
    · exact before
    · rw [List.mem_singleton.mp here] at gone
      exact absurd gone stays
  · intro other member gone
    rw [List.mem_singleton.mp member] at gone
    exact absurd gone stays

theorem freed_scanRound (index : Index) :
    Freed (fun entry => entry.tgid = tgid) scan [index]
      (scanRound tgid scan index) := by
  unfold scanRound
  by_cases drop : (scan.entries index).tgid = tgid
  · simp only [if_pos drop]
    exact freed_one drop rfl rfl
  · simp only [if_neg drop]
    exact freed_none drop rfl rfl

theorem freed_reclaimRound (index : Index) :
    Freed (fun entry => unchanged lookup entry = false) scan [index]
      (reclaimRound lookup scan index) := by
  unfold reclaimRound
  by_cases stays : unchanged lookup (scan.entries index) = true
  · rw [if_pos stays]
    exact freed_none (ne_false_of_eq_true stays) rfl rfl
  · rw [if_neg stays]
    exact freed_one (Bool.eq_false_of_not_eq_true stays) rfl rfl

theorem freed_foldl
    {drops : Tracee → Prop} {round : Scan → Index → Scan}
    (one : ∀ scan index, Freed drops scan [index] (round scan index))
    {indices : List Index} (distinct : indices.Nodup) :
    Freed drops scan indices (indices.foldl round scan) := by
  induction indices generalizing scan with
  | nil => exact Freed.nil
  | cons head rest induction =>
      rcases List.nodup_cons.mp distinct with ⟨fresh, distinct⟩
      exact Freed.cons fresh (one scan head) (induction distinct)

/-! ## The free and the oldest entry -/

/-- A free entry is one that was free, or was freed by the scan. -/
theorem free_scanRound (index : Index) :
    (scanRound tgid scan index).free =
      if ((scan.entries index).tgid = tgid ∨ (scan.entries index).tgid = 0) ∧
          scan.free = none then some index
      else scan.free := by
  unfold scanRound
  dsimp only
  by_cases drop : (scan.entries index).tgid = tgid
  · rw [if_pos drop, freeEntry_same]
    simp [drop]
  · rw [if_neg drop]
    simp [drop]

theorem free_foldl_scanRound
    {indices : List Index} (distinct : indices.Nodup) :
    ((indices.foldl (scanRound tgid) scan).free = none →
      scan.free = none ∧ ∀ index ∈ indices,
        (scan.entries index).tgid ≠ tgid ∧ (scan.entries index).tgid ≠ 0) ∧
    ∀ index, (indices.foldl (scanRound tgid) scan).free = some index →
      scan.free = some index ∨
        (scan.entries index).tgid = tgid ∨ (scan.entries index).tgid = 0 := by
  induction indices generalizing scan with
  | nil => exact ⟨fun none => ⟨none, nofun⟩, fun _ found => Or.inl found⟩
  | cons head rest induction =>
      rcases List.nodup_cons.mp distinct with ⟨fresh, distinct⟩
      rw [List.foldl_cons]
      rcases @induction (scanRound tgid scan head) distinct with ⟨full, free⟩
      have same : ∀ index ∈ rest,
          (scanRound tgid scan head).entries index = scan.entries index := by
        intro index member
        apply entries_scanRound_of_ne
        rintro rfl
        exact fresh member
      constructor
      · intro none
        rcases full none with ⟨here, later⟩
        rw [free_scanRound] at here
        split at here
        · cases here
        · rename_i taken
          refine ⟨here, List.forall_mem_cons.mpr ⟨?_, ?_⟩⟩
          · have neither := (not_and_or.mp taken).resolve_right
              (not_not_intro here)
            exact not_or.mp neither
          · intro index member
            rw [← same index member]
            exact later index member
      · intro index found
        rcases free index found with here | later
        · rw [free_scanRound] at here
          split at here
          · rename_i picked
            cases here
            exact Or.inr picked.1
          · exact Or.inl here
        · by_cases different : index = head
          · rw [different] at later ⊢
            rcases (@freed_scanRound tgid scan head) with
              ⟨-, freed, kept⟩
            by_cases drop : (scan.entries head).tgid = tgid
            · exact Or.inr (Or.inl drop)
            · rw [kept head (Or.inr drop)] at later
              exact Or.inr later
          · rw [entries_scanRound_of_ne different] at later
            exact Or.inr later

theorem free_foldl_reclaimRound
    {indices : List Index} (distinct : indices.Nodup) :
    ((indices.foldl (reclaimRound lookup) scan).free = none →
      scan.free = none ∧ ∀ index ∈ indices,
        unchanged lookup (scan.entries index) = true) ∧
    ∀ index, (indices.foldl (reclaimRound lookup) scan).free = some index →
      scan.free = some index ∨
        index ∈ indices ∧ unchanged lookup (scan.entries index) = false := by
  induction indices generalizing scan with
  | nil => exact ⟨fun none => ⟨none, nofun⟩, fun _ found => Or.inl found⟩
  | cons head rest induction =>
      rcases List.nodup_cons.mp distinct with ⟨fresh, distinct⟩
      rw [List.foldl_cons]
      rcases @induction (reclaimRound lookup scan head) distinct with ⟨full, free⟩
      have same : ∀ index ∈ rest,
          (reclaimRound lookup scan head).entries index =
            scan.entries index := by
        intro index member
        apply (freed_reclaimRound head).kept
        rw [List.mem_singleton]
        refine Or.inl ?_
        rintro rfl
        exact fresh member
      have freeHead : (reclaimRound lookup scan head).free =
          if unchanged lookup (scan.entries head) = false ∧
              scan.free = none then some head
          else scan.free := by
        unfold reclaimRound
        cases unchanged lookup (scan.entries head) with
        | true => simp
        | false => simp
      rw [freeHead] at full free
      constructor
      · intro none
        rcases full none with ⟨here, later⟩
        split at here
        · cases here
        · rename_i taken
          refine ⟨here, List.forall_mem_cons.mpr ⟨?_, ?_⟩⟩
          · have stays := (not_and_or.mp taken).resolve_right
              (not_not_intro here)
            exact Bool.eq_true_of_not_eq_false stays
          · intro index member
            rw [← same index member]
            exact later index member
      · intro index found
        rcases free index found with here | ⟨member, gone⟩
        · split at here
          · rename_i picked
            cases here
            exact Or.inr ⟨List.mem_cons_self, picked.1⟩
          · exact Or.inl here
        · rw [same index member] at gone
          exact Or.inr ⟨List.mem_cons_of_mem _ member, gone⟩

/-- The oldest entry is none older than any other. -/
theorem oldest_foldl_scanRound (indices : List Index) :
    (scan.entries (indices.foldl (scanRound tgid) scan).oldest).age ≤
        (scan.entries scan.oldest).age ∧
      ∀ index ∈ indices,
        (scan.entries (indices.foldl (scanRound tgid) scan).oldest).age ≤
          (scan.entries index).age := by
  induction indices generalizing scan with
  | nil => exact ⟨Nat.le_refl _, nofun⟩
  | cons head rest induction =>
      rw [List.foldl_cons]
      have ages := fun index => @age_scanRound tgid scan head index
      rcases @induction (scanRound tgid scan head) with ⟨first, others⟩
      simp only [ages] at first others
      have older : (scan.entries (scanRound tgid scan head).oldest).age ≤
            (scan.entries scan.oldest).age ∧
          (scan.entries (scanRound tgid scan head).oldest).age ≤
            (scan.entries head).age := by
        have oldest : (scanRound tgid scan head).oldest =
            if (scan.entries head).age < (scan.entries scan.oldest).age then head
            else scan.oldest := by
          change (if ((scanRound tgid scan head).entries head).age <
            ((scanRound tgid scan head).entries scan.oldest).age then head
              else scan.oldest) = _
          rw [ages, ages]
        rw [oldest]
        split
        · rename_i younger
          exact ⟨Nat.le_of_lt younger, Nat.le_refl _⟩
        · rename_i elder
          exact ⟨Nat.le_refl _, Nat.le_of_not_lt elder⟩
      refine ⟨Nat.le_trans first older.1, List.forall_mem_cons.mpr ⟨?_, others⟩⟩
      exact Nat.le_trans first older.2

/-! ## `chaos_init_tracee_of` -/

/-- A process that has an entry keeps it; only its age changes. -/
structure Finds (table : Table) (tgid start : Nat) (index : Index)
    (next : Table) (dropped : List Index) : Prop where
  own : (table.entries index).tgid = tgid ∧ (table.entries index).start = start
  here : next.entries index =
    { table.entries index with age := table.age + 1 }
  others : ∀ other, other ≠ index → next.entries other = table.entries other
  age : next.age = table.age + 1
  serial : next.serial = table.serial
  dropped : ∀ other, other ∉ dropped

/-- The table is full of living processes with their images, this one the oldest. -/
def Evicts (lookup : Lookup) (table : Table) (index : Index) : Prop :=
  (∀ other, (table.entries other).tgid ≠ 0 ∧
    unchanged lookup (table.entries other) = true) ∧
  ∀ other, (table.entries index).age ≤ (table.entries other).age

/-- A process without an entry gets one. -/
structure Allocates (lookup : Lookup) (table : Table) (tgid start : Nat)
    (index : Index) (next : Table) (dropped : List Index) : Prop where
  absent : ∀ other, ¬ ((table.entries other).tgid = tgid ∧
    (table.entries other).start = start)
  here : next.entries index = ⟨tgid, start, table.age + 1, table.serial + 1⟩
  age : next.age = table.age + 1
  serial : next.serial = table.serial + 1
  room : index ∈ dropped ∨ (table.entries index).tgid = 0
  kept : ∀ other, other ≠ index → other ∉ dropped →
    next.entries other = table.entries other
  freed : ∀ other, other ≠ index → other ∈ dropped →
    next.entries other = { table.entries other with tgid := 0 }
  same : ∀ other, (table.entries other).tgid = tgid → other ∈ dropped
  reason : ∀ other, other ∈ dropped →
    (table.entries other).tgid = tgid ∨
      unchanged lookup (table.entries other) = false ∨
        Evicts lookup table other

/-- Another entry that is in use was kept. -/
theorem Allocates.kept_of_used {lookup : Lookup} {table next : Table} {tgid start : Nat}
    {index other : Index} {dropped : List Index}
    (allocates : Allocates lookup table tgid start index next dropped)
    (different : other ≠ index) (used : (next.entries other).tgid ≠ 0) :
    other ∉ dropped ∧ next.entries other = table.entries other := by
  have stays : other ∉ dropped := by
    intro member
    rw [allocates.freed other different member] at used
    exact used rfl
  exact ⟨stays, allocates.kept other different stays⟩

/-- The entries of a table, less some that were dropped. -/
structure Less (gone : Index → Prop) (table : Table) (entries : Index → Tracee)
    (dropped : List Index) : Prop where
  dropped : ∀ other, other ∈ dropped ↔ gone other
  freed : ∀ other, gone other →
    entries other = { table.entries other with tgid := 0 }
  kept : ∀ other, ¬gone other → entries other = table.entries other

/-- A scan of a whole table. -/
theorem Freed.less
    {drops : Tracee → Prop} {after : Scan} {table : Table}
    (freed : Freed drops scan (List.finRange chaosInitMaxTracees) after)
    (same : scan.entries = table.entries) (nothing : ∀ other, other ∉ scan.dropped) :
    Less (fun other => drops (table.entries other)) table after.entries after.dropped := by
  have every := fun index : Index => List.mem_finRange index
  rw [← same]
  constructor
  · intro other
    rw [freed.dropped, or_iff_right (nothing other)]
    exact and_iff_right (every other)
  · intro other
    rw [← same]
    exact freed.freed other (every other)
  · intro other stays
    rw [← same]
    exact freed.kept other (Or.inr stays)

/-- An entry that is free now is given to the process. -/
theorem Less.allocates
    {gone : Index → Prop} {table : Table} {entries : Index → Tracee}
    {dropped : List Index} {index : Index}
    (less : Less gone table entries dropped)
    (absent : ∀ other, ¬ ((table.entries other).tgid = tgid ∧
      (table.entries other).start = start))
    (room : gone index ∨ (table.entries index).tgid = 0)
    (same : ∀ other, (table.entries other).tgid = tgid → gone other)
    (reason : ∀ other, gone other →
      (table.entries other).tgid = tgid ∨
        unchanged lookup (table.entries other) = false ∨ Evicts lookup table other) :
    Allocates lookup table tgid start index
      ⟨Function.update entries index ⟨tgid, start, table.age + 1, table.serial + 1⟩,
        table.age + 1, table.serial + 1⟩ dropped where
  absent := absent
  here := Function.update_self _ _ _
  age := rfl
  serial := rfl
  room := room.imp_left (less.dropped index).mpr
  kept other different out := by
    refine (Function.update_of_ne different _ _).trans (less.kept other ?_)
    exact fun drop => out ((less.dropped other).mpr drop)
  freed other different member :=
    (Function.update_of_ne different _ _).trans
      (less.freed other ((less.dropped other).mp member))
  same other own := (less.dropped other).mpr (same other own)
  reason other member := reason other ((less.dropped other).mp member)

/-- What the scan of a whole table comes to, when the process has no entry. -/
theorem makeRoom_spec
    {table : Table}
    (absent : ∀ other, ¬ ((table.entries other).tgid = tgid ∧
      (table.entries other).start = start)) :
    let room := makeRoom lookup
      ((List.finRange chaosInitMaxTracees).foldl (scanRound tgid) (.begin table))
    Allocates lookup table tgid start room.1
      ⟨Function.update room.2.1 room.1
          ⟨tgid, start, table.age + 1, table.serial + 1⟩,
        table.age + 1, table.serial + 1⟩ room.2.2 := by
  have distinct := List.nodup_finRange chaosInitMaxTracees
  have every := fun index : Index => List.mem_finRange index
  have freed := @freed_foldl (.begin table) _ _
    (fun scan index => @freed_scanRound tgid scan index) _ distinct
  rcases @free_foldl_scanRound tgid (.begin table) _ distinct with ⟨full, free⟩
  have oldest := (@oldest_foldl_scanRound tgid (.begin table)
    (List.finRange chaosInitMaxTracees)).2
  generalize (List.finRange chaosInitMaxTracees).foldl (scanRound tgid)
    (.begin table) = scan at freed full free oldest
  have less := @Freed.less _ _ _ table freed rfl nofun
  intro room
  have isRoom : room = makeRoom lookup scan := rfl
  clear_value room
  unfold makeRoom at isRoom
  cases found : scan.free with
  | some index =>
      simp only [found, reduceCtorEq, if_false] at isRoom
      subst isRoom
      exact less.allocates absent ((free index found).resolve_left nofun)
        (fun _ own => own) (fun _ own => Or.inl own)
  | none =>
      rcases full found with ⟨-, none⟩
      -- Nothing was dropped by the scan of a full table.
      have kept : scan.entries = table.entries := by
        funext other
        exact less.kept other (none other (every other)).1
      have nothing : ∀ other, other ∉ scan.dropped := fun other member =>
        (none other (every other)).1 ((less.dropped other).mp member)
      rw [if_pos found] at isRoom
      have reclaimed := @freed_foldl scan _ _
        (fun scan index => @freed_reclaimRound lookup scan index) _ distinct
      rcases @free_foldl_reclaimRound lookup scan _ distinct with
        ⟨noneGone, gone⟩
      change Freed _ scan _ (chaosInitTraceeReclaim lookup scan) at reclaimed
      change (chaosInitTraceeReclaim lookup scan).free = Option.none → _
        at noneGone
      change ∀ index, (chaosInitTraceeReclaim lookup scan).free = some index → _
        at gone
      generalize chaosInitTraceeReclaim lookup scan = after
        at isRoom reclaimed noneGone gone
      rw [kept] at noneGone gone
      have ended := reclaimed.less kept nothing
      cases place : after.free with
      | some index =>
          simp only [place] at isRoom
          subst isRoom
          refine ended.allocates absent (Or.inl ?_)
            (fun other own => absurd own (none other (every other)).1)
            (fun _ dead => Or.inr (Or.inl dead))
          rcases gone index place with before | ⟨-, here⟩
          · rw [found] at before
            cases before
          · exact here
      | none =>
          simp only [place] at isRoom
          subst isRoom
          have alive := (noneGone place).2
          have stays : ∀ other,
              ¬unchanged lookup (table.entries other) = false := by
            intro other dead
            rw [alive other (every other)] at dead
            cases dead
          -- The oldest entry is dropped in addition.
          have evicted : Less (· = scan.oldest) table
              (freeEntry after.entries scan.oldest)
              (after.dropped ++ [scan.oldest]) := by
            constructor
            · intro other
              rw [List.mem_append, List.mem_singleton, ended.dropped,
                or_iff_right (stays other)]
            · rintro other rfl
              rw [freeEntry_same, ended.kept _ (stays _)]
            · intro other different
              rw [freeEntry_of_ne _ different, ended.kept _ (stays _)]
          refine evicted.allocates absent (Or.inl rfl)
            (fun other own => absurd own (none other (every other)).1) ?_
          rintro other rfl
          refine Or.inr (Or.inr ⟨fun index => ?_, fun index => ?_⟩)
          · exact ⟨(none index (every index)).2, alive index (every index)⟩
          · exact oldest index (every index)

/-- What `chaos_init_tracee_of` does with the process it was asked for. -/
theorem chaosInitTraceeOf_spec
    {tid : Nat} {table next : Table} {index : Index} {dropped : List Index}
    (single : Single table.entries) (process : tgid ≠ 0)
    (identity : lookup tid = some (tgid, start))
    (result : chaosInitTraceeOf lookup tid table = some (index, next, dropped)) :
    Finds table tgid start index next dropped ∨
      Allocates lookup table tgid start index next dropped := by
  unfold chaosInitTraceeOf at result
  rw [identity, Option.map_some] at result
  dsimp only at result
  by_cases known : ∃ own, (table.entries own).tgid = tgid ∧
      (table.entries own).start = start
  · rcases known with ⟨own, same⟩
    have alone : ∀ other ∈ List.finRange chaosInitMaxTracees,
        (table.entries other).tgid = tgid → other = own := by
      intro other _ sameId
      apply single other own
      · rw [sameId]
        exact process
      · rw [sameId, same.1]
    rcases @scanTable_of_mem tgid start (.begin table) _ own
      (List.mem_finRange own) same alone with
        ⟨after, found, entries, nothing⟩
    rw [found] at result
    dsimp only at result
    cases result
    refine Or.inl ⟨same, ?_, ?_, rfl, rfl, ?_⟩
    · change Function.update after.entries index _ index = _
      rw [Function.update_self, entries]
      rfl
    · intro other different
      change Function.update after.entries index _ other = _
      rw [Function.update_of_ne different, entries]
      rfl
    · intro other member
      rw [nothing] at member
      cases member
  · have absent : ∀ other, ¬ ((table.entries other).tgid = tgid ∧
        (table.entries other).start = start) :=
      fun other same => known ⟨other, same⟩
    rw [@scanTable_of_forall tgid start (.begin table) _
      (List.nodup_finRange _) fun other _ => absent other] at result
    dsimp only at result
    have room := @makeRoom_spec lookup tgid start table absent
    generalize makeRoom lookup _ = place at result room
    cases result
    exact Or.inr room

/-- Only entries in use are dropped. -/
theorem used_of_dropped
    {tid : Nat} {table next : Table} {index : Index} {dropped : List Index}
    (single : Single table.entries) (process : tgid ≠ 0)
    (identity : lookup tid = some (tgid, start))
    (result : chaosInitTraceeOf lookup tid table = some (index, next, dropped)) :
    ∀ other ∈ dropped, (table.entries other).tgid ≠ 0 := by
  rcases chaosInitTraceeOf_spec single process identity result with found | allocated
  · exact fun other member => absurd member (found.dropped other)
  · unfold chaosInitTraceeOf at result
    rw [identity, Option.map_some] at result
    dsimp only at result
    have distinct := List.nodup_finRange chaosInitMaxTracees
    rw [@scanTable_of_forall tgid start (.begin table) _ distinct
      fun other _ => allocated.absent other] at result
    dsimp only at result
    have freed := @freed_foldl (.begin table) _ _
      (fun scan index => @freed_scanRound tgid scan index) _ distinct
    have full := (@free_foldl_scanRound tgid (.begin table) _ distinct).1
    generalize (List.finRange chaosInitMaxTracees).foldl (scanRound tgid)
      (.begin table) = scan at freed full result
    intro other member
    cases found : scan.free with
    | none => exact ((full found).2 other (List.mem_finRange other)).2
    | some free =>
        -- With a free entry, only those of the same process id are dropped.
        unfold makeRoom at result
        simp only [found, reduceCtorEq, if_false] at result
        cases result
        rcases (freed.dropped other).mp member with before | ⟨-, same⟩
        · cases before
        · exact fun zero => process (same.symm.trans zero)

/-- The table keeps at most one entry for a process id. -/
theorem single_chaosInitTraceeOf
    {tid : Nat} {table next : Table} {index : Index} {dropped : List Index}
    (single : Single table.entries) (process : tgid ≠ 0)
    (identity : lookup tid = some (tgid, start))
    (result : chaosInitTraceeOf lookup tid table = some (index, next, dropped)) :
    Single next.entries := by
  rcases chaosInitTraceeOf_spec single process identity result with
    found | allocated
  · have ids : ∀ other, (next.entries other).tgid = (table.entries other).tgid := by
      intro other
      by_cases same : other = index
      · rw [same, found.here]
      · rw [found.others other same]
    intro one other used same
    rw [ids] at used
    rw [ids, ids] at same
    exact single one other used same
  · -- Any other used entry was there before, of another process id.
    have before : ∀ other, other ≠ index → (next.entries other).tgid ≠ 0 →
        next.entries other = table.entries other ∧
          (table.entries other).tgid ≠ tgid := by
      intro other different used
      by_cases member : other ∈ dropped
      · rw [allocated.freed other different member] at used
        exact absurd rfl used
      · exact ⟨allocated.kept other different member,
          fun same => member (allocated.same other same)⟩
    have here : (next.entries index).tgid = tgid := by
      rw [allocated.here]
    intro one other used same
    by_cases oneHere : one = index
    · by_cases otherHere : other = index
      · rw [oneHere, otherHere]
      · rw [same] at used
        rcases before other otherHere used with ⟨kept, different⟩
        rw [oneHere, here, kept] at same
        exact absurd same.symm different
    · rcases before one oneHere used with ⟨kept, different⟩
      by_cases otherHere : other = index
      · rw [otherHere, here, kept] at same
        exact absurd same different
      · have usedOther := used
        rw [same] at usedOther
        rcases before other otherHere usedOther with ⟨keptOther, -⟩
        rw [kept] at used
        rw [kept, keptOther] at same
        exact single one other used same

end ChaosLibs.Init.TraceeTable
