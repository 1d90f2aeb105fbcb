import ChaosLibs.Common.CString
import ChaosLibs.Machine.Indices
import Mathlib.Data.List.FinRange
import Mathlib.Data.Fintype.Card
import Mathlib.Data.Finset.Card

/-!
# Hit slots

The slot pool of `chaos_hits.h`: what a slot holds, the claim word that packs
a claim count with the low half of its generation, the stores of the reload
owner, and the calls that rewrite a whole pool (`chaos_hits_pool_reset`,
`chaos_hits_pool_after_fork`).

A pool holds two slots for each rule a library allows, so it is indexed by
`Fin (2 * limit)`: a slot pointer is an `Option` of such an index, `none`
standing for `NULL`, and a pointer outside the pool cannot be built.

Words are naturals.  `count`, `claimed` and `state` stay below `2 ^ 64`.
`generation` counts the releases of the slot; the 64-bit word the code
compares is its value modulo `2 ^ 64`, and every comparison below says so.
-/

namespace ChaosLibs.Common.HitSlots

open ChaosLibs.Common.CString

/-- `chaos_hit_slot`; `report` says whether a report hook is set. -/
structure HitSlot where
  count : Nat
  claimed : Nat
  state : Nat
  report : Bool
  generation : Nat
  used : Bool
deriving DecidableEq, Repr

/-- A zero-initialised slot of static storage. -/
def HitSlot.zero : HitSlot :=
  ⟨0, 0, 0, false, 0, false⟩

variable {limit : Nat}

/-- An index into the pool of a library with at most `limit` rules. -/
abbrev SlotId (limit : Nat) := Fin (2 * limit)

/-- The slot pool of a library. -/
abbrev Pool (limit : Nat) := SlotId limit → HitSlot

/-! ## Claim words -/

/-- `chaos_hit_claims_none`: zero claims, tagged with the low half of `generation`. -/
def chaosHitClaimsNone (generation : Nat) : Nat :=
  generation % 2 ^ 32 * 2 ^ 32

/-- `chaos_hit_claims`: the claim count in the low half of a claim word. -/
def chaosHitClaims (claimed : Nat) : Nat :=
  claimed % 2 ^ 32

/-- `claimed & ~0xffffffff`: the tag of a claim word, in place. -/
def chaosHitClaimsTag (claimed : Nat) : Nat :=
  claimed / 2 ^ 32 * 2 ^ 32

/-- `chaos_hit_slot_current` of a slot that is not `NULL`. -/
def chaosHitSlotCurrent (slot : HitSlot) (generation : Nat) : Bool :=
  slot.generation % 2 ^ 64 == generation % 2 ^ 64

@[simp]
theorem chaosHitClaims_none (generation : Nat) :
    chaosHitClaims (chaosHitClaimsNone generation) = 0 := by
  simp [chaosHitClaims, chaosHitClaimsNone]

@[simp]
theorem chaosHitClaimsTag_none (generation : Nat) :
    chaosHitClaimsTag (chaosHitClaimsNone generation) =
      chaosHitClaimsNone generation := by
  simp [chaosHitClaimsTag, chaosHitClaimsNone]

/-- A claim below the saturation bound stays in the low half of the word. -/
theorem chaosHitClaimsTag_succ
    {claimed : Nat} (unsaturated : chaosHitClaims claimed ≠ 2 ^ 32 - 1) :
    chaosHitClaimsTag (claimed + 1) = chaosHitClaimsTag claimed := by
  simp only [chaosHitClaims, chaosHitClaimsTag] at *
  omega

theorem chaosHitClaims_succ
    {claimed : Nat} (unsaturated : chaosHitClaims claimed ≠ 2 ^ 32 - 1) :
    chaosHitClaims (claimed + 1) = chaosHitClaims claimed + 1 := by
  simp only [chaosHitClaims] at *
  omega

/-- Tags identify generations that are less than `2 ^ 32` apart. -/
theorem generation_eq_of_claimsNone_eq
    {older newer : Nat} (ordered : older ≤ newer) (close : newer < older + 2 ^ 32)
    (sameTag : chaosHitClaimsNone older = chaosHitClaimsNone newer) :
    older = newer := by
  simp only [chaosHitClaimsNone] at sameTag
  omega

/-! ## Stores of the reload owner -/

/-- One store of the reload owner into the pool. -/
inductive SlotStore (limit : Nat) where
  /-- `count = 0`. -/
  | clearCount (slot : SlotId limit)
  /-- `claimed = chaos_hit_claims_none(generation)`. -/
  | tagClaims (slot : SlotId limit)
  /-- `state = 0`. -/
  | clearState (slot : SlotId limit)
  /-- `used = 1`. -/
  | hold (slot : SlotId limit)
  /-- `report = report`. -/
  | hook (slot : SlotId limit)
  /-- `used = 0`. -/
  | drop (slot : SlotId limit)
  /-- `__sync_fetch_and_add(&generation, 1)`. -/
  | bump (slot : SlotId limit)
deriving DecidableEq, Repr

/-- The slot a store writes to. -/
def SlotStore.slot : SlotStore limit → SlotId limit
  | .clearCount slot | .tagClaims slot | .clearState slot | .hold slot
  | .hook slot | .drop slot | .bump slot => slot

/-- What a store does to the slot it writes to. -/
def SlotStore.write : SlotStore limit → HitSlot → HitSlot
  | .clearCount _, slot => { slot with count := 0 }
  | .tagClaims _, slot =>
      { slot with claimed := chaosHitClaimsNone slot.generation }
  | .clearState _, slot => { slot with state := 0 }
  | .hold _, slot => { slot with used := true }
  | .hook _, slot => { slot with report := true }
  | .drop _, slot => { slot with used := false }
  | .bump _, slot => { slot with generation := slot.generation + 1 }

/-- Change one slot of a pool. -/
def Pool.modify
    (pool : Pool limit) (slot : SlotId limit) (change : HitSlot → HitSlot) :
    Pool limit :=
  Function.update pool slot (change (pool slot))

@[simp]
theorem Pool.modify_same
    (pool : Pool limit) (slot : SlotId limit) (change : HitSlot → HitSlot) :
    pool.modify slot change slot = change (pool slot) := by
  simp [Pool.modify]

@[simp]
theorem Pool.modify_of_ne
    (pool : Pool limit) {slot other : SlotId limit} (different : other ≠ slot)
    (change : HitSlot → HitSlot) :
    pool.modify slot change other = pool other := by
  simp [Pool.modify, different]

theorem Pool.modify_apply
    (pool : Pool limit) (slot other : SlotId limit) (change : HitSlot → HitSlot) :
    pool.modify slot change other =
      if other = slot then change (pool other) else pool other := by
  by_cases same : other = slot
  · subst same
    simp
  · simp [same]

/-- Carry out one store. -/
def SlotStore.apply (store : SlotStore limit) (pool : Pool limit) : Pool limit :=
  pool.modify store.slot store.write

/-! Each word of a slot after a store. -/

theorem count_apply
    (store : SlotStore limit) (pool : Pool limit) (slot : SlotId limit) :
    (store.apply pool slot).count =
      if store = .clearCount slot then 0 else (pool slot).count := by
  by_cases same : slot = store.slot
  · subst same
    cases store <;> simp [SlotStore.apply, SlotStore.slot, SlotStore.write]
  · cases store <;>
      simp_all [SlotStore.apply, SlotStore.slot, eq_comm]

theorem claimed_apply
    (store : SlotStore limit) (pool : Pool limit) (slot : SlotId limit) :
    (store.apply pool slot).claimed =
      if store = .tagClaims slot then
        chaosHitClaimsNone (pool slot).generation
      else
        (pool slot).claimed := by
  by_cases same : slot = store.slot
  · subst same
    cases store <;> simp [SlotStore.apply, SlotStore.slot, SlotStore.write]
  · cases store <;>
      simp_all [SlotStore.apply, SlotStore.slot, eq_comm]

theorem state_apply
    (store : SlotStore limit) (pool : Pool limit) (slot : SlotId limit) :
    (store.apply pool slot).state =
      if store = .clearState slot then 0 else (pool slot).state := by
  by_cases same : slot = store.slot
  · subst same
    cases store <;> simp [SlotStore.apply, SlotStore.slot, SlotStore.write]
  · cases store <;>
      simp_all [SlotStore.apply, SlotStore.slot, eq_comm]

theorem used_apply
    (store : SlotStore limit) (pool : Pool limit) (slot : SlotId limit) :
    (store.apply pool slot).used =
      if store = .hold slot then true
      else if store = .drop slot then false
      else (pool slot).used := by
  by_cases same : slot = store.slot
  · subst same
    cases store <;> simp [SlotStore.apply, SlotStore.slot, SlotStore.write]
  · cases store <;>
      simp_all [SlotStore.apply, SlotStore.slot, eq_comm]

theorem generation_apply
    (store : SlotStore limit) (pool : Pool limit) (slot : SlotId limit) :
    (store.apply pool slot).generation =
      if store = .bump slot then (pool slot).generation + 1
      else (pool slot).generation := by
  by_cases same : slot = store.slot
  · subst same
    cases store <;> simp [SlotStore.apply, SlotStore.slot, SlotStore.write]
  · cases store <;>
      simp_all [SlotStore.apply, SlotStore.slot, eq_comm]

/-! ## Search of the assignment -/

/-- A rule text and the slot a snapshot gives it. -/
structure TextSlot (limit : Nat) where
  text : Bytes
  slot : Option (SlotId limit)
deriving DecidableEq, Repr

/--
First search of `chaos_hits_assign`: the slot of the first rule of the active
snapshot that has one and whose text is `text`.
-/
def inheritedSlot (active : List (TextSlot limit)) (text : Bytes) :
    Option (SlotId limit) :=
  active.findSome? fun rule => if rule.text = text then rule.slot else none

/--
Second search of `chaos_hits_assign`: the first unused slot at or after
`free_slot`; `none` when the search reaches the end of the pool.
-/
def nextFreeSlot (pool : Pool limit) (freeSlot : Nat) : Option (SlotId limit) :=
  (List.finRange (2 * limit)).find? fun slot =>
    decide (freeSlot ≤ slot.val) && !(pool slot).used

theorem exists_of_inheritedSlot
    {active : List (TextSlot limit)} {text : Bytes} {slot : SlotId limit}
    (found : inheritedSlot active text = some slot) :
    ∃ rule ∈ active, rule.text = text ∧ rule.slot = some slot := by
  rcases List.exists_of_findSome?_eq_some found with ⟨rule, member, taken⟩
  by_cases same : rule.text = text
  · exact ⟨rule, member, same, by simpa [same] using taken⟩
  · simp [same] at taken

theorem slot_eq_none_of_inheritedSlot
    {active : List (TextSlot limit)} {text : Bytes}
    (missing : inheritedSlot active text = none)
    {rule : TextSlot limit} (member : rule ∈ active) (same : rule.text = text) :
    rule.slot = none := by
  have skipped := List.findSome?_eq_none_iff.mp missing rule member
  simpa [same] using skipped

theorem nextFreeSlot_unused
    {pool : Pool limit} {freeSlot : Nat} {slot : SlotId limit}
    (found : nextFreeSlot pool freeSlot = some slot) :
    (pool slot).used = false := by
  have accepted := List.find?_some found
  simp only [Bool.and_eq_true, Bool.not_eq_true'] at accepted
  exact accepted.2

/-- Every slot the search passes over is used. -/
theorem used_of_lt_nextFreeSlot
    {pool : Pool limit} {freeSlot : Nat} {slot other : SlotId limit}
    (found : nextFreeSlot pool freeSlot = some slot)
    (from' : freeSlot ≤ other.val) (passed : other < slot) :
    (pool other).used = true := by
  rcases List.find?_eq_some_iff_append.mp found with
    ⟨-, before, after, split, skipped⟩
  have sorted : (before ++ slot :: after).Pairwise (· < ·) := by
    rw [← split]
    exact List.pairwise_lt_finRange _
  have position : other ∈ before ++ slot :: after := by
    rw [← split]
    exact List.mem_finRange other
  have member : other ∈ before := by
    rcases List.mem_append.mp position with inside | later
    · exact inside
    · rcases List.mem_cons.mp later with same | inside
      · exact absurd (same ▸ passed) (lt_irrefl _)
      · have beyond :=
          (List.pairwise_cons.mp (List.pairwise_append.mp sorted).2.1).1
            other inside
        exact absurd beyond (not_lt.mpr passed.le)
  simpa [from'] using skipped other member

theorem used_of_nextFreeSlot_eq_none
    {pool : Pool limit} {freeSlot : Nat}
    (missing : nextFreeSlot pool freeSlot = none)
    {slot : SlotId limit} (from' : freeSlot ≤ slot.val) :
    (pool slot).used = true := by
  have rejected :=
    List.find?_eq_none.mp missing slot (List.mem_finRange slot)
  simpa [from'] using rejected

/-- The test of `chaos_hits_release` for one slot: used, and kept by no rule. -/
def leaves (pool : Pool limit) (kept : List (Option (SlotId limit)))
    (slot : SlotId limit) : Bool :=
  (pool slot).used && !kept.contains (some slot)

/-! ## Whole-pool calls -/

/-- What `chaos_hits_pool_reset` leaves in one slot. -/
def HitSlot.reset (slot : HitSlot) : HitSlot :=
  { slot with
    used := false
    count := 0
    state := 0
    generation := slot.generation + 1
    claimed := chaosHitClaimsNone (slot.generation + 1) }

/-- `chaos_hits_pool_reset`. -/
def chaosHitsPoolReset (pool : Pool limit) : Pool limit :=
  fun slot => (pool slot).reset

/-- What `chaos_hits_release` leaves in one slot once the whole loop has run. -/
def HitSlot.released (slot : HitSlot) : HitSlot :=
  { slot with used := false, generation := slot.generation + 1 }

/-- `chaos_hits_release`, run to its end. -/
def chaosHitsRelease (pool : Pool limit) (kept : List (Option (SlotId limit))) :
    Pool limit :=
  fun slot => if leaves pool kept slot then (pool slot).released else pool slot

/-- What `chaos_hits_pool_after_fork` does to a slot after its release pass. -/
def HitSlot.afterFork (slot : HitSlot) : HitSlot :=
  { slot with
    count := 0
    claimed := chaosHitClaimsNone slot.generation
    state := if slot.state = 3 then 1 else slot.state }

/-- `chaos_hits_pool_after_fork`. -/
def chaosHitsPoolAfterFork
    (pool : Pool limit) (active : List (Option (SlotId limit))) : Pool limit :=
  fun slot => (chaosHitsRelease pool active slot).afterFork

theorem used_chaosHitsPoolAfterFork
    (pool : Pool limit) (active : List (Option (SlotId limit)))
    (slot : SlotId limit) :
    (chaosHitsPoolAfterFork pool active slot).used = true ↔
      (pool slot).used = true ∧ some slot ∈ active := by
  simp only [chaosHitsPoolAfterFork, HitSlot.afterFork, chaosHitsRelease, leaves]
  by_cases used : (pool slot).used = true <;>
    by_cases kept : some slot ∈ active <;>
      simp [HitSlot.released, used, kept]

end ChaosLibs.Common.HitSlots
