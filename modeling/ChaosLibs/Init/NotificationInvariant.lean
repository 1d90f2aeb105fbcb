import ChaosLibs.Init.Supervisor

/-!
# Every notification is held once

What the supervisor holds is the notification it is at and the entries of its
queue.  The invariant: no id is held or answered twice, no two calls that are
held are the same, and every notification that was received is held until it is
answered or withdrawn.
-/

namespace ChaosLibs.Init.NotificationInvariant

open ChaosLibs.Init.DelayQueue
open ChaosLibs.Init.Supervisor
open ChaosLibs.Init.Verdict
open ChaosLibs.Machine

/-- The ids the supervisor holds, with their calls. -/
def held (state : State) : List (Nat × Call) :=
  state.control.current.toList ++
    state.queue.map fun entry => (entry.id, entry.call)

/-- The ids of the replies sent. -/
def replied (state : State) : List Nat :=
  state.replies.map Reply.id

/-! ## Ids in their places -/

/-- No id below `next` is held or answered twice, and no call is held twice. -/
structure Placed (held : List (Nat × Call)) (replied : List Nat) (next : Nat) :
    Prop where
  once : (held.map Prod.fst ++ replied).Nodup
  issued : ∀ id ∈ held.map Prod.fst ++ replied, id < next
  calls : (held.map Prod.snd).Nodup

namespace Placed

variable {before after : List (Nat × Call)} {replies : List Nat}
variable {next id : Nat} {made : Call}

theorem perm
    (placed : Placed before replies next) (same : before.Perm after) :
    Placed after replies next where
  once := (((same.map Prod.fst).append_right replies).nodup_iff).mp placed.once
  issued := fun id member =>
    placed.issued id
      (((same.map Prod.fst).append_right replies).mem_iff.mpr member)
  calls := (same.map Prod.snd).nodup_iff.mp placed.calls

theorem mono
    {later : Nat} (placed : Placed before replies next) (grows : next ≤ later) :
    Placed before replies later where
  once := placed.once
  issued := fun id member => Nat.lt_of_lt_of_le (placed.issued id member) grows
  calls := placed.calls

/-- An id that is held goes to the replies. -/
theorem answer (placed : Placed ((id, made) :: before) replies next) :
    Placed before (id :: replies) next where
  once := List.perm_middle.nodup_iff.mpr placed.once
  issued := fun other member =>
    placed.issued other (List.perm_middle.mem_iff.mp member)
  calls := (List.nodup_cons.mp placed.calls).2

/-- An id is let go. -/
theorem drop (placed : Placed ((id, made) :: before) replies next) :
    Placed before replies next where
  once := (List.nodup_cons.mp placed.once).2
  issued := fun other member =>
    placed.issued other (List.mem_cons_of_mem _ member)
  calls := (List.nodup_cons.mp placed.calls).2

theorem fresh (placed : Placed ((id, made) :: before) replies next) :
    id ∉ before.map Prod.fst ++ replies ∧ made ∉ before.map Prod.snd :=
  ⟨(List.nodup_cons.mp placed.once).1, (List.nodup_cons.mp placed.calls).1⟩

/-- A new id is held. -/
theorem take
    (placed : Placed before replies next)
    (fresh : id ∉ before.map Prod.fst ++ replies) (issued : id < next)
    (other : made ∉ before.map Prod.snd) :
    Placed ((id, made) :: before) replies next where
  once := List.nodup_cons.mpr ⟨fresh, placed.once⟩
  issued := List.forall_mem_cons.mpr ⟨issued, placed.issued⟩
  calls := List.nodup_cons.mpr ⟨other, placed.calls⟩

/-- A held call takes a new id. -/
theorem rebind
    {old : Nat}
    (placed : Placed (before ++ (old, made) :: after) replies next)
    (fresh : id ∉ (before ++ (old, made) :: after).map Prod.fst ++ replies)
    (issued : id < next) :
    Placed (before ++ (id, made) :: after) replies next := by
  have front := placed.perm List.perm_middle
  have others : id ∉ (before ++ after).map Prod.fst ++ replies := by
    intro member
    apply fresh
    have moved :
        ((before ++ (old, made) :: after).map Prod.fst ++ replies).Perm
          (old :: ((before ++ after).map Prod.fst ++ replies)) :=
      (List.perm_middle.map Prod.fst).append_right replies
    exact moved.mem_iff.mpr (List.mem_cons_of_mem _ member)
  exact (front.drop.take others issued front.fresh.2).perm List.perm_middle.symm

end Placed

/-! ## Notifications -/

/-- The kernel's notifications are of different threads, under different ids. -/
structure Kept (live : List Notification) (next : Nat) : Prop where
  threads : (live.map fun notification => notification.call.tid).Nodup
  ids : (live.map Notification.id).Nodup
  issued : ∀ notification ∈ live, notification.id < next

/-- A notification received is held, for its own call; the others are not known yet. -/
structure Received (live : List Notification) (held : List (Nat × Call))
    (replied : List Nat) (deadline : Nat → Nat) : Prop where
  received : ∀ notification ∈ live, notification.received = true →
    notification.id ∈ held.map Prod.fst
  unreceived : ∀ notification ∈ live, notification.received = false →
    notification.id ∉ held.map Prod.fst ++ replied ∧
      deadline notification.id = 0
  calls : ∀ notification ∈ live, ∀ pair ∈ held, pair.1 = notification.id →
    pair.2 = notification.call

namespace Kept

variable {live : List Notification} {next : Nat}

theorem sublist
    {others : List Notification} (kept : Kept live next)
    (fewer : others.Sublist live) :
    Kept others next where
  threads := kept.threads.sublist (fewer.map _)
  ids := kept.ids.sublist (fewer.map _)
  issued := fun notification member =>
    kept.issued notification (fewer.subset member)

theorem eq_of_tid
    (kept : Kept live next) {left right : Notification} (one : left ∈ live)
    (other : right ∈ live) (same : left.call.tid = right.call.tid) :
    left = right :=
  List.inj_on_of_nodup_map kept.threads one other same

theorem eq_of_id
    (kept : Kept live next) {left right : Notification} (one : left ∈ live)
    (other : right ∈ live) (same : left.id = right.id) :
    left = right :=
  List.inj_on_of_nodup_map kept.ids one other same

end Kept

/-! ## Due times -/

/-- Entries are due at the deadline of their id, and no reply was sent before it. -/
structure Punctual (state : State) : Prop where
  due : ∀ entry ∈ state.queue,
    entry.dueMs = state.deadline entry.id ∧ 0 < entry.dueMs
  kept : ∀ reply ∈ state.replies, state.deadline reply.id ≤ reply.sentAtMs
  current : ∀ pair, state.control.current = some pair →
    state.deadline pair.1 = 0
  unissued : ∀ id, state.nextId ≤ id → state.deadline id = 0

/-- The clock readings kept are in the past, and no sum of them is too large. -/
structure Clocks (state : State) : Prop where
  bounded : state.clock < 2 ^ 63
  flushed : state.lastFlushMs ≤ state.clock
  reading : ∀ now, state.control = .draining now →
    state.lastFlushMs ≤ now ∧ now ≤ state.clock
  delay : ∀ id made verdict, state.control = .decided id made verdict →
    verdict.delayMs < 2 ^ 32

/-- What holds in every state. -/
structure Sound (state : State) : Prop where
  placed : Placed (held state) (replied state) state.nextId
  kept : Kept state.live state.nextId
  received : Received state.live (held state) (replied state) state.deadline
  punctual : Punctual state
  clocks : Clocks state

theorem sound_initial {clock : Nat} (bounded : clock < 2 ^ 63) :
    Sound (initial clock) where
  placed := ⟨List.nodup_nil, nofun, List.nodup_nil⟩
  kept := ⟨List.nodup_nil, List.nodup_nil, nofun⟩
  received := ⟨nofun, nofun, nofun⟩
  punctual := ⟨nofun, nofun, nofun, fun _ _ => rfl⟩
  clocks := ⟨bounded, Nat.zero_le _, nofun, nofun⟩

/-! ## What one operation does to the notifications -/

namespace Received

variable {live : List Notification} {before after : List (Nat × Call)}
variable {replies : List Nat} {deadline : Nat → Nat} {id : Nat} {made : Call}

theorem sublist
    {others : List Notification}
    (received : Received live before replies deadline)
    (fewer : others.Sublist live) :
    Received others before replies deadline where
  received := fun notification member =>
    received.received notification (fewer.subset member)
  unreceived := fun notification member =>
    received.unreceived notification (fewer.subset member)
  calls := fun notification member =>
    received.calls notification (fewer.subset member)

theorem perm
    (received : Received live before replies deadline)
    (same : before.Perm after) :
    Received live after replies deadline where
  received := fun notification member was =>
    (same.map Prod.fst).mem_iff.mp
      (received.received notification member was)
  unreceived := fun notification member was =>
    ⟨fun held =>
      (received.unreceived notification member was).1
        (((same.map Prod.fst).append_right replies).mem_iff.mpr held),
      (received.unreceived notification member was).2⟩
  calls := fun notification member pair held =>
    received.calls notification member pair (same.mem_iff.mpr held)

/-- An id is answered; its notification is gone. -/
theorem answer
    (received : Received live ((id, made) :: before) replies deadline) :
    Received (live.filter fun notification => notification.id != id) before
      (id :: replies) deadline where
  received := by
    intro notification member was
    rcases List.mem_filter.mp member with ⟨member, other⟩
    rcases List.mem_cons.mp (received.received notification member was) with
      same | held
    · exact absurd same (bne_iff_ne.mp other)
    · exact held
  unreceived := by
    intro notification member was
    rcases List.mem_filter.mp member with ⟨member, -⟩
    rcases received.unreceived notification member was with ⟨fresh, none⟩
    exact ⟨fun held => fresh (List.perm_middle.mem_iff.mp held), none⟩
  calls := fun notification member pair held =>
    received.calls notification (List.mem_filter.mp member).1 pair
      (List.mem_cons_of_mem _ held)

/-- An id whose notification is gone is let go. -/
theorem drop
    (received : Received live ((id, made) :: before) replies deadline)
    (gone : ∀ notification ∈ live, notification.id ≠ id) :
    Received live before replies deadline where
  received := by
    intro notification member was
    rcases List.mem_cons.mp (received.received notification member was) with
      same | held
    · exact absurd same (gone notification member)
    · exact held
  unreceived := fun notification member was =>
    ⟨fun held =>
      (received.unreceived notification member was).1
        (List.mem_cons_of_mem _ held),
      (received.unreceived notification member was).2⟩
  calls := fun notification member pair held =>
    received.calls notification member pair (List.mem_cons_of_mem _ held)

/-- The deadline of an id that is held changes. -/
theorem update
    (received : Received live before replies deadline)
    (held : id ∈ before.map Prod.fst) (due : Nat) :
    Received live before replies (Function.update deadline id due) where
  received := received.received
  unreceived := by
    intro notification member was
    rcases received.unreceived notification member was with ⟨fresh, none⟩
    have other : notification.id ≠ id := by
      rintro rfl
      exact fresh (List.mem_append_left _ held)
    exact ⟨fresh, (Function.update_of_ne other _ _).trans none⟩
  calls := received.calls

/-- A new notification is neither received nor known. -/
theorem notify
    {next invocation : Nat} (received : Received live before replies deadline)
    (placed : Placed before replies next) (none : deadline next = 0) :
    Received (⟨next, made, invocation, false⟩ :: live) before replies
      deadline where
  received := by
    intro notification member was
    rcases List.mem_cons.mp member with rfl | member
    · cases was
    · exact received.received notification member was
  unreceived := by
    intro notification member was
    rcases List.mem_cons.mp member with rfl | member
    · exact ⟨fun held => Nat.lt_irrefl _ (placed.issued _ held), none⟩
    · exact received.unreceived notification member was
  calls := by
    intro notification member pair held same
    rcases List.mem_cons.mp member with rfl | member
    · have known : next < next := by
        refine placed.issued next (List.mem_append_left _ ?_)
        exact List.mem_map.mpr ⟨pair, held, same⟩
      exact absurd known (Nat.lt_irrefl _)
    · exact received.calls notification member pair held same

end Received

@[simp]
theorem id_markReceived (id : Nat) (notification : Notification) :
    (markReceived id notification).id = notification.id := by
  unfold markReceived
  split <;> rfl

@[simp]
theorem call_markReceived (id : Nat) (notification : Notification) :
    (markReceived id notification).call = notification.call := by
  unfold markReceived
  split <;> rfl

theorem Kept.mark
    {live : List Notification} {next : Nat} (kept : Kept live next) (id : Nat) :
    Kept (live.map (markReceived id)) next where
  threads := by
    have same : (live.map (markReceived id)).map
        (fun notification => notification.call.tid) =
          live.map fun notification => notification.call.tid := by
      rw [List.map_map]
      apply List.map_congr_left
      intro notification _
      rw [Function.comp_apply, call_markReceived]
    exact same ▸ kept.threads
  ids := by
    have same : (live.map (markReceived id)).map
        Notification.id = live.map Notification.id := by
      rw [List.map_map]
      apply List.map_congr_left
      intro notification _
      rw [Function.comp_apply, id_markReceived]
    exact same ▸ kept.ids
  issued := by
    intro notification member
    rcases List.mem_map.mp member with ⟨source, inside, rfl⟩
    rw [id_markReceived]
    exact kept.issued source inside

/--
A notification is received: its id is now held for its call, in the place of an id
under which the same call was held, if there was one.
-/
theorem Received.hand
    {live : List Notification} {before after : List (Nat × Call)}
    {replies : List Nat} {deadline deadlineAfter : Nat → Nat} {next : Nat}
    {notification : Notification}
    (received : Received live before replies deadline) (kept : Kept live next)
    (member : notification ∈ live)
    (here : (notification.id, notification.call) ∈ after)
    (known : ∀ pair ∈ after,
      pair = (notification.id, notification.call) ∨ pair ∈ before)
    (others : ∀ pair ∈ before, pair ∈ after ∨ pair.2 = notification.call)
    (deadlines : ∀ id, id ≠ notification.id →
      deadlineAfter id = deadline id) :
    Received (live.map (markReceived notification.id)) after replies
      deadlineAfter where
  received := by
    intro marked inside holds
    rcases List.mem_map.mp inside with ⟨source, sourceMember, rfl⟩
    rw [id_markReceived]
    by_cases same : source.id = notification.id
    · rw [same]
      exact List.mem_map_of_mem here
    · have earlier : source.received = true := by
        unfold markReceived at holds
        rw [if_neg same] at holds
        exact holds
      rcases List.mem_map.mp (received.received source sourceMember earlier)
        with ⟨pair, inBefore, is⟩
      rcases others pair inBefore with inAfter | call
      · exact List.mem_map.mpr ⟨pair, inAfter, is⟩
      -- The thread of the old id would have two notifications.
      · have own := received.calls source sourceMember pair inBefore is
        have thread : source = notification :=
          kept.eq_of_tid sourceMember member
            (congrArg ChaosInitCall.tid (own.symm.trans call))
        exact absurd (congrArg Notification.id thread) same
  unreceived := by
    intro marked inside not
    rcases List.mem_map.mp inside with ⟨source, sourceMember, rfl⟩
    rw [id_markReceived]
    unfold markReceived at not
    split at not
    · cases not
    · rename_i other
      rcases received.unreceived source sourceMember not with ⟨fresh, none⟩
      refine ⟨?_, (deadlines _ other).trans none⟩
      intro placed
      rcases List.mem_append.mp placed with inAfter | inReplies
      · rcases List.mem_map.mp inAfter with ⟨pair, pairMember, is⟩
        rcases known pair pairMember with rfl | inBefore
        · exact other is.symm
        · exact fresh (List.mem_append_left _
            (List.mem_map.mpr ⟨pair, inBefore, is⟩))
      · exact fresh (List.mem_append_right _ inReplies)
  calls := by
    intro marked inside pair pairMember is
    rcases List.mem_map.mp inside with ⟨source, sourceMember, rfl⟩
    rw [id_markReceived] at is
    rw [call_markReceived]
    rcases known pair pairMember with rfl | inBefore
    · rw [kept.eq_of_id sourceMember member is.symm]
    · exact received.calls source sourceMember pair inBefore is

end ChaosLibs.Init.NotificationInvariant
