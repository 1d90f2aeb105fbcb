import ChaosLibs.Init.NotificationInvariant

/-!
# Every notification is answered once

Each step of the kernel and of the supervisor keeps the invariant, so that it
holds in every run.  At the end of `chaos_init_on_time` nothing that was due is
left, and the timer is set to the next thing to do.
-/

namespace ChaosLibs.Init.Answering

open ChaosLibs.Init.DelayQueue
open ChaosLibs.Init.NotificationInvariant
open ChaosLibs.Init.Supervisor
open ChaosLibs.Init.Verdict
open ChaosLibs.Machine

variable {state next : State}

/-! ## The kernel -/

theorem sound_withdraw (sound : Sound state) (tid : Int) :
    Sound (state.withdraw tid) where
  placed := sound.placed
  kept := sound.kept.sublist List.filter_sublist
  received := sound.received.sublist List.filter_sublist
  punctual := ⟨sound.punctual.due, sound.punctual.kept, sound.punctual.current,
    sound.punctual.unissued⟩
  clocks := ⟨sound.clocks.bounded, sound.clocks.flushed, sound.clocks.reading,
    sound.clocks.delay⟩

theorem sound_notify
    (sound : Sound state) {made : Call}
    (free : state.blocked made.tid = false) (invocation : Nat) :
    Sound (state.notify made invocation) where
  placed := sound.placed.mono (Nat.le_succ _)
  kept := by
    have other : ∀ notification ∈ state.live,
        notification.call.tid ≠ made.tid := by
      intro notification member same
      have blocked : state.blocked made.tid = true :=
        List.any_eq_true.mpr ⟨notification, member, beq_iff_eq.mpr same⟩
      exact absurd (free.symm.trans blocked) nofun
    constructor
    · apply List.nodup_cons.mpr
      refine ⟨?_, sound.kept.threads⟩
      intro member
      rcases List.mem_map.mp member with ⟨notification, inside, same⟩
      exact other notification inside same
    · apply List.nodup_cons.mpr
      refine ⟨?_, sound.kept.ids⟩
      intro member
      rcases List.mem_map.mp member with ⟨notification, inside, same⟩
      have below := sound.kept.issued notification inside
      rw [same] at below
      exact absurd below (Nat.lt_irrefl _)
    · intro notification member
      rcases List.mem_cons.mp member with rfl | inside
      · exact Nat.lt_succ_self _
      · exact Nat.lt_succ_of_lt (sound.kept.issued notification inside)
  received := sound.received.notify sound.placed
    (sound.punctual.unissued _ (Nat.le_refl _))
  punctual := ⟨sound.punctual.due, sound.punctual.kept, sound.punctual.current,
    fun id above => sound.punctual.unissued id (Nat.le_of_succ_le above)⟩
  clocks := ⟨sound.clocks.bounded, sound.clocks.flushed, sound.clocks.reading,
    sound.clocks.delay⟩

/-- What the invariant does not look at may change. -/
theorem Sound.unseen
    (sound : Sound state) (interrupted : Int → List (Call × Nat))
    (nextInvocation : Nat) :
    Sound { state with
      interrupted := interrupted
      nextInvocation := nextInvocation } where
  placed := sound.placed
  kept := sound.kept
  received := sound.received
  punctual := ⟨sound.punctual.due, sound.punctual.kept, sound.punctual.current,
    sound.punctual.unissued⟩
  clocks := ⟨sound.clocks.bounded, sound.clocks.flushed, sound.clocks.reading,
    sound.clocks.delay⟩

theorem sound_call
    (sound : Sound state) {made : Call} (called : call state made = some next) :
    Sound next := by
  unfold call at called
  split at called
  · cases called
  · rename_i free
    cases called
    exact Sound.unseen
      (sound_notify sound (Bool.not_eq_true _ ▸ free) state.nextInvocation)
      state.interrupted _

theorem sound_signal
    (sound : Sound state) {tid : Int} (signalled : signal state tid = some next) :
    Sound next := by
  rcases Option.map_eq_some_iff.mp signalled with ⟨notification, -, rfl⟩
  exact Sound.unseen (sound_withdraw sound tid) _ state.nextInvocation

theorem sound_restart
    (sound : Sound state) {tid : Int} (restarted : restart state tid = some next) :
    Sound next := by
  unfold restart at restarted
  split at restarted
  · cases restarted
  · rename_i made invocation rest _
    split at restarted
    · cases restarted
    · rename_i free
      cases restarted
      exact Sound.unseen
        (sound_notify sound (Bool.not_eq_true _ ▸ free) invocation) _
        state.nextInvocation

theorem sound_giveUp
    (sound : Sound state) {tid : Int} (gave : giveUp state tid = some next) :
    Sound next := by
  unfold giveUp at gave
  split at gave
  · cases gave
  · cases gave
    exact Sound.unseen sound _ state.nextInvocation

theorem sound_kill (sound : Sound state) (tid : Int) : Sound (kill state tid) :=
  Sound.unseen (sound_withdraw sound tid) _ state.nextInvocation

theorem sound_tick
    (sound : Sound state) {elapsed : Nat}
    (bounded : state.clock + elapsed < 2 ^ 63) :
    Sound { state with clock := state.clock + elapsed } where
  placed := sound.placed
  kept := sound.kept
  received := sound.received
  punctual := ⟨sound.punctual.due, sound.punctual.kept, sound.punctual.current,
    sound.punctual.unissued⟩
  clocks := by
    constructor
    · exact bounded
    · exact Nat.le_add_right_of_le sound.clocks.flushed
    · intro now draining
      rcases sound.clocks.reading now draining with ⟨flushed, past⟩
      exact ⟨flushed, Nat.le_add_right_of_le past⟩
    · exact sound.clocks.delay

/-! ## `chaos_init_answer` -/

theorem held_of_idle (idle : state.control.current = none) :
    held state = state.queue.map fun entry => (entry.id, entry.call) := by
  unfold held
  rw [idle]
  rfl

theorem held_of_current
    {id : Nat} {made : Call} (current : state.control.current = some (id, made)) :
    held state = (id, made) ::
      state.queue.map fun entry => (entry.id, entry.call) := by
  unfold held
  rw [current]
  rfl

/-- The notification takes the place of the one under which its call was parked. -/
theorem sound_resumed
    (sound : Sound state) (control : state.control = .idle)
    {notification : Notification} (member : notification ∈ state.live)
    (was : notification.received = false) {old : Nat} {queue : Queue}
    (resumed : chaosInitDelayResume notification.call notification.id
      state.queue = some (old, queue)) (decidedFor : Nat → Nat) :
    Sound { state with
      live := state.live.map (markReceived notification.id)
      queue := queue
      decidedFor := decidedFor
      deadline := Function.update state.deadline notification.id
        (state.deadline old) } := by
  have current : state.control.current = none := by rw [control]; rfl
  have issued := sound.kept.issued notification member
  rcases sound.received.unreceived notification member was with ⟨fresh, -⟩
  rcases split_of_chaosInitDelayResume resumed with
    ⟨front, parked, back, queueWas, rfl, parkedCall, parkedId⟩
  have before : held state =
      (front.map fun entry => (entry.id, entry.call)) ++
        (old, notification.call) ::
          back.map fun entry => (entry.id, entry.call) := by
    rw [held_of_idle current, queueWas, List.map_append, List.map_cons,
      parkedCall, parkedId]
  have after :
      held { state with
          queue := front ++ { parked with id := notification.id } :: back } =
        (front.map fun entry => (entry.id, entry.call)) ++
          (notification.id, notification.call) ::
            back.map fun entry => (entry.id, entry.call) := by
    rw [held_of_idle (by exact current), List.map_append, List.map_cons,
      parkedCall]
  have notHeld : ∀ entry ∈ state.queue, entry.id ≠ notification.id := by
    intro entry inQueue same
    apply fresh
    rw [held_of_idle current]
    apply List.mem_append_left
    exact List.mem_map.mpr
      ⟨_, List.mem_map.mpr ⟨entry, inQueue, rfl⟩, same⟩
  constructor
  · have placed := sound.placed
    rw [before] at placed fresh
    have rebound := placed.rebind fresh issued
    rw [← after] at rebound
    exact rebound
  · exact sound.kept.mark notification.id
  · change Received _ (held { state with
      queue := front ++ { parked with id := notification.id } :: back }) _ _
    rw [after]
    refine sound.received.hand sound.kept member ?_ ?_ ?_ ?_
    · exact List.mem_append_right _ List.mem_cons_self
    · intro pair inAfter
      rw [before]
      simp only [List.mem_append, List.mem_cons] at inAfter ⊢
      tauto
    · intro pair inBefore
      rw [before] at inBefore
      simp only [List.mem_append, List.mem_cons] at inBefore ⊢
      rcases inBefore with inFront | rfl | inBack
      · exact Or.inl (Or.inl inFront)
      · exact Or.inr rfl
      · exact Or.inl (Or.inr (Or.inr inBack))
    · intro id other
      exact Function.update_of_ne other _ _
  · constructor
    · intro entry inQueue
      change entry ∈ front ++ { parked with id := notification.id } :: back
        at inQueue
      have kept : ∀ entry ∈ state.queue,
          entry.dueMs = Function.update state.deadline notification.id
              (state.deadline old) entry.id ∧ 0 < entry.dueMs := by
        intro entry member
        rw [Function.update_of_ne (notHeld entry member)]
        exact sound.punctual.due entry member
      rw [queueWas] at kept
      rcases List.mem_append.mp inQueue with inFront | inRest
      · exact kept entry (List.mem_append_left _ inFront)
      · rcases List.mem_cons.mp inRest with rfl | inBack
        · have own : parked ∈ state.queue := by
            rw [queueWas]
            exact List.mem_append_right _ List.mem_cons_self
          rcases sound.punctual.due parked own with ⟨due, positive⟩
          refine ⟨?_, positive⟩
          change parked.dueMs = Function.update state.deadline notification.id
            (state.deadline old) notification.id
          rw [Function.update_self, due, parkedId]
        · exact kept entry
            (List.mem_append_right _ (List.mem_cons_of_mem _ inBack))
    · intro reply inReplies
      have other : reply.id ≠ notification.id := by
        intro same
        apply fresh
        exact List.mem_append_right _
          (List.mem_map.mpr ⟨reply, inReplies, same⟩)
      change Function.update state.deadline notification.id
        (state.deadline old) reply.id ≤ reply.sentAtMs
      rw [Function.update_of_ne other]
      exact sound.punctual.kept reply inReplies
    · intro pair now
      cases current.symm.trans now
    · intro id above
      have other : id ≠ notification.id :=
        Nat.ne_of_gt (Nat.lt_of_lt_of_le issued above)
      change Function.update state.deadline notification.id
        (state.deadline old) id = 0
      rw [Function.update_of_ne other]
      exact sound.punctual.unissued id above
  · exact ⟨sound.clocks.bounded, sound.clocks.flushed, sound.clocks.reading,
      sound.clocks.delay⟩

/-- The notification of a call that is not parked is looked at. -/
theorem sound_deciding
    (sound : Sound state) (control : state.control = .idle)
    {notification : Notification} (member : notification ∈ state.live)
    (was : notification.received = false)
    (unparked : chaosInitDelayResume notification.call notification.id
      state.queue = none) :
    Sound { state with
      live := state.live.map (markReceived notification.id)
      control := .deciding notification.id notification.call } := by
  have current : state.control.current = none := by rw [control]; rfl
  have queued := held_of_idle current
  have issued := sound.kept.issued notification member
  rcases sound.received.unreceived notification member was with ⟨fresh, none⟩
  have others := chaosInitDelayResume_eq_none.mp unparked
  have after :
      held { state with
          control := .deciding notification.id notification.call } =
        (notification.id, notification.call) :: held state := by
    rw [held_of_current rfl, queued]
  constructor
  · change Placed (held { state with
      control := .deciding notification.id notification.call }) _ _
    rw [after]
    apply sound.placed.take fresh issued
    rw [queued, List.map_map]
    intro same
    rcases List.mem_map.mp same with ⟨entry, inQueue, is⟩
    exact others entry inQueue is
  · exact sound.kept.mark notification.id
  · change Received _ (held { state with
      control := .deciding notification.id notification.call }) _ _
    rw [after]
    refine sound.received.hand sound.kept member ?_ ?_ ?_ fun _ _ => rfl
    · exact List.mem_cons_self
    · intro pair inAfter
      exact List.mem_cons.mp inAfter
    · intro pair inBefore
      exact Or.inl (List.mem_cons_of_mem _ inBefore)
  · refine ⟨sound.punctual.due, sound.punctual.kept, ?_,
      sound.punctual.unissued⟩
    intro pair now
    cases now
    exact none
  · exact ⟨sound.clocks.bounded, sound.clocks.flushed, nofun, nofun⟩

/-- A notification that is received resumes a parked call, or is to be decided. -/
theorem receive_cases {tid : Int} (received : receive state tid = some next) :
    state.control = .idle ∧
      ∃ notification,
        (state.live.find? fun notification =>
          notification.call.tid == tid && !notification.received) = some notification ∧
        notification ∈ state.live ∧ notification.received = false ∧
        ((∃ old queue,
            chaosInitDelayResume notification.call notification.id state.queue =
              some (old, queue) ∧
            next = { state with
              live := state.live.map (markReceived notification.id)
              queue := queue
              decidedFor := Function.update state.decidedFor notification.id
                (state.decidedFor old)
              deadline := Function.update state.deadline notification.id
                (state.deadline old) }) ∨
          (chaosInitDelayResume notification.call notification.id state.queue = none ∧
            next = { state with
              live := state.live.map (markReceived notification.id)
              control := .deciding notification.id notification.call })) := by
  unfold receive at received
  split at received
  · cases received
  · rename_i idle
    rcases Option.map_eq_some_iff.mp received with ⟨notification, found, same⟩
    have test := List.find?_some found
    rw [Bool.and_eq_true, Bool.not_eq_true'] at test
    refine ⟨not_not.mp idle, notification, found, List.mem_of_find?_eq_some found,
      test.2, ?_⟩
    split at same
    · rename_i old queue resumed
      exact Or.inl ⟨old, queue, resumed, same.symm⟩
    · rename_i unparked
      exact Or.inr ⟨unparked, same.symm⟩

theorem sound_receive
    (sound : Sound state) {tid : Int} (received : receive state tid = some next) :
    Sound next := by
  rcases receive_cases received with
    ⟨control, notification, -, member, was, resumes | decides⟩
  · rcases resumes with ⟨old, queue, resumed, rfl⟩
    exact sound_resumed sound control member was resumed _
  · rcases decides with ⟨unparked, rfl⟩
    exact sound_deciding sound control member was unparked

/-- The supervisor moves on with the same notification in hand. -/
theorem sound_moved
    (sound : Sound state) {control : Control}
    (same : control.current = state.control.current) (pending : Bool) {last : Nat}
    (timer : Option Nat) (decisions : List (Nat × ChaosInitVerdict))
    (flushed : last ≤ state.clock)
    (reading : ∀ now, control = .draining now → last ≤ now ∧ now ≤ state.clock)
    (delay : ∀ id made verdict, control = .decided id made verdict →
      verdict.delayMs < 2 ^ 32) :
    Sound { state with
      control := control
      pending := pending
      lastFlushMs := last
      timer := timer
      decisions := decisions } := by
  have held_eq : held { state with control := control } = held state := by
    unfold held
    rw [same]
  constructor
  · have placed := sound.placed
    rw [← held_eq] at placed
    exact placed
  · exact sound.kept
  · have received := sound.received
    rw [← held_eq] at received
    exact received
  · refine ⟨sound.punctual.due, sound.punctual.kept, ?_, sound.punctual.unissued⟩
    intro pair now
    exact sound.punctual.current pair (same.symm.trans now)
  · exact ⟨sound.clocks.bounded, flushed, reading, delay⟩

theorem sound_decide
    (sound : Sound state) {verdict : ChaosInitVerdict} {pending : Bool}
    (decided : decideCall state verdict pending = some next) :
    Sound next := by
  unfold decideCall at decided
  split at decided
  · rename_i id made control
    split at decided
    · rename_i short
      cases decided
      refine sound_moved sound (by rw [control]; rfl) pending state.timer _
        sound.clocks.flushed nofun ?_
      intro _ _ _ now
      cases now
      exact short
    · cases decided
  · cases decided

/-- An id that is held is answered, at or after its deadline. -/
theorem sound_answered
    (sound : Sound state) {id : Nat} {made : Call} {control : Control}
    {queue : Queue}
    (taken : (held state).Perm
      ((id, made) :: held { state with control := control, queue := queue }))
    (entries : ∀ entry ∈ queue, entry ∈ state.queue)
    (late : state.deadline id ≤ state.clock) (none : control.current = none)
    (reading : ∀ now, control = .draining now → state.control = .draining now)
    (verdict : ChaosInitVerdict) (decidedFor : Nat → Nat) :
    Sound { state.reply id verdict with
      control := control
      queue := queue
      decidedFor := decidedFor } where
  placed := (sound.placed.perm taken).answer
  kept := sound.kept.sublist List.filter_sublist
  received := (sound.received.perm taken).answer
  punctual := by
    constructor
    · exact fun entry inQueue => sound.punctual.due entry (entries entry inQueue)
    · intro reply inReplies
      rcases List.mem_cons.mp inReplies with rfl | earlier
      · exact late
      · exact sound.punctual.kept reply earlier
    · intro pair now
      exact absurd (none.symm.trans now) nofun
    · exact sound.punctual.unissued
  clocks := by
    refine ⟨sound.clocks.bounded, sound.clocks.flushed, ?_, ?_⟩
    · exact fun now draining => sound.clocks.reading now (reading now draining)
    · intro _ _ _ now
      change control = _ at now
      rw [now] at none
      cases none

/-- An id whose notification is gone is let go. -/
theorem sound_gone (sound : Sound state) (left : gone state = some next) :
    Sound next := by
  unfold gone at left
  split at left
  · rename_i id made verdict control
    split at left
    · rename_i withdrawn
      cases left
      have current : state.control.current = some (id, made) := by
        rw [control]
        rfl
      have before : held state =
          (id, made) :: held { state with control := .idle } := by
        rw [held_of_current current, held_of_idle rfl]
      have placed := sound.placed
      have received := sound.received
      rw [before] at placed received
      exact
        { placed := placed.drop
          kept := sound.kept
          received := received.drop withdrawn.2
          punctual := ⟨sound.punctual.due, sound.punctual.kept, nofun,
            sound.punctual.unissued⟩
          clocks := ⟨sound.clocks.bounded, sound.clocks.flushed, nofun,
            nofun⟩ }
    · cases left
  · cases left

/-- A call is parked under its deadline. -/
theorem sound_parked
    (sound : Sound state) {id : Nat} {made : Call} {verdict : ChaosInitVerdict}
    (control : state.control = .decided id made verdict)
    (answer : ChaosInitVerdict) (decidedFor : Nat → Nat) :
    Sound { state with
      control := .idle
      queue := state.queue ++ [⟨id, made, state.dueMs verdict, answer⟩]
      decidedFor := decidedFor
      deadline := Function.update state.deadline id
        (state.clock + verdict.delayMs + 1) } := by
  have current : state.control.current = some (id, made) := by
    rw [control]
    rfl
  have moved : (held state).Perm
      (held { state with
        control := .idle
        queue := state.queue ++ [⟨id, made, state.dueMs verdict, answer⟩] }) := by
    rw [held_of_current current, held_of_idle rfl, List.map_append,
      List.map_singleton]
    exact (List.perm_append_singleton _ _).symm
  have here : id ∈ (held state).map Prod.fst := by
    rw [held_of_current current]
    exact List.mem_cons_self
  have first := sound.placed
  rw [held_of_current current] at first
  have due : state.dueMs verdict = state.clock + verdict.delayMs + 1 := by
    have clock := sound.clocks.bounded
    have delay := sound.clocks.delay id made verdict control
    exact Nat.mod_eq_of_lt (by omega)
  constructor
  · exact sound.placed.perm moved
  · exact sound.kept
  · exact (sound.received.update here _).perm moved
  · constructor
    · intro entry inQueue
      rcases List.mem_append.mp inQueue with earlier | last
      · have other : entry.id ≠ id := by
          rintro rfl
          apply first.fresh.1
          apply List.mem_append_left
          exact List.mem_map.mpr
            ⟨_, List.mem_map.mpr ⟨entry, earlier, rfl⟩, rfl⟩
        change entry.dueMs = Function.update state.deadline id _ entry.id ∧ _
        rw [Function.update_of_ne other]
        exact sound.punctual.due entry earlier
      · cases List.mem_singleton.mp last
        change state.dueMs verdict = Function.update state.deadline id _ id ∧
          0 < state.dueMs verdict
        rw [Function.update_self, due]
        exact ⟨rfl, Nat.succ_pos _⟩
    · intro reply inReplies
      have other : reply.id ≠ id := by
        rintro rfl
        apply first.fresh.1
        exact List.mem_append_right _ (List.mem_map.mpr ⟨reply, inReplies, rfl⟩)
      change Function.update state.deadline id _ reply.id ≤ reply.sentAtMs
      rw [Function.update_of_ne other]
      exact sound.punctual.kept reply inReplies
    · exact nofun
    · intro other above
      have below : id < state.nextId :=
        sound.placed.issued id (List.mem_append_left _ here)
      have differs : other ≠ id :=
        Nat.ne_of_gt (Nat.lt_of_lt_of_le below above)
      change Function.update state.deadline id _ other = 0
      rw [Function.update_of_ne differs]
      exact sound.punctual.unissued other above
  · exact ⟨sound.clocks.bounded, sound.clocks.flushed, nofun, nofun⟩

/-- A call that is decided is parked, or answered with the verdict or with its errno. -/
theorem finish_cases (finished : finish state = some next) :
    ∃ id made verdict, state.control = .decided id made verdict ∧
      ((verdict.action = .delay ∧
          next = { state with
            control := .idle
            queue := state.queue ++
              [⟨id, made, state.dueMs verdict, chaosInitDelayAnswer verdict⟩]
            decidedFor := Function.update state.decidedFor id (state.invocationOf id)
            deadline := Function.update state.deadline id
              (state.clock + verdict.delayMs + 1) }) ∨
        ∃ answer, (answer = verdict ∨ answer = chaosInitDelayAnswer verdict) ∧
          next = { state.reply id answer with
            control := .idle
            decidedFor := Function.update state.decidedFor id
              (state.invocationOf id) }) := by
  unfold finish at finished
  split at finished
  · rename_i id made verdict control
    refine ⟨id, made, verdict, control, ?_⟩
    split at finished
    · rename_i delayed
      dsimp only at finished
      split at finished
      · rename_i queue added
        cases finished
        unfold chaosInitDelayAdd at added
        split at added
        · cases added
        · cases added
          exact Or.inl ⟨delayed, rfl⟩
      · cases finished
        exact Or.inr ⟨_, Or.inr rfl, rfl⟩
    · cases finished
      exact Or.inr ⟨_, Or.inl rfl, rfl⟩
  · cases finished

theorem sound_finish (sound : Sound state) (finished : finish state = some next) :
    Sound next := by
  rcases finish_cases finished with
    ⟨id, made, verdict, control, ⟨-, rfl⟩ | ⟨answer, -, rfl⟩⟩
  · exact sound_parked sound control _ _
  · have current : state.control.current = some (id, made) := by
      rw [control]
      rfl
    have taken : (held state).Perm ((id, made) ::
        held { state with control := .idle, queue := state.queue }) := by
      rw [held_of_current current, held_of_idle rfl]
    have late : state.deadline id ≤ state.clock := by
      rw [sound.punctual.current _ current]
      exact Nat.zero_le _
    exact sound_answered sound taken (fun _ member => member) late rfl nofun _ _

/-! ## `chaos_init_on_time` -/

theorem sound_onTime (sound : Sound state) (timed : onTime state = some next) :
    Sound next := by
  unfold onTime at timed
  split at timed
  · rename_i control
    cases timed
    refine sound_moved sound (by rw [control]; rfl) state.pending state.timer _
      sound.clocks.flushed ?_ nofun
    intro now reading
    cases reading
    exact ⟨sound.clocks.flushed, Nat.le_refl _⟩
  · cases timed

theorem sound_drain (sound : Sound state) (drained : drain state = some next) :
    Sound next := by
  unfold drain at drained
  split at drained
  · rename_i now control
    rcases Option.map_eq_some_iff.mp drained with ⟨⟨entry, left⟩, popped, rfl⟩
    rcases chaosInitDelayPop_spec popped with ⟨due, split⟩
    have idle : state.control.current = none := by rw [control]; rfl
    have member : entry ∈ state.queue :=
      split.mem_iff.mpr List.mem_cons_self
    have taken : (held state).Perm ((entry.id, entry.call) ::
        held { state with control := state.control, queue := left }) := by
      rw [held_of_idle idle, held_of_idle (by exact idle)]
      exact split.map fun entry => (entry.id, entry.call)
    have late : state.deadline entry.id ≤ state.clock := by
      rw [← (sound.punctual.due entry member).1]
      exact Nat.le_trans due (sound.clocks.reading now control).2
    exact sound_answered sound taken
      (fun other inLeft =>
        split.mem_iff.mpr (List.mem_cons_of_mem _ inLeft))
      late idle (fun _ reading => reading) entry.answer state.decidedFor
  · cases drained

theorem sound_rearm
    (sound : Sound state) {pending : Bool}
    (rearmed : rearm state pending = some next) :
    Sound next := by
  unfold rearm at rearmed
  split at rearmed
  · rename_i now control
    split at rearmed
    · cases rearmed
    · cases rearmed
      rcases sound.clocks.reading now control with ⟨flushed, past⟩
      refine sound_moved sound (by rw [control]; rfl) _ _ _ ?_ nofun nofun
      split
      · exact past
      · exact sound.clocks.flushed
  · cases rearmed

/-! ## Runs -/

theorem sound_step
    (label : Label) (sound : Sound state) (stepped : step state label = some next) :
    Sound next := by
  cases label with
  | tick elapsed =>
      dsimp only [step] at stepped
      split at stepped
      · rename_i bounded
        cases stepped
        exact sound_tick sound bounded
      · cases stepped
  | call made => exact sound_call sound stepped
  | signal tid => exact sound_signal sound stepped
  | restart tid => exact sound_restart sound stepped
  | giveUp tid => exact sound_giveUp sound stepped
  | kill tid =>
      cases stepped
      exact sound_kill sound tid
  | receive tid => exact sound_receive sound stepped
  | decide verdict pending => exact sound_decide sound stepped
  | gone => exact sound_gone sound stepped
  | finish => exact sound_finish sound stepped
  | onTime => exact sound_onTime sound stepped
  | drain => exact sound_drain sound stepped
  | rearm pending => exact sound_rearm sound stepped

theorem sound_run
    {clock : Nat} (bounded : clock < 2 ^ 63) {labels : List Label}
    (ran : run step (initial clock) labels = some state) :
    Sound state := by
  have throughout : Throughout step Sound (initial clock) labels :=
    throughout_of_preserved
      (fun _ label _ _ sound stepped => sound_step label sound stepped)
      (fun _ _ => trivial) (sound_initial bounded)
  exact throughout.final ran

/-! ## The timer -/

/-- When the supervisor has something to do: the due times and the next flush. -/
def wakeups (state : State) : List Nat :=
  state.queue.map ChaosInitDelayed.dueMs ++
    if state.pending then [state.lastFlushMs + chaosHitsIntervalMs] else []

/-- A timer that is set for what has to be done next, and only then. -/
structure Armed (state : State) (now : Nat) : Prop where
  disarmed : state.timer = none ↔ wakeups state = []
  armed : ∀ time, state.timer = some time →
    now < time ∧ time ∈ wakeups state ∧ ∀ other ∈ wakeups state, time ≤ other

/-- The setting, when nothing to do lies in the past and no sum is too large. -/
theorem timerSetting_spec
    {queue : Queue} {pending : Bool} {lastFlushMs now : Nat}
    (later : ∀ entry ∈ queue, now < entry.dueMs)
    (flush : pending = true → now < lastFlushMs + chaosHitsIntervalMs)
    (bounded : lastFlushMs < 2 ^ 63) :
    timerSetting queue pending lastFlushMs now =
      ((chaosInitDelayNext queue).toList ++
        if pending then [lastFlushMs + chaosHitsIntervalMs] else []).min? := by
  have interval : chaosHitsIntervalMs = 100 := rfl
  have whole : (lastFlushMs + 100) % 2 ^ 64 = lastFlushMs + 100 :=
    Nat.mod_eq_of_lt (by omega)
  rw [interval] at flush ⊢
  unfold timerSetting
  rw [interval, whole]
  cases next : chaosInitDelayNext queue with
  | none =>
      cases pending with
      | false => simp
      | true =>
          have ahead := flush rfl
          simp [ahead]
  | some due =>
      rcases (chaosInitDelayNext_spec next).1 with ⟨entry, member, rfl⟩
      have ahead := later entry member
      have positive : entry.dueMs ≠ 0 := by omega
      cases pending with
      | false => simp [ahead, positive]
      | true =>
          have flushAhead := flush rfl
          by_cases sooner : lastFlushMs + 100 < entry.dueMs
          · have least : min entry.dueMs (lastFlushMs + 100) =
                lastFlushMs + 100 := by omega
            simp [sooner, flushAhead, least]
          · have least : min entry.dueMs (lastFlushMs + 100) =
                entry.dueMs := by omega
            simp [sooner, ahead, positive, least]

/-- The earliest of the due times stands for all of them. -/
theorem min?_wakeups (queue : Queue) (flush : List Nat) :
    ((chaosInitDelayNext queue).toList ++ flush).min? =
      (queue.map ChaosInitDelayed.dueMs ++ flush).min? := by
  cases next : chaosInitDelayNext queue with
  | none =>
      rw [chaosInitDelayNext_eq_none.mp next]
      rfl
  | some due =>
      rcases chaosInitDelayNext_spec next with ⟨⟨entry, member, same⟩, least⟩
      symm
      cases found : (Option.toList (some due) ++ flush).min? with
      | none => exact absurd (List.min?_eq_none_iff.mp found) nofun
      | some time =>
          rcases List.min?_eq_some_iff.mp found with ⟨here, below⟩
          apply List.min?_eq_some_iff.mpr
          constructor
          · rcases List.mem_append.mp here with first | inFlush
            · cases List.mem_singleton.mp first
              apply List.mem_append_left
              exact List.mem_map.mpr ⟨entry, member, same⟩
            · exact List.mem_append_right _ inFlush
          · intro other inAll
            rcases List.mem_append.mp inAll with inQueue | inFlush
            · rcases List.mem_map.mp inQueue with ⟨parked, inside, rfl⟩
              have earliest : time ≤ due :=
                below due (List.mem_append_left _ List.mem_cons_self)
              exact Nat.le_trans earliest (least parked inside)
            · exact below other (List.mem_append_right _ inFlush)

/-- When `chaos_init_on_time` ends nothing is due, and the timer is set. -/
theorem armed_rearm
    (sound : Sound state) {now : Nat} (control : state.control = .draining now)
    {pending : Bool} (rearmed : rearm state pending = some next) :
    (∀ entry ∈ next.queue, now < entry.dueMs) ∧ Armed next now := by
  unfold rearm at rearmed
  rw [control] at rearmed
  dsimp only at rearmed
  split at rearmed
  · cases rearmed
  · rename_i popped
    have later := chaosInitDelayPop_eq_none.mp popped
    rcases sound.clocks.reading now control with ⟨flushed, past⟩
    have bounded := sound.clocks.bounded
    -- Either the flush has just been made, or its interval is not over.
    have flush : (if flushes state now then pending else state.pending) = true →
        now < (if flushes state now then now else state.lastFlushMs) +
          chaosHitsIntervalMs := by
      have interval : chaosHitsIntervalMs = 100 := rfl
      by_cases writes : flushes state now = true
      · rw [if_pos writes, if_pos writes]
        omega
      · rw [if_neg writes, if_neg writes]
        intro waits
        unfold flushes at writes
        rw [waits, Bool.true_and, decide_eq_true_iff] at writes
        omega
    have last : (if flushes state now then now else state.lastFlushMs) < 2 ^ 63 := by
      split <;> omega
    generalize (if flushes state now then pending else state.pending) =
      waiting at rearmed flush
    generalize (if flushes state now then now else state.lastFlushMs) =
      flushMs at rearmed flush last
    cases rearmed
    have setting := timerSetting_spec later flush last
    rw [min?_wakeups] at setting
    refine ⟨later, ?_, ?_⟩
    · change timerSetting _ _ _ _ = none ↔ _
      rw [setting]
      exact List.min?_eq_none_iff
    · intro time set
      change timerSetting _ _ _ _ = some time at set
      rw [setting] at set
      rcases List.min?_eq_some_iff.mp set with ⟨member, least⟩
      refine ⟨?_, member, least⟩
      rcases List.mem_append.mp member with inQueue | inFlush
      · rcases List.mem_map.mp inQueue with ⟨entry, inside, rfl⟩
        exact later entry inside
      · split at inFlush
        · rename_i waits
          cases List.mem_singleton.mp inFlush
          exact flush waits
        · cases inFlush

/-! ## The result -/

/-- Every id is held once or not at all. -/
theorem count_held
    (sound : Sound state) {notification : Notification}
    (member : notification ∈ state.live) (received : notification.received = true) :
    ((held state).map Prod.fst).count notification.id = 1 := by
  have distinct : ((held state).map Prod.fst).Nodup :=
    sound.placed.once.of_append_left
  exact List.count_eq_one_of_mem distinct
    (sound.received.received notification member received)

theorem queue_ids (state : State) (idle : state.control.current = none) :
    (held state).map Prod.fst = state.queue.map ChaosInitDelayed.id := by
  rw [held_of_idle idle, List.map_map]
  rfl

/--
In every state of every run: a notification that was received and exists is held
exactly once, in the queue whenever the supervisor is not just answering it, and
not answered; no two entries are for the same thread, number and arguments; no id
is answered twice or before its deadline; and `chaos_init_on_time` leaves nothing
that is due, with the timer set for the first thing to do, or not set when there is
none.
-/
theorem notifications_neither_lost_nor_doubled
    {clock : Nat} (bounded : clock < 2 ^ 63) {labels : List Label}
    (ran : run step (initial clock) labels = some state) :
    (∀ notification ∈ state.live, notification.received = true →
      ((held state).map Prod.fst).count notification.id = 1 ∧
        (state.control.current = none →
          (state.queue.map ChaosInitDelayed.id).count notification.id = 1) ∧
        notification.id ∉ replied state) ∧
    (state.queue.map ChaosInitDelayed.call).Nodup ∧
    (replied state).Nodup ∧
    (∀ reply ∈ state.replies, state.deadline reply.id ≤ reply.sentAtMs) ∧
    ∀ now pending next, state.control = .draining now →
      step state (.rearm pending) = some next →
        (∀ entry ∈ next.queue, now < entry.dueMs) ∧ Armed next now := by
  have sound := sound_run bounded ran
  refine ⟨?_, ?_, ?_, sound.punctual.kept, ?_⟩
  · intro notification member received
    have once := count_held sound member received
    refine ⟨once, fun idle => ?_, ?_⟩
    · rw [← queue_ids state idle]
      exact once
    · have disjoint := List.disjoint_of_nodup_append sound.placed.once
      exact disjoint (sound.received.received notification member received)
  · have calls := sound.placed.calls
    unfold held at calls
    rw [List.map_append, List.map_map] at calls
    exact calls.of_append_right
  · exact sound.placed.once.of_append_right
  · exact fun now pending next control rearmed => armed_rearm sound control rearmed

/-- A call is parked, interrupted and restarted, and answered when it is due. -/
def restartedRun : List Label :=
  [.call ⟨7, 35, fun _ => 0⟩, .receive 7,
    .decide { ChaosInitVerdict.pass with action := .delay, delayMs := 50 } true,
    .finish, .onTime, .rearm true, .signal 7, .restart 7, .receive 7, .tick 60,
    .onTime, .drain]

/-- The state it ends in. -/
def restartedState : State :=
  (run step (initial 1000) restartedRun).getD (initial 0)

theorem notifications_neither_lost_nor_doubled_restarted :
    restartedState.live = [] ∧ replied restartedState = [1] ∧
      restartedState.deadline 1 = 1051 ∧ restartedState.control = .draining 1060 ∧
      Armed ((step restartedState (.rearm false)).getD (initial 0)) 1060 := by
  have ran : run step (initial 1000) restartedRun = some restartedState := rfl
  have result := notifications_neither_lost_nor_doubled (by decide) ran
  have rearmed : step restartedState (.rearm false) =
      some ((step restartedState (.rearm false)).getD (initial 0)) := rfl
  exact ⟨rfl, rfl, rfl, rfl, (result.2.2.2.2 1060 false _ rfl rearmed).2⟩

end ChaosLibs.Init.Answering
