import ChaosLibs.Init.Answering

/-!
# Whose answer it is

An entry of the delay queue is taken for a notification of the same thread,
number and arguments.  As long as the two come from one invocation of the call,
every reply carries a verdict that was decided for the invocation it answers.
-/

namespace ChaosLibs.Init.InvocationIdentity

open ChaosLibs.Init.Answering
open ChaosLibs.Init.DelayQueue
open ChaosLibs.Init.NotificationInvariant
open ChaosLibs.Init.Supervisor
open ChaosLibs.Init.Verdict
open ChaosLibs.Machine

/-- A verdict that a decision on an invocation gave, at once or when the delay is over. -/
def DecidedFor (state : State) (invocation : Nat) (answer : ChaosInitVerdict) :
    Prop :=
  ∃ verdict, (invocation, verdict) ∈ state.decisions ∧
    (answer = verdict ∨ answer = chaosInitDelayAnswer verdict)

/--
Each reply, and each answer that is held, was decided for the invocation it is for;
and each invocation whose notification was received is decided, or just being so.
-/
structure OwnVerdicts (state : State) : Prop where
  replies : ∀ reply ∈ state.replies,
    DecidedFor state (state.invocationOf reply.id) reply.verdict
  parked : ∀ entry ∈ state.queue,
    DecidedFor state (state.invocationOf entry.id) entry.answer
  decided : ∀ notification ∈ state.live, notification.received = true →
    (∃ verdict, (notification.invocation, verdict) ∈ state.decisions) ∨
      ∃ made, state.control = .deciding notification.id made

/--
A notification that is received does not meet an entry of the same thread, number
and arguments that another invocation left in the queue.
-/
def Rightful (state : State) : Label → Prop
  | .receive tid =>
      ∀ notification,
        (state.live.find? fun notification =>
          notification.call.tid == tid && !notification.received) =
            some notification →
        ∀ entry ∈ state.queue, entry.call = notification.call →
          state.decidedFor entry.id = notification.invocation
  | _ => True

instance decidableRightful (state : State) :
    ∀ label : Label, Decidable (Rightful state label)
  | .receive tid =>
      match found : state.live.find? fun notification =>
          notification.call.tid == tid && !notification.received with
      | none => isTrue fun _ other => absurd (found.symm.trans other) nofun
      | some notification =>
          decidable_of_iff
            (∀ entry ∈ state.queue, entry.call = notification.call →
              state.decidedFor entry.id = notification.invocation)
            ⟨fun own _ other => Option.some_inj.mp (found.symm.trans other) ▸ own,
              fun own => own notification found⟩
  | .tick _ | .call _ | .signal _ | .restart _ | .giveUp _ | .kill _
  | .decide _ _ | .gone | .finish | .onTime | .drain | .rearm _ =>
      isTrue trivial

/-! ## The invariant -/

/-- What the history knows of the ids in their places. -/
structure Traced (state : State) : Prop where
  own : OwnVerdicts state
  live : ∀ notification ∈ state.live,
    state.invocationOf notification.id = notification.invocation
  queue : ∀ entry ∈ state.queue,
    state.decidedFor entry.id = state.invocationOf entry.id
  current : ∀ id made verdict, state.control = .decided id made verdict →
    (state.invocationOf id, verdict) ∈ state.decisions

theorem traced_initial (clock : Nat) : Traced (initial clock) :=
  ⟨⟨nofun, nofun, nofun⟩, nofun, nofun, nofun⟩

variable {state next : State}

theorem issued_of_reply
    (sound : Sound state) {reply : Reply} (member : reply ∈ state.replies) :
    reply.id < state.nextId :=
  sound.placed.issued _
    (List.mem_append_right _ (List.mem_map.mpr ⟨reply, member, rfl⟩))

theorem issued_of_entry
    (sound : Sound state) {entry : ChaosInitDelayed}
    (member : entry ∈ state.queue) :
    entry.id < state.nextId := by
  apply sound.placed.issued
  apply List.mem_append_left
  refine List.mem_map.mpr ⟨(entry.id, entry.call), ?_, rfl⟩
  exact List.mem_append_right _ (List.mem_map.mpr ⟨entry, member, rfl⟩)

theorem issued_of_current
    (sound : Sound state) {id : Nat} {made : Call}
    (current : state.control.current = some (id, made)) :
    id < state.nextId := by
  apply sound.placed.issued
  rw [held_of_current current]
  exact List.mem_append_left _ List.mem_cons_self

/-! ## The kernel -/

theorem traced_withdraw (traced : Traced state) (tid : Int) :
    Traced (state.withdraw tid) where
  own := by
    refine ⟨traced.own.replies, traced.own.parked, ?_⟩
    exact fun notification member =>
      traced.own.decided notification (List.mem_filter.mp member).1
  live := fun notification member =>
    traced.live notification (List.mem_filter.mp member).1
  queue := traced.queue
  current := traced.current

/-- The new id is none that the history knows. -/
theorem traced_notify
    (sound : Sound state) (traced : Traced state) (made : Call)
    (invocation : Nat) :
    Traced (state.notify made invocation) := by
  have kept : ∀ id, id < state.nextId →
      (state.notify made invocation).invocationOf id = state.invocationOf id :=
    fun id below => Function.update_of_ne (Nat.ne_of_lt below) _ _
  constructor
  · constructor
    · intro reply member
      rw [kept reply.id (issued_of_reply sound member)]
      exact traced.own.replies reply member
    · intro entry member
      rw [kept entry.id (issued_of_entry sound member)]
      exact traced.own.parked entry member
    · intro notification member received
      rcases List.mem_cons.mp member with rfl | member
      · cases received
      · exact traced.own.decided notification member received
  · intro notification member
    rcases List.mem_cons.mp member with rfl | member
    · exact Function.update_self _ _ _
    · rw [kept notification.id (sound.kept.issued notification member)]
      exact traced.live notification member
  · intro entry member
    rw [kept entry.id (issued_of_entry sound member)]
    exact traced.queue entry member
  · intro id called verdict control
    have current : state.control.current = some (id, called) := by
      change state.control = _ at control
      rw [control]
      rfl
    rw [kept id (issued_of_current sound current)]
    exact traced.current id called verdict control

/-- What the history does not look at may change. -/
theorem Traced.unseen
    (traced : Traced state) (interrupted : Int → List (Call × Nat))
    (clock nextInvocation : Nat) :
    Traced { state with
      clock := clock
      interrupted := interrupted
      nextInvocation := nextInvocation } :=
  ⟨⟨traced.own.replies, traced.own.parked, traced.own.decided⟩, traced.live,
    traced.queue, traced.current⟩

/-! ## `chaos_init_answer` -/

/-- A mark does not change what a notification is for. -/
theorem invocation_of_marked (traced : Traced state) (id : Nat) :
    ∀ marked ∈ state.live.map (markReceived id),
      state.invocationOf marked.id = marked.invocation := by
  intro marked inside
  rcases List.mem_map.mp inside with ⟨source, sourceMember, rfl⟩
  have kept : (markReceived id source).invocation = source.invocation := by
    unfold markReceived
    split <;> rfl
  rw [id_markReceived, kept]
  exact traced.live source sourceMember

/-- What was received before has been decided. -/
theorem decided_of_marked
    (traced : Traced state) (control : state.control = .idle) (id : Nat) :
    ∀ marked ∈ state.live.map (markReceived id), marked.received = true →
      marked.id = id ∨ ∃ verdict, (marked.invocation, verdict) ∈ state.decisions := by
  intro marked inside holds
  rcases List.mem_map.mp inside with ⟨source, sourceMember, rfl⟩
  unfold markReceived at holds ⊢
  split at holds
  · rename_i same
    rw [if_pos same]
    exact Or.inl same
  · rename_i other
    rw [if_neg other]
    rcases traced.own.decided source sourceMember holds with
      decided | ⟨made, deciding⟩
    · exact Or.inr decided
    · exact absurd (control.symm.trans deciding) nofun

section Receive

variable {notification : Notification} {old : Nat} {queue : Queue}

/-- The parked call of a notification is for its invocation, and goes on under its id. -/
theorem traced_resumed
    (sound : Sound state) (traced : Traced state) (control : state.control = .idle)
    (member : notification ∈ state.live) (was : notification.received = false)
    (rightful : ∀ parked ∈ state.queue, parked.call = notification.call →
      state.decidedFor parked.id = notification.invocation)
    (resumed : chaosInitDelayResume notification.call notification.id state.queue =
      some (old, queue))
    (deadline : Nat → Nat) :
    Traced { state with
      live := state.live.map (markReceived notification.id)
      queue := queue
      decidedFor := Function.update state.decidedFor notification.id
        (state.decidedFor old)
      deadline := deadline } := by
  have own := traced.live notification member
  have live := invocation_of_marked traced notification.id
  rcases split_of_chaosInitDelayResume resumed with
    ⟨front, parked, back, queueWas, rfl, parkedCall, parkedId⟩
  have inQueue : parked ∈ state.queue := by
    rw [queueWas]
    exact List.mem_append_right _ List.mem_cons_self
  have rightly := rightful parked inQueue parkedCall
  have wasFor : state.invocationOf parked.id = notification.invocation :=
    (traced.queue parked inQueue).symm.trans rightly
  have answer : DecidedFor state notification.invocation parked.answer :=
    wasFor ▸ traced.own.parked parked inQueue
  constructor
  · constructor
    · exact traced.own.replies
    · intro entry entryMember
      rcases List.mem_append.mp entryMember with inFront | inRest
      · exact traced.own.parked entry
          (queueWas ▸ List.mem_append_left _ inFront)
      · rcases List.mem_cons.mp inRest with rfl | inBack
        · exact own.symm ▸ answer
        · exact traced.own.parked entry (queueWas ▸
            List.mem_append_right _ (List.mem_cons_of_mem _ inBack))
    · intro marked inside holds
      rcases decided_of_marked traced control notification.id marked inside holds with
        same | decided
      · rcases answer with ⟨verdict, decided, -⟩
        have is := live marked inside
        rw [same, own] at is
        exact Or.inl ⟨verdict, is ▸ decided⟩
      · exact Or.inl decided
  · exact live
  · have fresh : ∀ entry ∈ state.queue, entry.id ≠ notification.id := by
      intro entry entryMember same
      apply (sound.received.unreceived notification member was).1
      apply List.mem_append_left
      refine List.mem_map.mpr ⟨(entry.id, entry.call), ?_, same⟩
      exact List.mem_append_right _
        (List.mem_map.mpr ⟨entry, entryMember, rfl⟩)
    have kept : ∀ entry ∈ state.queue,
        Function.update state.decidedFor notification.id
            (state.decidedFor old) entry.id =
          state.invocationOf entry.id := by
      intro entry entryMember
      rw [Function.update_of_ne (fresh entry entryMember)]
      exact traced.queue entry entryMember
    intro entry entryMember
    rcases List.mem_append.mp entryMember with inFront | inRest
    · exact kept entry (queueWas ▸ List.mem_append_left _ inFront)
    · rcases List.mem_cons.mp inRest with rfl | inBack
      · change Function.update state.decidedFor notification.id
          (state.decidedFor old) notification.id =
            state.invocationOf notification.id
        rw [Function.update_self, own, ← parkedId]
        exact rightly
      · exact kept entry (queueWas ▸
          List.mem_append_right _ (List.mem_cons_of_mem _ inBack))
  · exact traced.current

theorem traced_deciding
    (traced : Traced state) (control : state.control = .idle)
    (notification : Notification) :
    Traced { state with
      live := state.live.map (markReceived notification.id)
      control := .deciding notification.id notification.call } := by
  constructor
  · refine ⟨traced.own.replies, traced.own.parked, ?_⟩
    intro marked inside holds
    rcases decided_of_marked traced control notification.id marked inside holds with
      same | decided
    · exact Or.inr ⟨notification.call, by rw [same]⟩
    · exact Or.inl decided
  · exact invocation_of_marked traced notification.id
  · exact traced.queue
  · exact nofun

end Receive

theorem traced_receive
    (sound : Sound state) (traced : Traced state) {tid : Int}
    (rightful : Rightful state (.receive tid))
    (received : receive state tid = some next) :
    Traced next := by
  rcases receive_cases received with
    ⟨control, notification, found, member, was, resumes | decides⟩
  · rcases resumes with ⟨old, queue, resumed, rfl⟩
    exact traced_resumed sound traced control member was (rightful notification found)
      resumed _
  · rcases decides with ⟨-, rfl⟩
    exact traced_deciding traced control notification

theorem DecidedFor.cons
    {invocation : Nat} {answer : ChaosInitVerdict}
    (decided : DecidedFor state invocation answer)
    (other : State) (decision : Nat × ChaosInitVerdict)
    (grown : other.decisions = decision :: state.decisions) :
    DecidedFor other invocation answer := by
  rcases decided with ⟨verdict, member, same⟩
  exact ⟨verdict, grown ▸ List.mem_cons_of_mem _ member, same⟩

theorem traced_decide
    (traced : Traced state) {verdict : ChaosInitVerdict} {pending : Bool}
    (decided : decideCall state verdict pending = some next) :
    Traced next := by
  unfold decideCall at decided
  split at decided
  · rename_i id made control
    split at decided
    · cases decided
      constructor
      · constructor
        · exact fun reply member =>
            (traced.own.replies reply member).cons _ _ rfl
        · exact fun entry member =>
            (traced.own.parked entry member).cons _ _ rfl
        · intro notification member received
          rcases traced.own.decided notification member received with
            ⟨earlier, inDecisions⟩ | ⟨called, deciding⟩
          · exact Or.inl ⟨earlier, List.mem_cons_of_mem _ inDecisions⟩
          · cases control.symm.trans deciding
            rw [← traced.live notification member]
            exact Or.inl ⟨verdict, List.mem_cons_self⟩
      · exact traced.live
      · exact traced.queue
      · intro other called given now
        cases now
        exact List.mem_cons_self
    · cases decided
  · cases decided

/-- What was received before is decided, unless its call is being decided. -/
theorem Traced.decided_of_busy
    (traced : Traced state) (busy : ∀ id made, state.control ≠ .deciding id made)
    {notification : Notification} (member : notification ∈ state.live)
    (received : notification.received = true) :
    ∃ verdict, (notification.invocation, verdict) ∈ state.decisions := by
  rcases traced.own.decided notification member received with decided | ⟨called, deciding⟩
  · exact decided
  · exact absurd deciding (busy _ _)

/-- The supervisor moves on, with nothing in hand. -/
theorem traced_moved
    (traced : Traced state) (busy : ∀ id made, state.control ≠ .deciding id made)
    {control : Control} (undecided : ∀ id made verdict, control ≠ .decided id made verdict)
    (pending : Bool) (last : Nat) (timer : Option Nat) :
    Traced { state with
      control := control
      pending := pending
      lastFlushMs := last
      timer := timer } := by
  refine ⟨⟨traced.own.replies, traced.own.parked, ?_⟩, traced.live, traced.queue, ?_⟩
  · intro notification member received
    exact Or.inl (traced.decided_of_busy busy member received)
  · exact fun id made verdict now => absurd now (undecided id made verdict)

theorem traced_gone (traced : Traced state) (left : gone state = some next) :
    Traced next := by
  unfold gone at left
  split at left
  · rename_i id made verdict control
    split at left
    · cases left
      exact traced_moved traced (by rw [control]; exact nofun) (by exact nofun) _ _ _
    · cases left
  · cases left

/-- An id is answered with a verdict of its own. -/
theorem traced_answered
    (traced : Traced state) {id : Nat} {answer : ChaosInitVerdict}
    (decided : DecidedFor state (state.invocationOf id) answer)
    {control : Control} {queue : Queue} {decidedFor : Nat → Nat}
    (busy : ∀ id made, state.control ≠ .deciding id made)
    (entries : ∀ entry ∈ queue, entry ∈ state.queue ∧
      decidedFor entry.id = state.decidedFor entry.id)
    (current : ∀ id made verdict, control ≠ .decided id made verdict) :
    Traced { state.reply id answer with
      control := control
      queue := queue
      decidedFor := decidedFor } where
  own := by
    constructor
    · intro reply member
      rcases List.mem_cons.mp member with rfl | earlier
      · exact decided
      · exact traced.own.replies reply earlier
    · exact fun entry member =>
        traced.own.parked entry (entries entry member).1
    · intro notification member received
      exact Or.inl (traced.decided_of_busy busy (List.mem_filter.mp member).1 received)
  live := fun notification member =>
    traced.live notification (List.mem_filter.mp member).1
  queue := fun entry member =>
    (entries entry member).2.trans (traced.queue entry (entries entry member).1)
  current := fun id made verdict now => absurd now (current id made verdict)

/-- The id of a call that was decided is not one of the queue's. -/
theorem decidedFor_of_queued
    (sound : Sound state) {id : Nat} {made : Call} {verdict : ChaosInitVerdict}
    (control : state.control = .decided id made verdict) (invocation : Nat) :
    ∀ entry ∈ state.queue,
      Function.update state.decidedFor id invocation entry.id =
        state.decidedFor entry.id := by
  intro entry member
  apply Function.update_of_ne
  rintro rfl
  have placed := sound.placed
  rw [held_of_current (by rw [control]; rfl)] at placed
  apply placed.fresh.1
  apply List.mem_append_left
  exact List.mem_map.mpr ⟨_, List.mem_map.mpr ⟨entry, member, rfl⟩, rfl⟩

theorem traced_finish
    (sound : Sound state) (traced : Traced state)
    (finished : finish state = some next) :
    Traced next := by
  rcases finish_cases finished with
    ⟨id, made, verdict, control, ⟨-, rfl⟩ | ⟨answer, own, rfl⟩⟩
  all_goals
    have decided := traced.current id made verdict control
    have others := decidedFor_of_queued sound control (state.invocationOf id)
    have busy : ∀ other called, state.control ≠ .deciding other called := by
      rw [control]
      exact nofun
  · constructor
    · refine ⟨traced.own.replies, ?_, ?_⟩
      · intro entry member
        rcases List.mem_append.mp member with earlier | last
        · exact traced.own.parked entry earlier
        · cases List.mem_singleton.mp last
          exact ⟨verdict, decided, Or.inr rfl⟩
      · intro notification member received
        exact Or.inl (traced.decided_of_busy busy member received)
    · exact traced.live
    · intro entry member
      rcases List.mem_append.mp member with earlier | last
      · exact (others entry earlier).trans (traced.queue entry earlier)
      · cases List.mem_singleton.mp last
        exact Function.update_self _ _ _
    · exact nofun
  · exact traced_answered traced ⟨verdict, decided, own⟩ busy
      (fun entry member => ⟨member, others entry member⟩) nofun

/-! ## `chaos_init_on_time` -/

theorem traced_onTime (traced : Traced state) (timed : onTime state = some next) :
    Traced next := by
  unfold onTime at timed
  split at timed
  · rename_i control
    cases timed
    exact traced_moved traced (by rw [control]; exact nofun) (by exact nofun) _ _ _
  · cases timed

theorem traced_drain (traced : Traced state) (drained : drain state = some next) :
    Traced next := by
  unfold drain at drained
  split at drained
  · rename_i now control
    rcases Option.map_eq_some_iff.mp drained with ⟨⟨entry, left⟩, popped, rfl⟩
    have split := (chaosInitDelayPop_spec popped).2
    have member : entry ∈ state.queue := split.mem_iff.mpr List.mem_cons_self
    have busy : ∀ other called, state.control ≠ .deciding other called := by
      rw [control]
      exact nofun
    have undecided : ∀ other called verdict,
        state.control ≠ .decided other called verdict := by
      rw [control]
      exact nofun
    exact traced_answered traced (traced.own.parked entry member) busy
      (fun other inLeft =>
        ⟨split.mem_iff.mpr (List.mem_cons_of_mem _ inLeft), rfl⟩)
      undecided
  · cases drained

theorem traced_rearm
    (traced : Traced state) {pending : Bool}
    (rearmed : rearm state pending = some next) :
    Traced next := by
  unfold rearm at rearmed
  split at rearmed
  · rename_i now control
    split at rearmed
    · cases rearmed
    · cases rearmed
      exact traced_moved traced (by rw [control]; exact nofun) (by exact nofun) _ _ _
  · cases rearmed

/-! ## Runs -/

theorem traced_step
    (label : Label) (sound : Sound state) (traced : Traced state)
    (rightful : Rightful state label) (stepped : step state label = some next) :
    Traced next := by
  cases label with
  | tick elapsed =>
      dsimp only [step] at stepped
      split at stepped
      · cases stepped
        exact traced.unseen state.interrupted _ state.nextInvocation
      · cases stepped
  | call made =>
      dsimp only [step, call] at stepped
      split at stepped
      · cases stepped
      · cases stepped
        exact (traced_notify sound traced made _).unseen state.interrupted
          state.clock _
  | signal tid =>
      rcases Option.map_eq_some_iff.mp stepped with ⟨notification, -, rfl⟩
      exact (traced_withdraw traced tid).unseen _ state.clock
        state.nextInvocation
  | restart tid =>
      dsimp only [step, restart] at stepped
      split at stepped
      · cases stepped
      · split at stepped
        · cases stepped
        · cases stepped
          exact (traced_notify sound traced _ _).unseen _ state.clock
            state.nextInvocation
  | giveUp tid =>
      dsimp only [step, giveUp] at stepped
      split at stepped
      · cases stepped
      · cases stepped
        exact traced.unseen _ state.clock state.nextInvocation
  | kill tid =>
      cases stepped
      exact (traced_withdraw traced tid).unseen _ state.clock
        state.nextInvocation
  | receive tid => exact traced_receive sound traced rightful stepped
  | decide verdict pending => exact traced_decide traced stepped
  | gone => exact traced_gone traced stepped
  | finish => exact traced_finish sound traced stepped
  | onTime => exact traced_onTime traced stepped
  | drain => exact traced_drain traced stepped
  | rearm pending => exact traced_rearm traced stepped

/--
In every run in which no notification that is received meets an entry of the same
thread, number and arguments that another invocation left behind, every state has
its verdicts decided for the invocations they answer.
-/
theorem ownVerdicts_throughout_of_rightful
    {clock : Nat} (bounded : clock < 2 ^ 63) {labels : List Label}
    (rightful : Meets step Rightful (initial clock) labels) :
    Throughout step OwnVerdicts (initial clock) labels := by
  have throughout : Throughout step (fun state => Sound state ∧ Traced state)
      (initial clock) labels :=
    throughout_of_meets
      (fun _ label _ _ invariant rightful stepped =>
        ⟨sound_step label invariant.1 stepped,
          traced_step label invariant.1 invariant.2 rightful stepped⟩)
      (fun _ _ => trivial) ⟨sound_initial bounded, traced_initial clock⟩ rightful
  exact fun before after middle split ran =>
    (throughout before after middle split ran).2.own

/-! ## Two invocations -/

/-- A call of thread 7. -/
def sleepCall : Call := ⟨7, 35, fun _ => 0⟩

/-- It is to be delayed by 50 ms. -/
def delayed : ChaosInitVerdict :=
  { ChaosInitVerdict.pass with action := .delay, delayMs := 50 }

/-- The call is interrupted and restarted: one invocation under two ids. -/
def restartedCall : List Label :=
  [.call sleepCall, .receive 7, .decide delayed false, .finish, .signal 7,
    .restart 7, .receive 7]

theorem ownVerdicts_throughout_of_rightful_restarted :
    Throughout step OwnVerdicts (initial 1000) restartedCall :=
  ownVerdicts_throughout_of_rightful (by decide) (by decide +kernel)

/-- The call fails with `EINTR`, and the thread makes it again. -/
def retriedCall : List Label :=
  [.call sleepCall, .receive 7, .decide delayed false, .finish, .signal 7,
    .giveUp 7, .call sleepCall, .receive 7, .tick 60, .onTime, .drain]

/-- The state that run ends in. -/
def retriedState : State :=
  (run step (initial 1000) retriedCall).getD (initial 0)

/--
The second invocation, under id 1, is answered with what was decided for the first,
and nothing is decided for it.
-/
theorem retried_call_answered_for_another :
    run step (initial 1000) retriedCall = some retriedState ∧
      retriedState.replies = [⟨1, chaosInitDelayAnswer delayed, 1060⟩] ∧
      retriedState.invocationOf 1 = 1 ∧
      retriedState.decisions = [(0, delayed)] ∧
      ¬ OwnVerdicts retriedState := by
  have replies : retriedState.replies =
      [⟨1, chaosInitDelayAnswer delayed, 1060⟩] := rfl
  have invocation : retriedState.invocationOf 1 = 1 := rfl
  have decisions : retriedState.decisions = [(0, delayed)] := rfl
  refine ⟨rfl, replies, invocation, decisions, ?_⟩
  intro own
  have sent : (⟨1, chaosInitDelayAnswer delayed, 1060⟩ : Reply) ∈
      retriedState.replies := by
    rw [replies]
    exact List.mem_singleton_self _
  rcases own.replies _ sent with ⟨verdict, member, -⟩
  rw [decisions, List.mem_singleton] at member
  have same := congrArg Prod.fst member
  change retriedState.invocationOf 1 = 0 at same
  rw [invocation] at same
  cases same

end ChaosLibs.Init.InvocationIdentity
