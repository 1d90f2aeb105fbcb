import Mathlib.Data.List.Basic

/-!
# Calls that are made again

A caller that makes a call again until it is not refused, each time from the state that
the call before it left.  Where a call settles what it does before it looks at its
buffer, the states that a caller goes through do not depend on the buffers.
-/

namespace ChaosLibs.Machine.RetryLoop

variable {State Moment Buffer Answer Outcome : Type*}

section Caller

variable (call : State → Moment → Buffer → Option (State × Outcome))

/-- A call for each round, one after the other. -/
def callAll : State → List (Moment × Buffer) → Option (State × List Outcome)
  | state, [] => some (state, [])
  | state, round :: rest =>
      (call state round.1 round.2).bind fun (after, outcome) =>
        (callAll after rest).map fun (last, outcomes) => (last, outcome :: outcomes)

variable (refused : Outcome → Bool)

/-- The loop of a caller: the next round follows a call that is refused. -/
def retry : State → Moment × Buffer → List (Moment × Buffer) → Option (State × Outcome)
  | state, round, [] => call state round.1 round.2
  | state, round, next :: rest =>
      (call state round.1 round.2).bind fun (after, outcome) =>
        if refused outcome then retry after next rest else some (after, outcome)

/-- The calls of a loop: those that are refused, and the one that it ends with. -/
structure Tried (state : State) (rounds earlier : List (Moment × Buffer))
    (last : Moment × Buffer) (between after : State) (outcome : Outcome) : Prop where
  made : earlier ++ [last] <+: rounds
  refusals : ∃ outcomes, callAll call state earlier = some (between, outcomes) ∧
    ∀ refusal ∈ outcomes, refused refusal = true
  ends : call between last.1 last.2 = some (after, outcome)
  stops : refused outcome = false ∨ earlier ++ [last] = rounds

end Caller

variable {call : State → Moment → Buffer → Option (State × Outcome)}
  {refused : Outcome → Bool} {state between after : State}
  {first last round : Moment × Buffer} {earlier rounds rest : List (Moment × Buffer)}
  {outcome : Outcome}

theorem callAll_cons {next : State}
    (called : call state round.1 round.2 = some (next, outcome))
    (rest : List (Moment × Buffer)) :
    callAll call state (round :: rest) =
      (callAll call next rest).map fun (last, outcomes) => (last, outcome :: outcomes) := by
  rw [callAll, called]
  rfl

theorem exists_callAll_cons {outcomes : List Outcome}
    (made : callAll call state (round :: rest) = some (after, outcomes)) :
    ∃ next outcome later, call state round.1 round.2 = some (next, outcome) ∧
      callAll call next rest = some (after, later) ∧ outcomes = outcome :: later := by
  rw [callAll, Option.bind_eq_some_iff] at made
  rcases made with ⟨⟨next, outcome⟩, called, made⟩
  rcases Option.map_eq_some_iff.mp made with ⟨⟨final, later⟩, calledLater, ends⟩
  cases ends
  exact ⟨next, outcome, later, called, calledLater, rfl⟩

theorem Tried.cons {next : State}
    (tried : Tried call refused next rounds earlier last between after outcome)
    {refusal : Outcome} (called : call state round.1 round.2 = some (next, refusal))
    (isRefused : refused refusal = true) :
    Tried call refused state (round :: rounds) (round :: earlier) last between after
      outcome := by
  rcases tried.refusals with ⟨outcomes, made, allRefused⟩
  refine ⟨List.cons_prefix_cons.mpr ⟨rfl, tried.made⟩, ⟨refusal :: outcomes, ?_, ?_⟩,
    tried.ends, ?_⟩
  · rw [callAll_cons called, made]
    rfl
  · exact List.forall_mem_cons.mpr ⟨isRefused, allRefused⟩
  · exact tried.stops.imp_right (congrArg (round :: ·))

/-- A loop is the calls that it makes. -/
theorem exists_tried (refused : Outcome → Bool) {invariant : State → Prop}
    (returns : ∀ state, invariant state → ∀ round ∈ first :: rest, ∃ after outcome,
      call state round.1 round.2 = some (after, outcome) ∧ invariant after)
    (start : invariant state) :
    ∃ earlier last between after outcome,
      retry call refused state first rest = some (after, outcome) ∧
        Tried call refused state (first :: rest) earlier last between after outcome := by
  rcases returns state start first List.mem_cons_self with
    ⟨after, outcome, called, kept⟩
  induction rest generalizing state first after outcome with
  | nil =>
      exact ⟨[], first, state, after, outcome, called, List.prefix_refl _,
        ⟨[], rfl, nofun⟩, called, Or.inr rfl⟩
  | cons next rest induction =>
      rw [retry, called, Option.bind_some]
      by_cases isRefused : refused outcome = true
      · have later := fun state holds round member =>
          returns state holds round (List.mem_cons_of_mem first member)
        rcases later after kept next List.mem_cons_self with
          ⟨nextAfter, nextOutcome, nextCalled, nextKept⟩
        rcases induction later kept nextAfter nextOutcome nextCalled nextKept with
          ⟨earlier, last, between, final, lastOutcome, loops, tried⟩
        refine ⟨first :: earlier, last, between, final, lastOutcome, ?_,
          tried.cons called isRefused⟩
        dsimp only
        rw [if_pos isRefused, loops]
      · refine ⟨[], first, state, after, outcome, ?_,
          List.cons_prefix_cons.mpr ⟨rfl, List.nil_prefix⟩, ⟨[], rfl, nofun⟩, called,
          Or.inl (Bool.not_eq_true _ ▸ isRefused)⟩
        dsimp only
        rw [if_neg isRefused]

/-! ## Calls that settle before they look at the buffer -/

section Settled

variable {settle : State → Moment → Option (State × Answer)}
  {deliver : Moment → Answer → Buffer → Outcome}

/-- What is done at some moments, one after the other. -/
def settleAll (settle : State → Moment → Option (State × Answer)) :
    State → List Moment → Option (State × List Answer)
  | state, [] => some (state, [])
  | state, moment :: rest =>
      (settle state moment).bind fun (after, answer) =>
        (settleAll settle after rest).map fun (last, answers) => (last, answer :: answers)

/-- The states of a caller depend on the moments of its calls only. -/
theorem callAll_eq_settleAll
    (settles : ∀ state moment buffer, call state moment buffer =
      (settle state moment).map fun (after, answer) =>
        (after, deliver moment answer buffer))
    (state : State) (rounds : List (Moment × Buffer)) :
    callAll call state rounds =
      (settleAll settle state (rounds.map Prod.fst)).map fun (after, answers) =>
        (after, List.zipWith (fun round answer => deliver round.1 answer round.2)
          rounds answers) := by
  induction rounds generalizing state with
  | nil => rfl
  | cons round rest induction =>
      rw [callAll, settles, List.map_cons, settleAll]
      cases settle state round.1 with
      | none => rfl
      | some settled =>
          rcases settled with ⟨next, answer⟩
          change (callAll call next rest).map _ =
            ((settleAll settle next (rest.map Prod.fst)).map _).map _
          rw [induction, Option.map_map, Option.map_map]
          rfl

/-- Calls at the same moments lead to the same state, whatever their buffers. -/
theorem callAll_of_moments
    (settles : ∀ state moment buffer, call state moment buffer =
      (settle state moment).map fun (after, answer) =>
        (after, deliver moment answer buffer))
    {others : List (Moment × Buffer)} {outcomes : List Outcome}
    (made : callAll call state earlier = some (between, outcomes))
    (same : others.map Prod.fst = earlier.map Prod.fst) :
    ∃ otherwise, callAll call state others = some (between, otherwise) := by
  rw [callAll_eq_settleAll settles] at made
  rcases Option.map_eq_some_iff.mp made with ⟨⟨final, answers⟩, settled, ends⟩
  cases ends
  rw [callAll_eq_settleAll settles, same, settled]
  exact ⟨_, rfl⟩

/-- What each call keeps, all calls keep. -/
theorem keeps_callAll {invariant : State → Prop}
    (keeps : ∀ state, invariant state → ∀ round ∈ rounds, ∀ after outcome,
      call state round.1 round.2 = some (after, outcome) → invariant after)
    (start : invariant state) {outcomes : List Outcome}
    (made : callAll call state rounds = some (after, outcomes)) : invariant after := by
  induction rounds generalizing state outcomes with
  | nil =>
      cases made
      exact start
  | cons round rest induction =>
      rcases exists_callAll_cons made with ⟨next, outcome, later, called, madeLater, rfl⟩
      exact induction
        (fun state holds round member =>
          keeps state holds round (List.mem_cons_of_mem _ member))
        (keeps state start round List.mem_cons_self next outcome called) madeLater

end Settled

end ChaosLibs.Machine.RetryLoop
