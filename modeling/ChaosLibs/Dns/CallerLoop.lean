import ChaosLibs.Dns.HostLookup
import ChaosLibs.Dns.OverrideAnswer
import ChaosLibs.Machine.RetryLoop
import Mathlib.Data.Fintype.Pi
import Mathlib.Data.Set.Finite.Lattice

/-!
# The loop around a host lookup

A caller of `gethostbyname2_r` that makes its buffer larger until it does not get
`ERANGE`.  The rules fire before the size of the answer is known; so a call does to the
slots, and to the memory, what it would do with any other buffer.
-/

namespace ChaosLibs.Dns.CallerLoop

open ChaosLibs.Common.CString
open ChaosLibs.Common.HitSlots
open ChaosLibs.Common.PolicyGates
open ChaosLibs.Common.RuleFiring
open ChaosLibs.Common.RuleSelection
open ChaosLibs.Dns.AddressLists (AddrInfo Hints Libc freeaddrinfo readList)
open ChaosLibs.Dns.ConfigParser
open ChaosLibs.Dns.HostEntry
open ChaosLibs.Dns.HostLookup
open ChaosLibs.Dns.ListOwnership (Coherent)
open ChaosLibs.Machine
open ChaosLibs.Machine.RetryLoop

instance : Fintype ChaosDnsEffect where
  elems := {.gai, .latency, .rewrite, .service, .override, .filterFamily, .limit, .shuffle}
  complete effect := by cases effect <;> decide

/-! ## Before the buffer -/

/-- What a call has to say before it looks at the buffer. -/
inductive Answer where
  | failed (hError : Int)
  | list (nodes : List AddrInfo)
  /-- The real function is called. -/
  | real

/-- The answer in a buffer. -/
def deliver (lookup : Lookup) (moment : Moment) : Answer → Buffer → HostentOutcome
  | .failed hError, _ => .failed 0 hError
  | .list nodes, buffer =>
      hostentOutcome (chaosDnsFillHostent lookup.name lookup.family nodes buffer.start
        buffer.size buffer.memory)
  | .real, buffer => moment.gethostbyname2R lookup.name lookup.family buffer

/-- The list of a lookup is read and released. -/
def collect (fuel : Nat) (heap : AddressLists.Memory) :
    Except Int (Option Nat) → Option (AddressLists.Memory × Answer)
  | .error code => some (heap, .failed (chaosDnsHErrnoFor code))
  | .ok head =>
      (readList fuel heap head).bind fun list =>
        (freeaddrinfo fuel heap head).map fun after => (after, .list list)

/-- A call up to the buffer. -/
def settle (lookup : Lookup) (fuel : Nat) (state : State) (moment : Moment) :
    Option (State × Answer) :=
  if moment.forwarded ∨ lookup.name = [] then some (state, .real)
  else
    match chaosDnsHostentPrelude lookup moment state.slots with
    | (some injected, slots) => some ({ state with slots := slots }, .failed injected)
    | (none, slots) =>
        if chaosDnsHasResultRule lookup then
          (chaosDnsResolveWithRules lookup moment fuel { state with slots := slots } none
            (some (hostentHints lookup.family))).bind fun (resolved, outcome) =>
              (collect fuel resolved.heap outcome).map fun (heap, answer) =>
                ({ resolved with heap := heap }, answer)
        else some ({ state with slots := slots }, .real)

variable {lookup : Lookup} {moment : Moment} {fuel : Nat} {state : State}

theorem chaosDnsHostentFromRules_eq (buffer : Buffer) :
    chaosDnsHostentFromRules lookup moment fuel state buffer =
      ((chaosDnsResolveWithRules lookup moment fuel state none
        (some (hostentHints lookup.family))).bind fun (resolved, outcome) =>
          (collect fuel resolved.heap outcome).map fun (heap, answer) =>
            ({ resolved with heap := heap }, answer)).map fun (after, answer) =>
              (after, deliver lookup moment answer buffer) := by
  dsimp only [chaosDnsHostentFromRules]
  rw [Option.map_bind]
  congr 1
  funext resolved
  rcases resolved with ⟨resolved, outcome⟩
  cases outcome with
  | error code => rfl
  | ok head =>
      dsimp only [collect, Function.comp]
      rw [Option.map_bind, Option.map_bind]
      congr 1
      funext list
      dsimp only [Function.comp]
      rw [Option.map_map, Option.map_map]
      rfl

/-- The buffer decides how the answer is laid out, and nothing else. -/
theorem gethostbyname2R_eq (lookup : Lookup) (fuel : Nat) (state : State)
    (moment : Moment) (buffer : Buffer) :
    gethostbyname2R lookup fuel state moment buffer =
      (settle lookup fuel state moment).map fun (after, answer) =>
        (after, deliver lookup moment answer buffer) := by
  unfold gethostbyname2R settle
  split
  · rfl
  · cases chaosDnsHostentPrelude lookup moment state.slots with
    | mk injected slots =>
        cases injected with
        | some hError => rfl
        | none =>
            dsimp only
            split
            · exact chaosDnsHostentFromRules_eq buffer
            · rfl

/-! ## The rules that fire -/

/-- The rules of some effects. -/
def taken (lookup : Lookup) (fires : ChaosDnsEffect → Bool) (effect : ChaosDnsEffect) :
    Option LoadedRule :=
  if fires effect then lookup.candidate effect else none

/-- A lookup in which the rules of some effects fire. -/
def firingOf (lookup : Lookup) (moment : Moment) (fires : ChaosDnsEffect → Bool) :
    Resolve.Firing where
  rule effect := (taken lookup fires effect).map fun rule => rule.toChaosDnsRule
  room := moment.room
  draws := moment.draws

/-- The effects that a call asks before one. -/
def askedBefore : ChaosDnsEffect → List ChaosDnsEffect
  | .latency => []
  | .gai => [.latency]
  | .rewrite => [.latency, .gai]
  | .service => [.latency, .gai, .rewrite]
  | .override => [.latency, .gai, .rewrite, .service]
  | .filterFamily => [.latency, .gai, .rewrite, .service, .override]
  | .shuffle => [.latency, .gai, .rewrite, .service, .override, .filterFamily]
  | .limit => [.latency, .gai, .rewrite, .service, .override, .filterFamily, .shuffle]

/-- The slots after some effects. -/
def slotsAfter (lookup : Lookup) (moment : Moment) (effects : List ChaosDnsEffect)
    (slots : Slots) : Slots :=
  effects.foldl (fun held effect => (fire lookup moment effect held).2) slots

/-- Whether the rule of an effect fires, when the call comes to it. -/
def decisions (lookup : Lookup) (moment : Moment) (slots : Slots)
    (effect : ChaosDnsEffect) : Bool :=
  (fire lookup moment effect (slotsAfter lookup moment (askedBefore effect) slots)).1.isSome

theorem fire_cases (lookup : Lookup) (moment : Moment) (effect : ChaosDnsEffect)
    (slots : Slots) :
    (∃ rule, lookup.candidate effect = some rule ∧
      (fire lookup moment effect slots).1 = some rule ∧
        chaosPolicyFire rule.gates slots = some (fire lookup moment effect slots).2) ∨
      fire lookup moment effect slots = (none, slots) := by
  unfold fire
  cases lookup.candidate effect with
  | none => exact Or.inr rfl
  | some rule =>
      dsimp only
      cases fires : ruleShouldTrigger rule.gates (moment.now effect)
          (moment.sample effect) slots with
      | none => exact Or.inr rfl
      | some after =>
          exact Or.inl ⟨rule, rfl, rfl, chaosPolicyFire_of_ruleShouldTrigger fires⟩

theorem fire_eq_taken (lookup : Lookup) (moment : Moment) (effect : ChaosDnsEffect)
    (slots : Slots) :
    (fire lookup moment effect (slotsAfter lookup moment (askedBefore effect) slots)).1 =
      taken lookup (decisions lookup moment slots) effect := by
  unfold taken decisions
  rcases fire_cases lookup moment effect
      (slotsAfter lookup moment (askedBefore effect) slots) with
    ⟨rule, found, fires, -⟩ | idle
  · rw [fires, found]
    rfl
  · rw [idle]
    rfl

/-! ## The shape of the answer -/

variable {fires : ChaosDnsEffect → Bool} {owned result : Option Nat}

theorem shuffleAndLimit_eq
    (shuffles : (fire lookup moment .shuffle state.slots).1 = taken lookup fires .shuffle)
    (limits : (fire lookup moment .limit (fire lookup moment .shuffle state.slots).2).1 =
      taken lookup fires .limit) :
    shuffleAndLimit lookup moment fuel state owned result =
      (Resolve.shuffleAndLimit fuel (firingOf lookup moment fires) state.heap owned
        result).map fun (after, outcome) =>
          (⟨slotsAfter lookup moment [.shuffle, .limit] state.slots, after⟩, outcome) := by
  unfold shuffleAndLimit Resolve.shuffleAndLimit
  dsimp only [Resolve.Firing.limit, firingOf]
  rw [shuffles, limits, Option.map_bind]
  congr 1
  · cases taken lookup fires .shuffle <;> rfl
  · funext shuffled
    cases taken lookup fires .limit with
    | none => rfl
    | some rule =>
        dsimp only [Function.comp, Option.map_some]
        rw [Option.map_bind]
        rfl

/-- A rule of FILTER_FAMILY that may fire asks for one family. -/
theorem family_firingOf (lookup : Lookup) (moment : Moment)
    (fires : ChaosDnsEffect → Bool) :
    (firingOf lookup moment fires).family =
      (taken lookup fires .filterFamily).map fun rule => rule.family := by
  dsimp only [Resolve.Firing.family, firingOf]
  cases takes : taken lookup fires .filterFamily with
  | none => rfl
  | some rule =>
      have found : lookup.candidate .filterFamily = some rule := by
        unfold taken at takes
        split at takes
        · exact takes
        · cases takes
      have asks := (Option.filter_eq_some_iff.mp found).2
      rw [decide_eq_true_eq] at asks
      exact if_neg (asks.resolve_left fun other => other rfl)

theorem shape_eq
    (filters : (fire lookup moment .filterFamily state.slots).1 =
      taken lookup fires .filterFamily)
    (shuffles : (fire lookup moment .shuffle
        (slotsAfter lookup moment [.filterFamily] state.slots)).1 =
      taken lookup fires .shuffle)
    (limits : (fire lookup moment .limit
        (slotsAfter lookup moment [.filterFamily, .shuffle] state.slots)).1 =
      taken lookup fires .limit) :
    ∃ asked, shape lookup moment fuel state owned result =
      (Resolve.shape fuel (firingOf lookup moment fires) state.heap owned result).map
        fun (after, outcome) =>
          (⟨slotsAfter lookup moment asked state.slots, after⟩, outcome) := by
  have goesOn : ∀ heap owned result,
      shuffleAndLimit lookup moment fuel
          ⟨slotsAfter lookup moment [.filterFamily] state.slots, heap⟩ owned result =
        (Resolve.shuffleAndLimit fuel (firingOf lookup moment fires) heap owned
          result).map fun (after, outcome) =>
            (⟨slotsAfter lookup moment [.filterFamily, .shuffle, .limit] state.slots,
              after⟩, outcome) :=
    fun heap owned result => shuffleAndLimit_eq shuffles limits
  have first : fire lookup moment .filterFamily state.slots =
      (taken lookup fires .filterFamily,
        slotsAfter lookup moment [.filterFamily] state.slots) := Prod.ext filters rfl
  unfold shape Resolve.shape
  rw [family_firingOf, first]
  cases taken lookup fires .filterFamily with
  | none => exact ⟨_, goesOn state.heap owned result⟩
  | some rule =>
      dsimp only [Option.map_some]
      cases ResultLists.chaosDnsFilterResultList fuel state.heap result rule.family with
      | none => exact ⟨[], rfl⟩
      | some filtered =>
          rcases filtered with ⟨filtered, head, left⟩
          cases left with
          | true => exact ⟨_, goesOn filtered owned head⟩
          | false => 
              refine ⟨[.filterFamily], ?_⟩
              dsimp only [Option.bind_some, if_neg Bool.false_ne_true]
              rfl

theorem node_firingOf (lookup : Lookup) (moment : Moment)
    (fires : ChaosDnsEffect → Bool) (name : Bytes) :
    (firingOf lookup moment fires).node name =
      (taken lookup fires .rewrite).elim name fun rule => rule.text := by
  dsimp only [Resolve.Firing.node, firingOf]
  cases taken lookup fires .rewrite <;> rfl

theorem service_firingOf (lookup : Lookup) (moment : Moment)
    (fires : ChaosDnsEffect → Bool) (service : Option Bytes) :
    (firingOf lookup moment fires).service service =
      (taken lookup fires .service).elim service fun rule => some rule.text := by
  dsimp only [Resolve.Firing.service, firingOf]
  cases taken lookup fires .service <;> rfl

section Asked

variable {slots : Slots} (asks : ∀ effect,
  (fire lookup moment effect (slotsAfter lookup moment (askedBefore effect) slots)).1 =
    taken lookup fires effect)

include asks

theorem fire_eq (effect : ChaosDnsEffect) :
    fire lookup moment effect (slotsAfter lookup moment (askedBefore effect) slots) =
      (taken lookup fires effect,
        slotsAfter lookup moment (askedBefore effect ++ [effect]) slots) := by
  refine Prod.ext (asks effect) ?_
  unfold slotsAfter
  rw [List.foldl_append]
  rfl

/-- The shape after the answer, from the slots before the call. -/
theorem shape_eq_of_answer (heap : AddressLists.Memory) (owned result : Option Nat) :
    ∃ asked, shape lookup moment fuel
        ⟨slotsAfter lookup moment (askedBefore .filterFamily) slots, heap⟩ owned result =
      (Resolve.shape fuel (firingOf lookup moment fires) heap owned result).map
        fun (after, outcome) =>
          (⟨slotsAfter lookup moment asked slots, after⟩, outcome) := by
  rcases @shape_eq lookup moment fuel
      ⟨slotsAfter lookup moment (askedBefore .filterFamily) slots, heap⟩
      fires owned result (asks .filterFamily) (asks .shuffle) (asks .limit) with
    ⟨asked, same⟩
  refine ⟨askedBefore .filterFamily ++ asked, ?_⟩
  rw [same]
  unfold slotsAfter
  rw [List.foldl_append]

/-- The lookup is the one in which the rules fire that do so when they are asked. -/
theorem chaosDnsResolveWithRules_eq (heap : AddressLists.Memory)
    (service : Option Bytes) (hints : Option Hints) :
    ∃ asked, chaosDnsResolveWithRules lookup moment fuel
        ⟨slotsAfter lookup moment (askedBefore .rewrite) slots, heap⟩ service hints =
      (Resolve.chaosDnsResolveWithRules moment.libc fuel (firingOf lookup moment fires)
        heap lookup.name service hints).map fun (after, outcome) =>
          (⟨slotsAfter lookup moment asked slots, after⟩, outcome) := by
  have rewrites := fire_eq asks .rewrite
  have serves := fire_eq asks .service
  have overrides := fire_eq asks .override
  have shapes := @shape_eq_of_answer lookup moment fuel fires slots asks
  unfold chaosDnsResolveWithRules Resolve.chaosDnsResolveWithRules Resolve.answer
  dsimp only
  rw [rewrites]
  dsimp only [askedBefore, List.cons_append, List.nil_append] at serves overrides ⊢
  rw [serves]
  dsimp only
  rw [overrides, node_firingOf, service_firingOf]
  have overriding : (firingOf lookup moment fires).rule .override =
      (taken lookup fires .override).map fun rule => rule.toChaosDnsRule := rfl
  rw [overriding]
  cases taken lookup fires .override with
  | some rule =>
      dsimp only [Option.map_some]
      cases Override.chaosDnsApplyOverride moment.libc fuel heap rule.text lookup.name
          ((taken lookup fires .service).elim service fun rule => some rule.text)
          hints with
      | none => exact ⟨[], rfl⟩
      | some answered =>
          rcases answered with ⟨answered, outcome⟩
          cases outcome with
          | error code => exact ⟨askedBefore .filterFamily, rfl⟩
          | ok first => exact shapes answered (some first) (some first)
  | none =>
      dsimp only [Option.map_none]
      cases moment.libc.getaddrinfo heap
          (some ((taken lookup fires .rewrite).elim lookup.name fun rule => rule.text))
          ((taken lookup fires .service).elim service fun rule => some rule.text)
          hints with
      | error code => exact ⟨askedBefore .filterFamily, rfl⟩
      | ok nodes => exact shapes _ none (headAddress nodes none)

end Asked

/-! ## A call, by the rules that fire -/

/-- The answer of a lookup in which the rules of some effects fire. -/
def lookedUp (lookup : Lookup) (moment : Moment) (fuel : Nat)
    (fires : ChaosDnsEffect → Bool) (heap : AddressLists.Memory) :
    Option (AddressLists.Memory × Answer) :=
  (Resolve.chaosDnsResolveWithRules moment.libc fuel (firingOf lookup moment fires) heap
    lookup.name none (some (hostentHints lookup.family))).bind fun (after, outcome) =>
      collect fuel after outcome

/-- The answer of a call in which the rules of some effects fire. -/
def answerBy (lookup : Lookup) (moment : Moment) (fuel : Nat)
    (fires : ChaosDnsEffect → Bool) (heap : AddressLists.Memory) :
    Option (AddressLists.Memory × Answer) :=
  if moment.forwarded ∨ lookup.name = [] then some (heap, .real)
  else
    match taken lookup fires .gai with
    | some rule => some (heap, .failed (chaosDnsHErrnoFor rule.gaiError))
    | none =>
        if chaosDnsHasResultRule lookup then lookedUp lookup moment fuel fires heap
        else some (heap, .real)

theorem settle_eq
    (asks : ∀ effect, (fire lookup moment effect
        (slotsAfter lookup moment (askedBefore effect) state.slots)).1 =
      taken lookup fires effect) :
    ∃ asked, settle lookup fuel state moment =
      (answerBy lookup moment fuel fires state.heap).map fun (heap, answer) =>
        (⟨slotsAfter lookup moment asked state.slots, heap⟩, answer) := by
  have prelude : chaosDnsHostentPrelude lookup moment state.slots =
      ((taken lookup fires .gai).map fun rule => chaosDnsHErrnoFor rule.gaiError,
        slotsAfter lookup moment [.latency, .gai] state.slots) := by
    rw [← asks .gai]
    rfl
  unfold settle answerBy
  split
  · exact ⟨[], rfl⟩
  · rw [prelude]
    cases taken lookup fires .gai with
    | some rule => exact ⟨[.latency, .gai], rfl⟩
    | none =>
        dsimp only [Option.map_none]
        split
        · rcases @chaosDnsResolveWithRules_eq lookup moment fuel fires state.slots asks
              state.heap none (some (hostentHints lookup.family)) with ⟨asked, same⟩
          refine ⟨asked, ?_⟩
          dsimp only [askedBefore] at same
          rw [same, Option.bind_map, lookedUp, Option.map_bind]
          rfl
        · exact ⟨[.latency, .gai], rfl⟩

/-- Every call is answered, with the memory as it was before. -/
theorem exists_answerBy (lookup : Lookup) (moment : Moment) {heap : AddressLists.Memory}
    (coherent : Coherent heap) :
    ∃ enough, ∀ fuel, enough ≤ fuel → ∀ fires, ∃ answer,
      answerBy lookup moment fuel fires heap = some (heap, answer) := by
  have settles := fun fires =>
    Resolve.exists_settled moment.libc coherent (firingOf lookup moment fires) lookup.name
      none (some (hostentHints lookup.family))
  choose enoughFor settles using settles
  -- Which rules fire is one of finitely many choices.
  rcases (Set.finite_range enoughFor).bddAbove with ⟨enough, bound⟩
  refine ⟨enough, fun fuel within fires => ?_⟩
  unfold answerBy
  split
  · exact ⟨_, rfl⟩
  · split
    · exact ⟨_, rfl⟩
    · split
      · rcases settles fires fuel ((bound (Set.mem_range_self fires)).trans within) with
          ⟨after, outcome, resolves, settled⟩
        rw [lookedUp, resolves, Option.bind_some]
        cases outcome with
        | error code =>
            cases settled
            exact ⟨_, rfl⟩
        | ok head =>
            rcases settled with ⟨list, reads, frees⟩
            refine ⟨.list list, ?_⟩
            dsimp only [collect]
            rw [reads, Option.bind_some, frees]
            rfl
      · exact ⟨_, rfl⟩

/-! ## What lasts -/

theorem generation_fire (lookup : Lookup) (moment : Moment) (effect : ChaosDnsEffect)
    (slots : Slots) (slot : SlotId chaosDnsMaxRules) :
    ((fire lookup moment effect slots).2 slot).generation = (slots slot).generation := by
  rcases fire_cases lookup moment effect slots with ⟨rule, -, -, fires⟩ | idle
  · exact generation_of_chaosPolicyFire fires slot
  · rw [idle]

theorem generation_slotsAfter (lookup : Lookup) (moment : Moment)
    (effects : List ChaosDnsEffect) (slots : Slots) (slot : SlotId chaosDnsMaxRules) :
    (slotsAfter lookup moment effects slots slot).generation = (slots slot).generation := by
  induction effects generalizing slots with
  | nil => rfl
  | cons effect rest induction =>
      exact (induction _).trans (generation_fire lookup moment effect slots slot)

/-- The lists in memory are those before, and every slot is still with its rule. -/
structure Lasts (before after : State) : Prop where
  heap : after.heap = before.heap
  generation : ∀ slot, (after.slots slot).generation = (before.slots slot).generation

theorem Lasts.trans {before between after : State} (first : Lasts before between)
    (second : Lasts between after) : Lasts before after :=
  ⟨second.heap.trans first.heap, fun slot =>
    (second.generation slot).trans (first.generation slot)⟩

theorem exists_settle {answer : Answer}
    (answers : answerBy lookup moment fuel (decisions lookup moment state.slots)
      state.heap = some (state.heap, answer)) :
    ∃ after, settle lookup fuel state moment = some (after, answer) ∧
      Lasts state after := by
  rcases @settle_eq lookup moment fuel state _ (fire_eq_taken lookup moment · state.slots)
    with ⟨asked, same⟩
  rw [answers] at same
  exact ⟨_, same, rfl, generation_slotsAfter lookup moment asked state.slots⟩

/-! ## Rules without an allowance -/

theorem isSome_chaosPolicyFire {gates : Gates chaosDnsMaxRules}
    (unlimited : gates.policy.first = 0) (slots : Slots) :
    (chaosPolicyFire gates slots).isSome =
      gates.hit.all fun slot => chaosHitSlotCurrent (slots slot) gates.hitGeneration := by
  unfold chaosPolicyFire
  cases gates.hit with
  | none => rfl
  | some slot =>
      dsimp only [Option.all]
      cases chaosHitSlotCurrent (slots slot) gates.hitGeneration with
      | false => rfl
      | true =>
          rw [Bool.not_true, if_neg Bool.false_ne_true, if_pos unlimited]
          rfl

/-- Without `@first`, the hits so far do not decide whether a rule fires. -/
theorem isSome_ruleShouldTrigger_congr {gates : Gates chaosDnsMaxRules}
    (unlimited : gates.policy.first = 0) {now later : Int} {sample other : UInt32}
    (window : chaosPolicyWindowOpen gates.policy later =
      chaosPolicyWindowOpen gates.policy now)
    (draw : probabilityHitSample gates.probability other =
      probabilityHitSample gates.probability sample)
    {slots held : Slots}
    (generation : ∀ slot, (held slot).generation = (slots slot).generation) :
    (ruleShouldTrigger gates later other held).isSome =
      (ruleShouldTrigger gates now sample slots).isSome := by
  have current : ∀ slot, chaosHitSlotCurrent (held slot) gates.hitGeneration =
      chaosHitSlotCurrent (slots slot) gates.hitGeneration := fun slot => by
    unfold chaosHitSlotCurrent
    rw [generation slot]
  rw [isSome_ruleShouldTrigger, isSome_ruleShouldTrigger, window, ready, ready, draw,
    isSome_chaosPolicyFire unlimited, isSome_chaosPolicyFire unlimited]
  simp only [current]

theorem candidate_mem {effect : ChaosDnsEffect} {rule : LoadedRule}
    (found : lookup.candidate effect = some rule) :
    rule ∈ lookup.rules ∧ rule.effect = effect := by
  rcases mem_of_selectRule (Option.filter_eq_some_iff.mp found).1 with
    ⟨member, rank, ranked⟩
  refine ⟨member, ?_⟩
  by_contra other
  rw [SelectRule.matchRank, if_pos other] at ranked
  cases ranked

/-- Moments that differ in the clock and the draws, and in no window and no hit of a draw. -/
def Alike (lookup : Lookup) (moment other : Moment) : Prop :=
  ∃ now sample, other = { moment with now := now, sample := sample } ∧
    ∀ rule ∈ lookup.rules,
      chaosPolicyWindowOpen rule.policy (now rule.effect) =
          chaosPolicyWindowOpen rule.policy (moment.now rule.effect) ∧
        probabilityHitSample rule.probability (sample rule.effect) =
          probabilityHitSample rule.probability (moment.sample rule.effect)

theorem isSome_fire (lookup : Lookup) (moment : Moment) (effect : ChaosDnsEffect)
    (slots : Slots) :
    (fire lookup moment effect slots).1.isSome =
      (lookup.candidate effect).any fun rule =>
        (ruleShouldTrigger rule.gates (moment.now effect) (moment.sample effect)
          slots).isSome := by
  unfold fire
  cases lookup.candidate effect with
  | none => rfl
  | some rule =>
      dsimp only [Option.any]
      cases ruleShouldTrigger rule.gates (moment.now effect) (moment.sample effect)
        slots <;> rfl

/-- Without `@first`, the hits so far do not decide which rules fire. -/
theorem decisions_alike {other : Moment} {slots held : Slots}
    (unlimited : ∀ rule ∈ lookup.rules, rule.policy.first = 0)
    (alike : Alike lookup moment other)
    (generation : ∀ slot, (held slot).generation = (slots slot).generation) :
    decisions lookup other held = decisions lookup moment slots := by
  rcases alike with ⟨now, sample, rfl, same⟩
  funext effect
  unfold decisions
  rw [isSome_fire, isSome_fire]
  cases found : lookup.candidate effect with
  | none => rw [Option.any_none, Option.any_none]
  | some rule =>
      rcases candidate_mem found with ⟨member, rfl⟩
      rw [Option.any_some, Option.any_some]
      refine isSome_ruleShouldTrigger_congr (unlimited rule member)
        (same rule member).1 (same rule member).2 fun slot => ?_
      rw [generation_slotsAfter, generation_slotsAfter, generation]

/-! ## The loop -/

/-- Whether the buffer is refused. -/
def HostentOutcome.isRange : HostentOutcome → Bool
  | .range => true
  | .failed _ _ | .found _ _ => false

theorem exists_answerBy_rounds (lookup : Lookup) (rounds : List (Moment × Buffer))
    {heap : AddressLists.Memory} (coherent : Coherent heap) :
    ∃ enough, ∀ fuel, enough ≤ fuel → ∀ round ∈ rounds, ∀ fires, ∃ answer,
      answerBy lookup round.1 fuel fires heap = some (heap, answer) := by
  induction rounds with
  | nil => exact ⟨0, nofun⟩
  | cons round rest induction =>
      rcases exists_answerBy lookup round.1 coherent with ⟨here, answers⟩
      rcases induction with ⟨later, answersLater⟩
      refine ⟨max here later, fun fuel within => List.forall_mem_cons.mpr ⟨?_, ?_⟩⟩
      · exact answers fuel ((le_max_left _ _).trans within)
      · exact answersLater fuel ((le_max_right _ _).trans within)

/-- A call in a state that an earlier one left. -/
theorem exists_call {before : State}
    (answers : ∀ fires, ∃ answer,
      answerBy lookup moment fuel fires state.heap = some (state.heap, answer))
    (lasts : Lasts state before) :
    ∃ after answer, Lasts state after ∧
      answerBy lookup moment fuel (decisions lookup moment before.slots) state.heap =
          some (state.heap, answer) ∧
        ∀ buffer, gethostbyname2R lookup fuel before moment buffer =
          some (after, deliver lookup moment answer buffer) := by
  rcases answers (decisions lookup moment before.slots) with ⟨answer, answered⟩
  have here := answered
  rw [← lasts.heap] at here
  rcases exists_settle here with ⟨after, settled, kept⟩
  refine ⟨after, answer, lasts.trans kept, answered, fun buffer => ?_⟩
  rw [gethostbyname2R_eq, settled]
  rfl

/-- Without `@first`, a call is answered as one that is made before it. -/
theorem answer_of_unlimited {before : State} {other : Moment} {answer : Answer}
    (unlimited : ∀ rule ∈ lookup.rules, rule.policy.first = 0)
    (alike : Alike lookup moment other) (lasts : Lasts state before)
    (answered : answerBy lookup moment fuel (decisions lookup moment before.slots)
      state.heap = some (state.heap, answer)) (buffer : Buffer) :
    ∃ single, gethostbyname2R lookup fuel state other buffer =
      some (single, deliver lookup moment answer buffer) := by
  rw [← decisions_alike unlimited alike fun slot => (lasts.generation slot).symm]
    at answered
  rcases alike with ⟨now, sample, rfl, -⟩
  have here : answerBy lookup { moment with now := now, sample := sample } fuel
      (decisions lookup { moment with now := now, sample := sample } state.slots)
      state.heap = some (state.heap, answer) := answered
  rcases exists_settle here with ⟨single, settles, -⟩
  refine ⟨single, ?_⟩
  rw [gethostbyname2R_eq, settles]
  cases answer <;> rfl

/-- What the loop of a caller does, next to calls with other buffers. -/
structure LoopEffect (lookup : Lookup) (fuel : Nat) (state : State)
    (first : Moment × Buffer) (larger earlier : List (Moment × Buffer))
    (last : Moment × Buffer) (between after : State) (answer : Answer) : Prop where
  loops : retry (gethostbyname2R lookup fuel) HostentOutcome.isRange state first larger =
    some (after, deliver lookup last.1 answer last.2)
  tried : Tried (gethostbyname2R lookup fuel) HostentOutcome.isRange state
    (first :: larger) earlier last between after (deliver lookup last.1 answer last.2)
  heap : after.heap = state.heap
  /-- The calls that are refused count and claim what they do with any buffers. -/
  refusals : ∀ others : List (Moment × Buffer),
    others.map Prod.fst = earlier.map Prod.fst →
      ∃ outcomes, callAll (gethostbyname2R lookup fuel) state others =
        some (between, outcomes)
  /-- So does the last call, and its answer is the one for any buffer. -/
  ends : ∀ buffer, gethostbyname2R lookup fuel between last.1 buffer =
    some (after, deliver lookup last.1 answer buffer)
  /-- Where those that are refused count no hit, the loop is one call. -/
  oneCall : between.slots = state.slots →
    ∀ buffer, gethostbyname2R lookup fuel state last.1 buffer =
      some (after, deliver lookup last.1 answer buffer)
  /-- Where no rule has `@first`, the loop is answered as one call. -/
  oneAnswer : (∀ rule ∈ lookup.rules, rule.policy.first = 0) →
    ∀ moment, Alike lookup last.1 moment → ∀ buffer, ∃ single,
      gethostbyname2R lookup fuel state moment buffer =
        some (single, deliver lookup last.1 answer buffer)

/--
For all rules, names, families, resolvers and buffers: every call of the loop fires its
rules, whatever its buffer.
-/
theorem callerLoop_effect (lookup : Lookup) {state : State}
    (coherent : Coherent state.heap) (first : Moment × Buffer)
    (larger : List (Moment × Buffer)) :
    ∃ enough, ∀ fuel, enough ≤ fuel → ∃ earlier last between after answer,
      LoopEffect lookup fuel state first larger earlier last between after answer := by
  rcases exists_answerBy_rounds lookup (first :: larger) coherent with ⟨enough, answers⟩
  refine ⟨enough, fun fuel within => ?_⟩
  have returns : ∀ before, Lasts state before → ∀ round ∈ first :: larger,
      ∃ after outcome, gethostbyname2R lookup fuel before round.1 round.2 =
        some (after, outcome) ∧ Lasts state after := by
    intro before lasts round member
    rcases exists_call (answers fuel within round member) lasts with
      ⟨after, answer, kept, -, calls⟩
    exact ⟨after, _, calls round.2, kept⟩
  have start : Lasts state state := ⟨rfl, fun _ => rfl⟩
  rcases exists_tried HostentOutcome.isRange returns start with
    ⟨earlier, last, between, after, outcome, loops, tried⟩
  have member : ∀ round ∈ earlier ++ [last], round ∈ first :: larger :=
    fun round inside => tried.made.subset inside
  rcases tried.refusals with ⟨refusals, refused, -⟩
  have kept : Lasts state between := by
    refine keeps_callAll (fun before lasts round inside next answered called => ?_) start
      refused
    rcases returns before lasts round (member round (List.mem_append_left _ inside)) with
      ⟨after, outcome, returned, lastsAfter⟩
    cases called.symm.trans returned
    exact lastsAfter
  have lastMember := member last (List.mem_append_right _ List.mem_cons_self)
  rcases exists_call (answers fuel within last lastMember) kept with
    ⟨settled, answer, lasts, answered, calls⟩
  cases tried.ends.symm.trans (calls last.2)
  exact
    ⟨earlier, last, between, after, answer,
      { loops, tried, heap := lasts.heap
        refusals := fun others same =>
          callAll_of_moments (gethostbyname2R_eq lookup fuel) refused same
        ends := calls
        oneCall := fun unchanged buffer => by
          rw [← State.ext unchanged kept.heap]
          exact calls buffer
        oneAnswer := fun unlimited moment alike buffer =>
          answer_of_unlimited unlimited alike kept answered buffer }⟩

/-! ## A small buffer first -/

theorem exists_of_map_ok {Error First Second : Type} {answered : Except Error First}
    {change : First → Second} {changed : Second}
    (mapped : answered.map change = .ok changed) :
    ∃ found, answered = .ok found ∧ change found = changed := by
  cases answered with
  | error code => cases mapped
  | ok found => exact ⟨found, rfl, Except.ok.inj mapped⟩

/-- A resolver that knows two IPv4 addresses. -/
def inetLibc : Libc :=
  { Resolve.pairLibc with
    getaddrinfo := fun memory node service hints =>
      (Resolve.pairLibc.getaddrinfo memory node service hints).map fun nodes =>
        nodes.map fun entry =>
          (entry.1,
            { entry.2 with
              family := afInet
              addr := some ([2, 0, 0, 80, 10, 0, 0, 1] ++ List.replicate 8 0) })
    answer_fresh := by
      intro memory node service hints nodes answered
      rcases exists_of_map_ok answered with ⟨listed, found, rfl⟩
      rw [addresses, List.map_map]
      exact Resolve.pairLibc.answer_fresh found
    answer_named := by
      intro memory node service hints nodes answered entry member
      rcases exists_of_map_ok answered with ⟨listed, found, rfl⟩
      rw [← List.map_tail] at member
      rcases List.mem_map.mp member with ⟨other, inside, rfl⟩
      exact Resolve.pairLibc.answer_named found other inside }

/-- One address of every name, for the first `first` calls. -/
def limitLookup (first : Nat) : Lookup where
  rules :=
    [{ selector := ⟨.any, .lookup, 1, []⟩, effect := .limit, limit := 1,
       probability := ⟨1, 1⟩, policy := { first }, hit := some 0, hitGeneration := 1 }]
  name := bytes "host"
  family := afInet

/-- A rule that has not fired, and no list in memory. -/
def freshState : State where
  slots _ := { HitSlot.zero with
    claimed := chaosHitClaimsNone 1, generation := 1, used := true }
  heap := OverrideAnswer.emptyMemory

/-- Nothing changes from call to call. -/
def quiet : Moment where
  forwarded := false
  now _ := 0
  sample _ := 0
  libc := inetLibc
  room := true
  draws _ := 0
  gethostbyname2R _ _ _ := .failed 0 tryAgain

/-- A buffer at an aligned address. -/
def bufferOf (size : Nat) : Buffer := ⟨8, size, fun _ => 255⟩

theorem callerLoop_effect_limitLookup :
    ∃ enough, ∀ fuel, enough ≤ fuel → ∃ earlier last between after answer,
      LoopEffect (limitLookup 1) fuel freshState (quiet, bufferOf 8)
        [(quiet, bufferOf 64)] earlier last between after answer :=
  callerLoop_effect (limitLookup 1) OverrideAnswer.coherent_emptyMemory
    (quiet, bufferOf 8) [(quiet, bufferOf 64)]

/-- The hits and the claims of the rule, and the first two pointers to addresses. -/
def observed (made : State × HostentOutcome) : Nat × Nat × List Nat :=
  ((made.1.slots 0).count, chaosHitClaims (made.1.slots 0).claimed,
    match made.2 with
    | .range | .failed _ _ => []
    | .found entry memory =>
        [ByteMemory.wordAt memory entry.hAddrList,
          ByteMemory.wordAt memory (entry.hAddrList + 8)])

/-- The loop and one call with a sufficient buffer. -/
def loopAndCall (first : Nat) : List (Option (Nat × Nat × List Nat)) :=
  [(retry (gethostbyname2R (limitLookup first) 4) HostentOutcome.isRange freshState
      (quiet, bufferOf 8) [(quiet, bufferOf 64)]).map observed,
    (gethostbyname2R (limitLookup first) 4 freshState quiet (bufferOf 64)).map observed]

/--
The call that is refused uses up the allowance, and the loop returns two addresses where
one call returns one; without an allowance, the loop counts two hits.
-/
theorem smallBuffer_costs :
    ((gethostbyname2R (limitLookup 1) 4 freshState quiet (bufferOf 8)).map fun made =>
        (HostentOutcome.isRange made.2, observed made)) = some (true, 1, 1, []) ∧
      loopAndCall 1 = [some (1, 1, [40, 44]), some (1, 1, [32, 0])] ∧
      loopAndCall 0 = [some (2, 0, [32, 0]), some (1, 0, [32, 0])] := by
  decide +kernel

end ChaosLibs.Dns.CallerLoop
