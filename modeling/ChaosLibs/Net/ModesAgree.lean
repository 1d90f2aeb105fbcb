import ChaosLibs.Common.PolicyGates
import ChaosLibs.Net.IssuedCalls
import Mathlib.Algebra.Order.BigOperators.Group.List
import Mathlib.Algebra.Order.Group.Nat

/-!
# The two modes of the net rules

Whether the supervisor selects for a system call the rule and the byte count
that the wrapper selects for the libc call that issues it.  It does for every
loaded snapshot exactly when the ends it looks at in addition show nothing new,
the descriptors of a `select` show their addresses in ascending order, and no
byte count is at stake that only one of the modes takes.
-/

namespace ChaosLibs.Net.ModesAgree

open ChaosLibs.Common.CString
open ChaosLibs.Common.PolicyGates
open ChaosLibs.Machine
open ChaosLibs.Search
open ChaosLibs.Net.Rule
open ChaosLibs.Net.MatchConnected
open ChaosLibs.Net.LoadedRules
open ChaosLibs.Net.CallingProcess
open ChaosLibs.Net.PreloadMatch
open ChaosLibs.Net.SupervisorMatch
open ChaosLibs.Net.CallTargets
open ChaosLibs.Net.IssuedCalls

/--
Whatever snapshot is loaded, the supervisor selects the rule and the byte count
that the wrapper selects.
-/
def SameMatch (caller : Caller) (memory : TraceeMemory) (libc : LibcCall)
    (system : ChaosInitCall) : Prop :=
  ∀ snapshot, (chaosInitNetDecide caller memory snapshot system).join =
    preloadMatch caller snapshot libc

/-! ## When the modes agree -/

/-- The peer does not resolve, or every rule that matches it matches the own end. -/
def PeerHidden (descriptor : Descriptor) : Prop :=
  ∀ peer, chaosNetEndpointFromPeerFd descriptor = some peer →
    ∃ own, chaosNetEndpointFromLocalFd descriptor = some own ∧
      Matches (addressSelector peer) own

/-- A vector at `NULL` that has no entries. -/
def EmptyAtNull (vector : IovecArray) : Prop :=
  vector.iov = none ∧ vector.count = 0

/-- The messages of a batch that count. -/
def batch (msgvec : Option (List Msghdr)) : List Msghdr :=
  (msgvec.getD []).take chaosNetMmsgMax

/-- The addresses a wait looks at, in the order of the descriptors. -/
def addresses (caller : Caller) (fds : List Int) : List ChaosNetEndpoint :=
  fds.filterMap fun fd => (watch caller fd).1

/-- The addresses a wait looks at, an address left out that an earlier one hides. -/
def shownAddresses (caller : Caller) (fds : List Int) :
    List ChaosNetEndpoint :=
  shown addressSelector hidesEndpoint (addresses caller fds)

/-- The condition on a call under which both modes match the same for it. -/
def Alike (caller : Caller) : LibcCall → Prop
  | .listen fd | .accept fd | .accept4 fd => PeerHidden (caller.descriptor fd)
  | .readv fd vector =>
      ends (caller.descriptor fd) false = (none, none) ∨ ¬ EmptyAtNull vector
  | .writev fd vector =>
      ends (caller.descriptor fd) true = (none, none) ∨ ¬ EmptyAtNull vector
  | .sendmsg fd message =>
      destination caller fd (message.bind Msghdr.name) = (none, none) ∨
        ∀ found, message = some found → ¬ EmptyAtNull found.vector
  | .recvmsg fd message =>
      ends (caller.descriptor fd) false = (none, none) ∨
        ∀ found, message = some found → ¬ EmptyAtNull found.vector
  | .sendmmsg fd msgvec =>
      (∀ message ∈ batch msgvec,
          destination caller fd message.name = (none, none)) ∨
        ((∃ message ∈ batch msgvec, EmptyAtNull message.vector) →
          mostBytes < ((batch msgvec).map fun message =>
            supervisorMessageSize (some message)).sum)
  | .recvmmsg fd msgvec =>
      ends (caller.descriptor fd) false = (none, none) ∨ msgvec = none ∨
        mostBytes < ((batch msgvec).map fun message =>
          chaosNetMessageSize (some message)).sum
  | .select nfds readfds writefds exceptfds
  | .pselect nfds readfds writefds exceptfds =>
      shownAddresses caller (setBySetFds nfds readfds writefds exceptfds) =
        shownAddresses caller (ascendingFds nfds readfds writefds exceptfds)
  | _ => True

/-! ## Byte counts -/

theorem chaosPolicyNoSize_pos : ¬ 0 = chaosPolicyNoSize := by
  decide

theorem supervisorIovecSize_eq_iff (vector : IovecArray) :
    supervisorIovecSize vector = chaosNetIovecSize vector ↔
      ¬ EmptyAtNull vector := by
  by_cases empty : EmptyAtNull vector
  · have none : supervisorIovecSize vector = 0 := if_pos empty
    have nothing : chaosNetIovecSize vector = chaosPolicyNoSize := by
      rw [chaosNetIovecSize, empty.1]
    rw [none, nothing]
    exact iff_of_false chaosPolicyNoSize_pos (not_not.mpr empty)
  · exact iff_of_true (if_neg empty) empty

theorem chaosNetMessageSize_some (message : Msghdr) :
    chaosNetMessageSize (some message) = chaosNetIovecSize message.vector := by
  unfold chaosNetMessageSize
  simp only
  split
  · rename_i many
    exact (chaosNetIovecSize_of_refused (Or.inr many)).symm
  · rfl

theorem supervisorMessageSize_eq_iff (message : Option Msghdr) :
    supervisorMessageSize message = chaosNetMessageSize message ↔
      ∀ found, message = some found → ¬ EmptyAtNull found.vector := by
  cases message with
  | none =>
      apply iff_of_true
      · exact Eq.refl chaosPolicyNoSize
      · intro found same
        cases same
  | some message =>
      rw [chaosNetMessageSize_some]
      refine (supervisorIovecSize_eq_iff _).trans ?_
      constructor
      · intro measured found same
        cases same
        exact measured
      · intro measured
        exact measured message rfl

/-- A batch is measured while its sum is small; no message counts for too much. -/
theorem foldlM_addPart
    (parts : List Nat) {start : Nat} (small : start ≤ mostBytes) :
    parts.foldlM addPart start =
      if start + parts.sum ≤ mostBytes then some (start + parts.sum)
      else none := by
  induction parts generalizing start with
  | nil =>
      rw [List.sum_nil, Nat.add_zero, if_pos small]
      rfl
  | cons part rest induction =>
      have most : mostBytes < chaosPolicyNoSize := by decide
      rw [List.foldlM_cons, List.sum_cons, ← Nat.add_assoc]
      unfold addPart
      by_cases refused :
          part = chaosPolicyNoSize ∨ mostBytes - start < part
      · rw [if_pos refused, if_neg (by omega)]
        rfl
      · rw [if_neg refused]
        exact induction (by omega)

theorem getD_foldlM_addPart (parts : List Nat) :
    (parts.foldlM addPart 0).getD chaosPolicyNoSize =
      if parts.sum ≤ mostBytes then parts.sum else chaosPolicyNoSize := by
  rw [foldlM_addPart parts (Nat.zero_le _), Nat.zero_add]
  split
  · rfl
  · rfl

theorem chaosNetMmsgSize_eq (messages : List Msghdr) :
    chaosNetMmsgSize (some messages) =
      let parts := (batch (some messages)).map fun message =>
        chaosNetMessageSize (some message)
      if parts.sum ≤ mostBytes then parts.sum else chaosPolicyNoSize := by
  rw [← getD_foldlM_addPart, List.foldlM_map]
  rfl

theorem supervisorBatchSize_eq (messages : List Msghdr) :
    supervisorBatchSize messages =
      let parts := (batch (some messages)).map fun message =>
        supervisorMessageSize (some message)
      if parts.sum ≤ mostBytes then parts.sum else chaosPolicyNoSize := by
  rw [← getD_foldlM_addPart, List.foldlM_map]
  rfl

/-- The library does not measure a batch, or there is none. -/
theorem noSize_eq_chaosNetMmsgSize_iff (msgvec : Option (List Msghdr)) :
    chaosPolicyNoSize = chaosNetMmsgSize msgvec ↔
      msgvec = none ∨
        mostBytes < ((batch msgvec).map fun message =>
          chaosNetMessageSize (some message)).sum := by
  cases msgvec with
  | none => exact iff_of_true rfl (Or.inl rfl)
  | some messages =>
      have most : mostBytes < chaosPolicyNoSize := by decide
      rw [chaosNetMmsgSize_eq]
      simp only [reduceCtorEq, false_or]
      generalize ((batch (some messages)).map fun message =>
        chaosNetMessageSize (some message)).sum = sum
      split
      · omega
      · exact iff_of_true rfl (by omega)

theorem supervisorBatchSize_eq_iff (messages : List Msghdr) :
    supervisorBatchSize messages = chaosNetMmsgSize (some messages) ↔
      ((∃ message ∈ batch (some messages), EmptyAtNull message.vector) →
        mostBytes < ((batch (some messages)).map fun message =>
          supervisorMessageSize (some message)).sum) := by
  have most : mostBytes < chaosPolicyNoSize := by decide
  by_cases empty :
      ∃ message ∈ batch (some messages), EmptyAtNull message.vector
  · -- The library does not measure the batch at all.
    have tooMuch : mostBytes < ((batch (some messages)).map fun message =>
        chaosNetMessageSize (some message)).sum := by
      rcases empty with ⟨message, member, null, -⟩
      have part : chaosNetMessageSize (some message) = chaosPolicyNoSize := by
        rw [chaosNetMessageSize_some, chaosNetIovecSize, null]
      have listed : chaosPolicyNoSize ∈ (batch (some messages)).map
          fun message => chaosNetMessageSize (some message) :=
        List.mem_map.mpr ⟨message, member, part⟩
      exact lt_of_lt_of_le most (List.le_sum_of_mem listed)
    rw [chaosNetMmsgSize_eq, supervisorBatchSize_eq]
    simp only
    rw [if_neg (not_le.mpr tooMuch)]
    generalize ((batch (some messages)).map fun message =>
      supervisorMessageSize (some message)).sum = sum
    split
    · rename_i small
      have counted : ¬ sum = chaosPolicyNoSize := by omega
      exact iff_of_false counted fun measured =>
        absurd (measured empty) (not_lt.mpr small)
    · rename_i large
      exact iff_of_true rfl fun _ => not_le.mp large
  · have parts : ((batch (some messages)).map fun message =>
          supervisorMessageSize (some message)) =
        (batch (some messages)).map fun message =>
          chaosNetMessageSize (some message) := by
      apply List.map_congr_left
      intro message member
      apply (supervisorMessageSize_eq_iff _).mpr
      intro found same null
      cases same
      exact empty ⟨message, member, null⟩
    rw [chaosNetMmsgSize_eq, supervisorBatchSize_eq, parts]
    exact iff_of_true rfl fun null => absurd null empty

/-! ## Rules -/

section Answers

variable {operation : ChaosNetOperation}

theorem answer_of_empty
    {question : Question} (empty : ∀ target ∈ question.targets,
      target = (none, none)) (snapshot : Snapshot) :
    question.answer snapshot = none := by
  have nothing : question.search snapshot = none := by
    unfold Question.search
    rw [List.findSome?_eq_none_iff]
    intro target member
    rw [empty target member]
    exact ruleOf_none _
  rw [Question.answer, nothing]
  rfl

/-- A target that resolves has a rule in some snapshot. -/
theorem exists_search
    (addressed : operation ≠ .socket) {targets : List Target} {target : Target}
    (member : target ∈ targets) (resolved : target ≠ (none, none))
    (size : Nat) :
    ∃ snapshot rule,
      (Question.mk operation targets size).search snapshot = some rule := by
  have ends : target.1 ≠ none ∨ target.2 ≠ none := by
    by_contra neither
    rw [not_or, not_not, not_not] at neither
    exact resolved (Prod.ext neither.1 neither.2)
  rcases (exists_bestOverEnds_iff addressed).mpr ends with ⟨snapshot, found⟩
  refine ⟨snapshot, ?_⟩
  apply Option.ne_none_iff_exists'.mp
  intro nothing
  exact found (List.findSome?_eq_none_iff.mp nothing target member)

/-- A byte count is at stake as soon as one target resolves. -/
theorem answers_agree_iff
    (addressed : operation ≠ .socket) {targets : List Target}
    {first second : Nat} :
    (∀ snapshot, (Question.mk operation targets first).answer snapshot =
        (Question.mk operation targets second).answer snapshot) ↔
      (∀ target ∈ targets, target = (none, none)) ∨ first = second := by
  constructor
  · intro agree
    by_contra neither
    rw [not_or, not_forall] at neither
    rcases neither with ⟨⟨target, unresolved⟩, different⟩
    rw [Classical.not_imp] at unresolved
    rcases exists_search addressed unresolved.1 unresolved.2 first with
      ⟨snapshot, rule, found⟩
    have equal := agree snapshot
    rw [Question.answer, Question.answer, found] at equal
    have same : (Question.mk operation targets second).search snapshot =
      some rule := found
    rw [same] at equal
    exact different
      (congrArg ChaosNetRule.callSize (Option.some.inj equal))
  · rintro (empty | rfl) snapshot
    · rw [answer_of_empty empty, answer_of_empty empty]
    · rfl

theorem answers_agree_singleton_iff
    (addressed : operation ≠ .socket) {target : Target} {first second : Nat} :
    (∀ snapshot, (Question.mk operation [target] first).answer snapshot =
        (Question.mk operation [target] second).answer snapshot) ↔
      target = (none, none) ∨ first = second := by
  rw [answers_agree_iff addressed, List.forall_mem_singleton]

/-- Looking at the peer as well makes no difference when it is hidden. -/
theorem answers_agree_peer_iff
    (addressed : operation ≠ .socket) {descriptor : Descriptor} :
    (∀ snapshot,
        (Question.mk operation [ends descriptor false]
            chaosPolicyNoSize).answer snapshot =
          (Question.mk operation
            [single (chaosNetEndpointFromLocalFd descriptor)]
              chaosPolicyNoSize).answer snapshot) ↔
      PeerHidden descriptor := by
  have rules : ∀ snapshot target,
      (Question.mk operation [target] chaosPolicyNoSize).answer snapshot =
        bestOverEnds snapshot.state operation target.1 target.2 := by
    intro snapshot target
    rw [answer_of_unmeasured rfl, search_singleton]
    rfl
  simp only [rules]
  change (∀ snapshot : Snapshot,
    bestOverEnds snapshot.state operation
        (chaosNetEndpointFromLocalFd descriptor)
        (chaosNetEndpointFromPeerFd descriptor) =
      bestOverEnds snapshot.state operation
        (chaosNetEndpointFromLocalFd descriptor) none) ↔ _
  unfold PeerHidden
  cases resolved : chaosNetEndpointFromPeerFd descriptor with
  | none => exact iff_of_true (fun _ => rfl) nofun
  | some peer =>
      rw [bestOverEnds_second_iff addressed]
      constructor
      · intro hidden other same
        cases same
        exact hidden
      · intro hidden
        exact hidden peer rfl

end Answers

/-! ## Waits -/

/-- A wait takes the rule of the first address that has one. -/
theorem search_addresses
    (caller : Caller) (snapshot : Snapshot) (fds : List Int) :
    (Question.mk .poll (fds.map (watch caller)) chaosPolicyNoSize).search
        snapshot =
      (addresses caller fds).findSome?
        (chaosNetConfigMatchEndpointLoaded snapshot.state .poll) := by
  change List.findSome? _ (fds.map (watch caller)) = _
  unfold addresses
  rw [List.findSome?_map, ← List.head?_filterMap, ← List.head?_filterMap,
    List.filterMap_filterMap]
  congr 2
  funext fd
  exact (bind_matchEndpointLoaded _ _).symm

theorem answers_agree_waits_iff
    {caller : Caller} {left right : List Int} :
    (∀ snapshot,
        (Question.mk .poll (left.map (watch caller))
            chaosPolicyNoSize).answer snapshot =
          (Question.mk .poll (right.map (watch caller))
            chaosPolicyNoSize).answer snapshot) ↔
      shownAddresses caller left = shownAddresses caller right := by
  have separates : Separates addressSelector hidesEndpoint
      (endpointSearches .poll) := separates_endpointSearches nofun
  refine Iff.trans ?_ separates.scans_agree_iff
  constructor
  · rintro agree search ⟨snapshot, rfl⟩
    have equal := agree snapshot
    rw [answer_of_unmeasured rfl, answer_of_unmeasured rfl, search_addresses,
      search_addresses] at equal
    exact equal
  · intro agree snapshot
    rw [answer_of_unmeasured rfl, answer_of_unmeasured rfl, search_addresses,
      search_addresses]
    exact agree _ ⟨snapshot, rfl⟩

/-! ## The modes -/

/-- What both modes ask of the rules decides whether they match the same. -/
theorem sameMatch_iff_answers
    {caller : Caller} {memory : TraceeMemory} {libc : LibcCall}
    {system : ChaosInitCall} (issues : Issues memory libc system)
    (within : Within caller libc) :
    SameMatch caller memory libc system ↔
      ∀ snapshot, (supervisorAsks caller libc).answer snapshot =
        (preloadAsks caller libc).answer snapshot := by
  unfold SameMatch
  apply forall_congr'
  intro snapshot
  rw [decide_eq_supervisorAsks issues within, preloadMatch_eq]

/--
For every call that both modes recognise and every state of its descriptors,
the modes select the same rule and the same byte count for every loaded
snapshot exactly when they are alike for the call.
-/
theorem sameNetMatch_iff_alike
    {caller : Caller} {memory : TraceeMemory} {libc : LibcCall}
    {system : ChaosInitCall} (issues : Issues memory libc system)
    (within : Within caller libc) :
    SameMatch caller memory libc system ↔ Alike caller libc := by
  rw [sameMatch_iff_answers issues within]
  have listens : ChaosNetOperation.listen ≠ .socket := nofun
  have accepts : ChaosNetOperation.accept ≠ .socket := nofun
  have sends : ChaosNetOperation.send ≠ .socket := nofun
  have receives : ChaosNetOperation.recv ≠ .socket := nofun
  cases libc with
  | listen fd => exact answers_agree_peer_iff listens
  | accept fd => exact answers_agree_peer_iff accepts
  | accept4 fd => exact answers_agree_peer_iff accepts
  | readv fd vector =>
      rw [Alike, ← supervisorIovecSize_eq_iff]
      exact answers_agree_singleton_iff receives
  | writev fd vector =>
      rw [Alike, ← supervisorIovecSize_eq_iff]
      exact answers_agree_singleton_iff sends
  | sendmsg fd message =>
      rw [Alike, ← supervisorMessageSize_eq_iff]
      exact answers_agree_singleton_iff sends
  | recvmsg fd message =>
      rw [Alike, ← supervisorMessageSize_eq_iff]
      exact answers_agree_singleton_iff receives
  | sendmmsg fd msgvec =>
      refine (answers_agree_iff sends).trans ?_
      cases msgvec with
      | none =>
          exact iff_of_true (Or.inl (List.forall_mem_nil _))
            (Or.inl (List.forall_mem_nil _))
      | some messages =>
          exact or_congr List.forall_mem_map
            (supervisorBatchSize_eq_iff messages)
  | recvmmsg fd msgvec =>
      rw [Alike, ← noSize_eq_chaosNetMmsgSize_iff]
      exact answers_agree_singleton_iff receives
  | select nfds readfds writefds exceptfds => exact answers_agree_waits_iff
  | pselect nfds readfds writefds exceptfds => exact answers_agree_waits_iff
  | _ => exact iff_of_true (fun _ => rfl) trivial

/-! ## A process that waits and receives -/

/-- The TCP endpoint of a port of the loopback address. -/
def loopback (port : UInt16) : ChaosNetEndpoint :=
  { ChaosNetEndpoint.zeroed .tcp4 with port := port, ipv4 := 0x7f000001 }

/-- A process with sockets on descriptors 5 and 9, bound and not connected. -/
def server : Caller where
  descriptor := fun fd =>
    if fd = 5 then .socket (some (loopback 80)) none
    else if fd = 9 then .socket (some (loopback 443)) none
    else .notOpen
  socketType := fun _ => some .stream
  watched := fun _ => []

/-- A vector of one entry of 512 bytes. -/
def oneBuffer : IovecArray where
  iov := some [512]
  count := 1
  counted := by
    intro lengths same _
    cases same
    rfl
  fits := by decide

/--
Its memory: a set of 9 at `0x1000` and one of 5 at `0x2000`, a message at
`0x3000` and its vector of one entry at `0x4000`.
-/
def serverMemory : TraceeMemory where
  bytes := fun _ _ => none
  iovecs := fun address count =>
    if count = 0 then some []
    else if address = 0x4000 ∧ count = 1 then some [512]
    else none
  msghdr := fun address =>
    if address = 0x3000 then some ⟨0, 0, 0x4000, 1⟩ else none
  pollfds := fun _ _ => none
  fdSet := fun address _ =>
    if address = 0x1000 then some (· == 9)
    else if address = 0x2000 then some (· == 5)
    else none
  nullIovecs := by
    intro count some
    rw [if_neg (Nat.pos_iff_ne_zero.mp some)]
    exact if_neg fun both => absurd both.1 (by decide)
  nullMsghdr := rfl
  nullPollfds := fun _ _ => rfl

theorem holds_oneBuffer : Holds (serverMemory.iovecsFrom 0x4000) [512] := by
  intro start count within
  have few : start + count ≤ 1 := within
  cases count with
  | zero => rfl
  | succ more =>
      have first : start = 0 := by omega
      have one : more = 0 := by omega
      rw [first, one]
      rfl

/-- `listen(5, ...)`. -/
def listenCall : ChaosInitCall where
  nr := .listen
  args := fun _ => 5

theorem sameNetMatch_iff_alike_listenCall :
    SameMatch server serverMemory (.listen 5) listenCall := by
  have issues : Issues serverMemory (.listen 5) listenCall :=
    ⟨rfl, by decide⟩
  refine (sameNetMatch_iff_alike issues trivial).mpr ?_
  intro peer resolved
  cases resolved

/-- `select(10, {9}, {5}, NULL, ...)`. -/
def selectCall : ChaosInitCall where
  nr := .select
  args := fun index =>
    if index = 0 then 10
    else if index = 1 then 0x1000
    else if index = 2 then 0x2000
    else 0

/-- A rule on waits for each of the two addresses. -/
def waitRules : Snapshot :=
  naming (show ChaosNetOperation.poll ≠ .socket from nofun)
    [loopback 80, loopback 443]

/-- `recvmmsg(5, msgvec, 1, ...)`. -/
def recvmmsgCall : ChaosInitCall where
  nr := .recvmmsg
  args := fun index =>
    if index = 0 then 5
    else if index = 1 then 0x3000
    else if index = 2 then 1
    else 0

/-- The message of that batch. -/
def oneMessage : Msghdr where
  name := none
  vector := oneBuffer

/-- `tcp4://127.0.0.1:80:recv:LATENCY:1 @size>0`. -/
def receiveRule : ChaosNetRule :=
  { namingRule .recv (loopback 80) with
    policy := { sizeAbove := 0, hasSizeAbove := true } }

/-- The snapshot of a file with that one rule. -/
def receiveRules : Snapshot where
  state := ⟨true, [receiveRule]⟩
  loaded := by
    intro rule member
    rw [List.mem_singleton.mp member]
    exact {
      allowed := rfl
      text := nofun
      effect := rfl
      supported := rfl
      unmeasured := rfl }

/--
A `select` of which the write set holds the lower descriptor gets the rule of
that one from the wrapper and the rule of the read set from the supervisor; and
the supervisor has no byte count for a `recvmmsg` that the wrapper measures, so
that its rule does not pass its gate.
-/
theorem select_and_recvmmsg_match_differently :
    (Issues serverMemory
        (.select 10 (some (· == 9)) (some (· == 5)) none) selectCall ∧
      Within server (.select 10 (some (· == 9)) (some (· == 5)) none) ∧
      preloadMatch server waitRules
          (.select 10 (some (· == 9)) (some (· == 5)) none) =
        some (namingRule .poll (loopback 80)) ∧
      (chaosInitNetDecide server serverMemory waitRules selectCall).join =
        some (namingRule .poll (loopback 443)) ∧
      ¬ SameMatch server serverMemory
          (.select 10 (some (· == 9)) (some (· == 5)) none) selectCall) ∧
    (Issues serverMemory (.recvmmsg 5 (some [oneMessage])) recvmmsgCall ∧
      preloadMatch server receiveRules (.recvmmsg 5 (some [oneMessage])) =
        some (measured 512 receiveRule) ∧
      (chaosInitNetDecide server serverMemory receiveRules recvmmsgCall).join =
        some receiveRule ∧
      chaosPolicySizeOk receiveRule.policy 512 = true ∧
      chaosPolicySizeOk receiveRule.policy receiveRule.callSize = false ∧
      ¬ SameMatch server serverMemory (.recvmmsg 5 (some [oneMessage]))
          recvmmsgCall) := by
  have wrapperWaits : preloadMatch server waitRules
      (.select 10 (some (· == 9)) (some (· == 5)) none) =
        some (namingRule .poll (loopback 80)) := by
    decide +kernel
  have supervisorWaits :
      (chaosInitNetDecide server serverMemory waitRules selectCall).join =
        some (namingRule .poll (loopback 443)) := by
    decide +kernel
  have wrapperReceives :
      preloadMatch server receiveRules (.recvmmsg 5 (some [oneMessage])) =
        some (measured 512 receiveRule) := by
    decide +kernel
  have supervisorReceives :
      (chaosInitNetDecide server serverMemory receiveRules recvmmsgCall).join =
        some receiveRule := by
    decide +kernel
  constructor
  · have within : (10 : Int) ≤ fdSetsize := by
      decide
    refine ⟨?_, within, wrapperWaits, supervisorWaits, ?_⟩
    · refine ⟨Or.inl rfl, by decide, ?_, ?_, rfl⟩
      · exact ⟨by decide, (· == 9), rfl, fun _ _ => rfl⟩
      · exact ⟨by decide, (· == 5), rfl, fun _ _ => rfl⟩
    · intro same
      have decided := same waitRules
      rw [wrapperWaits, supervisorWaits] at decided
      exact absurd decided (by decide +kernel)
  · refine ⟨?_, wrapperReceives, supervisorReceives, by decide, by decide, ?_⟩
    · refine ⟨⟨rfl, by decide⟩, by decide, ?_⟩
      intro index message found
      cases index with
      | zero =>
          cases found
          exact ⟨⟨0, 0, 0x4000, 1⟩, rfl, rfl, by decide, by decide,
            fun _ _ => holds_oneBuffer⟩
      | succ more => cases found
    · intro same
      have decided := same receiveRules
      rw [wrapperReceives, supervisorReceives] at decided
      exact absurd decided (by decide +kernel)

end ChaosLibs.Net.ModesAgree
