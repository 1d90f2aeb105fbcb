import ChaosLibs.Net.SupervisorMatch

/-!
# What a call asks the net rules

Over the code of both modes lies a view of a call: an operation, the ends it
looks for rules on, one connection after the other, and a byte count.  The
wrappers ask this of the rules, and the supervisor asks it for a system call.
-/

namespace ChaosLibs.Net.CallTargets

open ChaosLibs.Common.CString
open ChaosLibs.Io.SupervisorMatch (int32)
open ChaosLibs.Machine
open ChaosLibs.Search
open ChaosLibs.Net.Rule
open ChaosLibs.Net.MatchConnected
open ChaosLibs.Net.LoadedRules
open ChaosLibs.Net.CallingProcess
open ChaosLibs.Net.PreloadMatch
open ChaosLibs.Net.SupervisorMatch

/-! ## Questions -/

/-- The ends of one connection, the one that wins ties first. -/
abbrev Target := Option ChaosNetEndpoint × Option ChaosNetEndpoint

/-- A single endpoint, if it resolves. -/
def single (endpoint : Option ChaosNetEndpoint) : Target :=
  (endpoint, none)

/-- What a call asks the rules. -/
structure Question where
  operation : ChaosNetOperation
  targets : List Target
  size : Nat

/-- The rule of one target. -/
def Snapshot.ruleOf (snapshot : Snapshot) (operation : ChaosNetOperation)
    (target : Target) : Option ChaosNetRule :=
  bestOverEnds snapshot.state operation target.1 target.2

/-- The rule of the first target that has one. -/
def Question.search (question : Question) (snapshot : Snapshot) :
    Option ChaosNetRule :=
  question.targets.findSome? (Snapshot.ruleOf snapshot question.operation)

/-- The rule and its byte count. -/
def Question.answer (question : Question) (snapshot : Snapshot) :
    Option ChaosNetRule :=
  (question.search snapshot).map (measured question.size)

/-! ## What the wrappers ask -/

section Asked

variable (caller : Caller)

/-- The destination of a send: the address passed, else the connection's ends. -/
def destination (fd : Int) (address : Option Bytes) : Target :=
  match address with
  | some address =>
      single (chaosNetEndpointFromSockaddrFd caller fd (some address))
  | none => ends (caller.descriptor fd) true

/-- A descriptor a wait watches. -/
def watch (fd : Int) : Target :=
  single
    (if 0 ≤ fd then chaosNetEndpointFromActivityFd (caller.descriptor fd)
      else none)

/-- The descriptors of three sets in ascending order. -/
def ascendingFds (nfds : Int) (readfds writefds exceptfds : Option (Nat → Bool)) :
    List Int :=
  ((List.range nfds.toNat).filter
    (inSomeSet readfds writefds exceptfds)).map Int.ofNat

/-- What a wrapper asks of the rules. -/
def preloadAsks : LibcCall → Question
  | .socket domain type | .socketpair domain type =>
      ⟨.socket, [single (chaosNetEndpointFromSocketSpec domain type)],
        chaosPolicyNoSize⟩
  | .bind fd address =>
      ⟨.bind, [single (chaosNetEndpointFromSockaddrFd caller fd address)],
        chaosPolicyNoSize⟩
  | .connect fd address =>
      ⟨.connect, [single (chaosNetEndpointFromSockaddrFd caller fd address)],
        chaosPolicyNoSize⟩
  | .listen fd =>
      ⟨.listen, [single (chaosNetEndpointFromLocalFd (caller.descriptor fd))],
        chaosPolicyNoSize⟩
  | .accept fd | .accept4 fd =>
      ⟨.accept, [single (chaosNetEndpointFromLocalFd (caller.descriptor fd))],
        chaosPolicyNoSize⟩
  | .shutdown fd =>
      ⟨.shutdown,
        [single (chaosNetEndpointFromActivityFd (caller.descriptor fd))],
        chaosPolicyNoSize⟩
  | .send fd size =>
      ⟨.send, [ends (caller.descriptor fd) true], size.toNat⟩
  | .sendto fd size address =>
      ⟨.send, [destination caller fd address], size.toNat⟩
  | .sendmsg fd message =>
      ⟨.send, [destination caller fd (message.bind Msghdr.name)],
        chaosNetMessageSize message⟩
  | .sendmmsg fd msgvec =>
      ⟨.send,
        ((msgvec.getD []).take chaosNetMmsgMax).map fun message =>
          destination caller fd message.name,
        chaosNetMmsgSize msgvec⟩
  | .recv fd size | .recvfrom fd size | .read fd size =>
      ⟨.recv, [ends (caller.descriptor fd) false], size.toNat⟩
  | .recvmsg fd message =>
      ⟨.recv, [ends (caller.descriptor fd) false], chaosNetMessageSize message⟩
  | .recvmmsg fd msgvec =>
      ⟨.recv, [ends (caller.descriptor fd) false], chaosNetMmsgSize msgvec⟩
  | .readv fd vector =>
      ⟨.recv, [ends (caller.descriptor fd) false], chaosNetIovecSize vector⟩
  | .write fd size =>
      ⟨.send, [ends (caller.descriptor fd) true], size.toNat⟩
  | .writev fd vector =>
      ⟨.send, [ends (caller.descriptor fd) true], chaosNetIovecSize vector⟩
  | .close fd =>
      ⟨.close,
        [single (chaosNetEndpointFromActivityFd (caller.descriptor fd))],
        chaosPolicyNoSize⟩
  | .poll fds | .ppoll fds =>
      ⟨.poll, (fds.getD []).map (watch caller), chaosPolicyNoSize⟩
  | .select nfds readfds writefds exceptfds
  | .pselect nfds readfds writefds exceptfds =>
      ⟨.poll,
        (ascendingFds nfds readfds writefds exceptfds).map (watch caller),
        chaosPolicyNoSize⟩
  | .epollWait epfd | .epollPwait epfd =>
      ⟨.poll, (caller.watched epfd).map (watch caller), chaosPolicyNoSize⟩

/-! ## What the supervisor asks -/

/-- The supervisor's byte count of a vector: an empty one at `NULL` has none. -/
def supervisorIovecSize (vector : IovecArray) : Nat :=
  if vector.iov = none ∧ vector.count = 0 then 0 else chaosNetIovecSize vector

/-- Its byte count of a message. -/
def supervisorMessageSize : Option Msghdr → Nat
  | none => chaosPolicyNoSize
  | some message => supervisorIovecSize message.vector

/-- Its byte count of a batch. -/
def supervisorBatchSize (messages : List Msghdr) : Nat :=
  ((messages.take chaosNetMmsgMax).foldlM
    (fun total message => addPart total (supervisorMessageSize (some message)))
    0).getD chaosPolicyNoSize

/-- The descriptors of a set, if it is not `NULL`, in ascending order. -/
def setFds (nfds : Int) (set : Option (Nat → Bool)) : List Int :=
  ((List.range nfds.toNat).filter fun fd => set.any fun bits => bits fd).map
    Int.ofNat

/-- The descriptors of three sets, set by set, 1024 at most. -/
def setBySetFds
    (nfds : Int) (readfds writefds exceptfds : Option (Nat → Bool)) :
    List Int :=
  (setFds nfds readfds ++ setFds nfds writefds ++ setFds nfds exceptfds).take
    chaosInitNetMaxWait

/-- What the supervisor asks of the rules where it does not ask the same. -/
def supervisorAsks : LibcCall → Question
  | .listen fd =>
      ⟨.listen, [ends (caller.descriptor fd) false], chaosPolicyNoSize⟩
  | .accept fd | .accept4 fd =>
      ⟨.accept, [ends (caller.descriptor fd) false], chaosPolicyNoSize⟩
  | .sendmsg fd message =>
      { preloadAsks caller (.sendmsg fd message) with
        size := supervisorMessageSize message }
  | .sendmmsg fd msgvec =>
      { preloadAsks caller (.sendmmsg fd msgvec) with
        size := supervisorBatchSize (msgvec.getD []) }
  | .recvmsg fd message =>
      { preloadAsks caller (.recvmsg fd message) with
        size := supervisorMessageSize message }
  | .recvmmsg fd msgvec =>
      { preloadAsks caller (.recvmmsg fd msgvec) with
        size := chaosPolicyNoSize }
  | .readv fd vector =>
      { preloadAsks caller (.readv fd vector) with
        size := supervisorIovecSize vector }
  | .writev fd vector =>
      { preloadAsks caller (.writev fd vector) with
        size := supervisorIovecSize vector }
  | .select nfds readfds writefds exceptfds
  | .pselect nfds readfds writefds exceptfds =>
      ⟨.poll, (setBySetFds nfds readfds writefds exceptfds).map (watch caller),
        chaosPolicyNoSize⟩
  | libc => preloadAsks caller libc

end Asked

/-! ## The wrappers' questions -/

section Preload

variable {caller : Caller} {snapshot : Snapshot}

theorem ruleOf_of_unprepared
    (unprepared : (!chaosNetConfigPrepare snapshot.state) = true)
    (operation : ChaosNetOperation) (target : Target) :
    Snapshot.ruleOf snapshot operation target = none := by
  apply bestOverEnds_of_untargeted
  rw [Bool.not_eq_true', chaosNetConfigPrepare, Bool.not_eq_false',
    List.isEmpty_iff] at unprepared
  rw [chaosNetConfigTargetsLoaded, unprepared, List.any_nil, Bool.and_false]
  exact Bool.false_ne_true

theorem ruleOf_none (operation : ChaosNetOperation) :
    Snapshot.ruleOf snapshot operation (none, none) = none := by
  unfold Snapshot.ruleOf bestOverEnds
  split
  · rfl
  · rfl

theorem bind_matchEndpointLoaded
    (operation : ChaosNetOperation) (endpoint : Option ChaosNetEndpoint) :
    endpoint.bind (chaosNetConfigMatchEndpointLoaded snapshot.state operation) =
      Snapshot.ruleOf snapshot operation (single endpoint) := by
  cases endpoint with
  | none => exact (ruleOf_none operation).symm
  | some endpoint => exact matchEndpointLoaded_eq _ _ _

theorem bind_matchEndpoint
    (operation : ChaosNetOperation) (endpoint : Option ChaosNetEndpoint) :
    endpoint.bind (chaosNetConfigMatchEndpoint snapshot operation) =
      Snapshot.ruleOf snapshot operation (single endpoint) := by
  cases endpoint with
  | none => exact (ruleOf_none operation).symm
  | some endpoint =>
      rw [Option.bind_some, chaosNetConfigMatchEndpoint]
      split
      · rename_i unprepared
        exact (ruleOf_of_unprepared unprepared _ _).symm
      · exact matchEndpointLoaded_eq _ _ _

theorem matchConnected_eq_ruleOf
    (fd : Int) (operation : ChaosNetOperation) (peerFirst : Bool) :
    matchConnected caller snapshot fd operation peerFirst =
      Snapshot.ruleOf snapshot operation (ends (caller.descriptor fd) peerFirst) :=
  matchConnected_eq_bestOverEnds _ _ _ _

theorem loaded_of_search
    {question : Question} {rule : ChaosNetRule}
    (found : question.search snapshot = some rule) : Loaded rule := by
  rcases List.exists_of_findSome?_eq_some found with ⟨target, -, matched⟩
  exact loaded_of_bestOverEnds matched

theorem search_of_unprepared
    (unprepared : (!chaosNetConfigPrepare snapshot.state) = true)
    (question : Question) : question.search snapshot = none := by
  unfold Question.search
  rw [List.findSome?_eq_none_iff]
  intro target _
  exact ruleOf_of_unprepared unprepared _ _

/-- A question about one target. -/
theorem search_singleton
    (operation : ChaosNetOperation) (target : Target) (size : Nat) :
    (Question.mk operation [target] size).search snapshot =
      Snapshot.ruleOf snapshot operation target := by
  change List.findSome? _ [target] = _
  rw [List.findSome?_cons]
  cases Snapshot.ruleOf snapshot operation target with
  | none => rfl
  | some rule => rfl

/-- A rule that is not measured keeps what the parser gave it. -/
theorem answer_of_unmeasured
    {question : Question} (unmeasured : question.size = chaosPolicyNoSize) :
    question.answer snapshot = question.search snapshot := by
  unfold Question.answer
  rw [unmeasured]
  cases found : question.search snapshot with
  | none => rfl
  | some rule =>
      have callSize : rule.callSize = chaosPolicyNoSize :=
        (loaded_of_search found).unmeasured
      rw [Option.map_some, measured, ← callSize]

theorem answer_single
    (operation : ChaosNetOperation) (endpoint : Option ChaosNetEndpoint) :
    (Question.mk operation [single endpoint] chaosPolicyNoSize).answer
        snapshot =
      endpoint.bind (chaosNetConfigMatchEndpoint snapshot operation) := by
  rw [answer_of_unmeasured rfl, search_singleton, bind_matchEndpoint]

theorem answer_connected
    (fd : Int) (operation : ChaosNetOperation) (peerFirst : Bool)
    (size : Nat) :
    (Question.mk operation [ends (caller.descriptor fd) peerFirst]
        size).answer snapshot =
      (matchConnected caller snapshot fd operation peerFirst).map
        (measured size) := by
  unfold Question.answer
  rw [search_singleton, matchConnected_eq_ruleOf]

theorem answer_destination
    (fd : Int) (address : Option Bytes) (size : Nat) :
    (Question.mk .send [destination caller fd address] size).answer snapshot =
      (match address with
        | some address => matchAddress caller snapshot fd (some address) .send
        | none => matchConnected caller snapshot fd .send true).map
        (measured size) := by
  unfold Question.answer
  rw [search_singleton]
  cases address with
  | none => rw [matchConnected_eq_ruleOf]; rfl
  | some address => 
      change _ = (matchAddress caller snapshot fd (some address) .send).map _
      rw [matchAddress, bind_matchEndpoint]
      rfl

/-- The rule of a watched descriptor. -/
theorem ruleOf_watch (fd : Int) :
    Snapshot.ruleOf snapshot .poll (watch caller fd) =
      if 0 ≤ fd then chaosNetWaitMatchFdLoaded caller snapshot fd else none := by
  unfold watch
  split
  · exact (bind_matchEndpointLoaded _ _).symm
  · exact ruleOf_none _

theorem search_watches (fds : List Int) (size : Nat) :
    (Question.mk .poll (fds.map (watch caller)) size).search snapshot =
      fds.findSome? fun fd =>
        if 0 ≤ fd then chaosNetWaitMatchFdLoaded caller snapshot fd
        else none := by
  change List.findSome? _ (fds.map (watch caller)) = _
  rw [List.findSome?_map]
  congr 1
  funext fd
  exact ruleOf_watch fd

theorem findSome_filter {Item Found : Type*} (keep : Item → Bool)
    (test : Item → Option Found) (items : List Item) :
    (items.filter keep).findSome? test =
      items.findSome? fun item => if keep item then test item else none := by
  induction items with
  | nil => rfl
  | cons item rest induction =>
      rw [List.findSome?_cons]
      by_cases kept : keep item = true
      · rw [List.filter_cons_of_pos kept, List.findSome?_cons, induction,
          if_pos kept]
      · rw [List.filter_cons_of_neg kept, induction, if_neg kept]

/-- The loop of `sendmmsg` takes the first message that has a rule. -/
theorem sendmmsgLoop_eq
    (fd : Int) (checked : Bool) (messages : List Msghdr)
    (nothing : checked = true →
      matchConnected caller snapshot fd .send true = none) :
    sendmmsgLoop caller snapshot fd checked messages =
      (messages.map fun message => destination caller fd message.name).findSome?
        (Snapshot.ruleOf snapshot .send) := by
  induction messages generalizing checked with
  | nil => rfl
  | cons message rest induction =>
      rw [List.map_cons, List.findSome?_cons, sendmmsgLoop]
      cases name : message.name with
      | some address =>
          simp only
          rw [bind_matchEndpointLoaded]
          have named : destination caller fd (some address) =
              single (chaosNetEndpointFromSockaddrFd caller fd (some address)) :=
            rfl
          rw [named]
          cases Snapshot.ruleOf snapshot .send (single
              (chaosNetEndpointFromSockaddrFd caller fd (some address))) with
          | some rule => rfl
          | none => exact induction checked nothing
      | none =>
          have connected : Snapshot.ruleOf snapshot .send
              (destination caller fd none) =
                matchConnected caller snapshot fd .send true :=
            (matchConnected_eq_ruleOf fd .send true).symm
          rw [connected]
          cases checked with
          | true =>
              rw [nothing rfl]
              exact induction true nothing
          | false =>
              cases found : matchConnected caller snapshot fd .send true with
              | some rule => rfl
              | none => exact induction true fun _ => found

/-- A wrapper matches what it asks of the rules. -/
theorem preloadMatch_eq
    (caller : Caller) (snapshot : Snapshot) (libc : LibcCall) :
    preloadMatch caller snapshot libc =
      (preloadAsks caller libc).answer snapshot := by
  have described : ∀ fd operation size,
      (operation = .send ∨ operation = .recv) →
      chaosNetMatchDescriptorRule caller snapshot fd operation size =
        (Question.mk operation
          [ends (caller.descriptor fd) (operation == .send)] size).answer
            snapshot := by
    intro fd operation size data
    unfold chaosNetMatchDescriptorRule
    split
    · rename_i unprepared
      rw [Question.answer, search_of_unprepared unprepared]
      rfl
    · rw [answer_connected]
  have waits : ∀ fds : List Int,
      (if !chaosNetConfigPrepare snapshot.state then none
        else fds.findSome? fun fd =>
          if 0 ≤ fd then chaosNetWaitMatchFdLoaded caller snapshot fd
          else none) =
      (Question.mk .poll (fds.map (watch caller))
        chaosPolicyNoSize).answer snapshot := by
    intro fds
    rw [answer_of_unmeasured rfl]
    split
    · rename_i unprepared
      exact (search_of_unprepared unprepared _).symm
    · exact (search_watches fds _).symm
  have sets : ∀ nfds readfds writefds exceptfds,
      chaosNetWaitMatchFdsets caller snapshot nfds readfds writefds exceptfds =
        (preloadAsks caller
          (.select nfds readfds writefds exceptfds)).answer snapshot := by
    intro nfds readfds writefds exceptfds
    change _ = (Question.mk .poll _ chaosPolicyNoSize).answer snapshot
    unfold chaosNetWaitMatchFdsets
    rw [answer_of_unmeasured rfl]
    split
    · rename_i nothing
      rcases nothing with negative | unprepared
      · rw [search_watches, ascendingFds, Int.toNat_of_nonpos negative]
        rfl
      · exact (search_of_unprepared unprepared _).symm
    · rw [search_watches, ascendingFds, List.findSome?_map, findSome_filter]
      rfl
  have polls : ∀ fds, chaosNetWaitMatchPollfds caller snapshot fds =
      (preloadAsks caller (.poll fds)).answer snapshot := by
    intro fds
    cases fds with
    | none => rfl
    | some fds => exact waits fds
  cases libc with
  | socket domain type => exact (answer_single _ _).symm
  | socketpair domain type => exact (answer_single _ _).symm
  | bind fd address => exact (answer_single _ _).symm
  | connect fd address => exact (answer_single _ _).symm
  | listen fd => exact (answer_single _ _).symm
  | accept fd => exact (answer_single _ _).symm
  | accept4 fd => exact (answer_single _ _).symm
  | shutdown fd => exact (answer_single _ _).symm
  | send fd size => exact (answer_connected _ _ _ _).symm
  | sendto fd size address =>
      refine Eq.trans ?_ (answer_destination _ _ _).symm
      cases address with
      | none => rfl
      | some address => rfl
  | sendmsg fd message => exact (answer_destination _ _ _).symm
  | sendmmsg fd msgvec =>
      cases msgvec with
      | none => rfl
      | some messages =>
          change (if !chaosNetConfigPrepare snapshot.state then none
            else (sendmmsgLoop caller snapshot fd false
              (messages.take chaosNetMmsgMax)).map _) = _
          split
          · rename_i unprepared
            rw [Question.answer, search_of_unprepared unprepared]
            rfl
          · rw [sendmmsgLoop_eq fd false _ nofun]
            rfl
  | recv fd size => exact (answer_connected _ _ _ _).symm
  | recvfrom fd size => exact (answer_connected _ _ _ _).symm
  | recvmsg fd message => exact (answer_connected _ _ _ _).symm
  | recvmmsg fd msgvec => exact (answer_connected _ _ _ _).symm
  | read fd size => exact described fd .recv _ (Or.inr rfl)
  | readv fd vector => exact described fd .recv _ (Or.inr rfl)
  | write fd size => exact described fd .send _ (Or.inl rfl)
  | writev fd vector => exact described fd .send _ (Or.inl rfl)
  | close fd =>
      change chaosNetMatchDescriptorRule caller snapshot fd .close _ = _
      unfold chaosNetMatchDescriptorRule
      split
      · rename_i unprepared
        rw [Question.answer, search_of_unprepared unprepared]
        rfl
      · rw [if_neg (by decide), bind_matchEndpointLoaded,
          ← search_singleton _ _ chaosPolicyNoSize]
        rfl
  | poll fds => exact polls fds
  | ppoll fds => exact polls fds
  | select nfds readfds writefds exceptfds => exact sets _ _ _ _
  | pselect nfds readfds writefds exceptfds => exact sets _ _ _ _
  | epollWait epfd => exact waits _
  | epollPwait epfd => exact waits _

end Preload

end ChaosLibs.Net.CallTargets
