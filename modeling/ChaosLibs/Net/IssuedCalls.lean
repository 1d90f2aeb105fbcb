import ChaosLibs.Net.CallTargets

/-!
# The system calls of the wrapped calls

By which system calls the C libraries make a call, and what the supervisor,
which reads the call's records from the caller's memory, asks of the rules for
it.
-/

namespace ChaosLibs.Net.IssuedCalls

open ChaosLibs.Common.CString
open ChaosLibs.Io.SupervisorMatch (int32)
open ChaosLibs.Machine
open ChaosLibs.Search
open ChaosLibs.Net.Rule
open ChaosLibs.Net.MatchConnected
open ChaosLibs.Net.LoadedRules
open ChaosLibs.Net.CallingProcess
open ChaosLibs.Net.PreloadMatch
open ChaosLibs.Net.SupervisorMatch
open ChaosLibs.Net.CallTargets

/-! ## Records in memory -/

section Memory

variable (memory : TraceeMemory)

/-- An address of a length, or `NULL`. -/
def HoldsName (address length : UInt64) : Option Bytes → Prop
  | none => address = 0
  | some name =>
      address ≠ 0 ∧ length.toNat = name.length ∧
        memory.bytes address (min name.length 128) = some (name.take 128)

/-- A vector and its count; one the kernel refuses need not be there. -/
def HoldsVector (address count : UInt64) (vector : IovecArray) : Prop :=
  count = UInt64.ofInt vector.count ∧
    match vector.iov with
    | none => address = 0
    | some lengths =>
        address ≠ 0 ∧
          (0 ≤ vector.count → vector.count ≤ chaosNetIovMax →
            Holds (memory.iovecsFrom address) lengths)

/-- A message, or `NULL`. -/
def HoldsMessage (address : UInt64) : Option Msghdr → Prop
  | none => address = 0
  | some message =>
      ∃ raw, memory.msghdr address = some raw ∧
        HoldsName memory raw.name raw.namelen message.name ∧
          HoldsVector memory raw.iov raw.iovlen message.vector

/-- A batch of messages, or `NULL`. -/
def HoldsBatch (address vlen : UInt64) : Option (List Msghdr) → Prop
  | none => address = 0
  | some messages =>
      vlen.toNat = messages.length ∧
        ∀ index message, messages[index]? = some message →
          HoldsMessage memory (mmsghdrAddress address index) (some message)

/-- An array of descriptors to poll, or `NULL`. -/
def HoldsPollfds (address count : UInt64) : Option (List Int) → Prop
  | none => address = 0
  | some fds =>
      count.toNat = fds.length ∧ Holds (memory.pollfdsFrom address) fds

/-- The bits below a count of a set of descriptors, or `NULL`. -/
def HoldsSet (address : UInt64) (count : Int) : Option (Nat → Bool) → Prop
  | none => address = 0
  | some set =>
      address ≠ 0 ∧
        ∃ bits, memory.fdSet address (chaosInitNetSetBytes count) = some bits ∧
          ∀ fd < count.toNat, bits fd = set fd

end Memory

/-! ## Calls -/

/-- A call on a descriptor. -/
def OnDescriptor (call : ChaosInitCall) (nr : SystemCall) (fd : Int) : Prop :=
  call.nr = nr ∧ int32 (call.args 0) = fd

/-- The sets of a `select`. -/
def OnSets (memory : TraceeMemory) (call : ChaosInitCall) (nfds : Int)
    (readfds writefds exceptfds : Option (Nat → Bool)) : Prop :=
  int32 (call.args 0) = nfds ∧
    HoldsSet memory (call.args 1) (min nfds fdSetsize) readfds ∧
      HoldsSet memory (call.args 2) (min nfds fdSetsize) writefds ∧
        HoldsSet memory (call.args 3) (min nfds fdSetsize) exceptfds

/-- The system calls by which the C libraries make a call. -/
def Issues (memory : TraceeMemory) : LibcCall → ChaosInitCall → Prop
  | .socket domain type, call =>
      call.nr = .socket ∧ (call.args 0).toUInt32 = domain ∧
        (call.args 1).toUInt32 = type
  | .socketpair domain type, call =>
      call.nr = .socketpair ∧ (call.args 0).toUInt32 = domain ∧
        (call.args 1).toUInt32 = type
  | .bind fd address, call =>
      OnDescriptor call .bind fd ∧
        HoldsName memory (call.args 1) (call.args 2) address
  | .connect fd address, call =>
      OnDescriptor call .connect fd ∧
        HoldsName memory (call.args 1) (call.args 2) address
  | .listen fd, call => OnDescriptor call .listen fd
  | .accept fd, call =>
      OnDescriptor call .accept fd ∨ OnDescriptor call .accept4 fd
  | .accept4 fd, call => OnDescriptor call .accept4 fd
  | .shutdown fd, call => OnDescriptor call .shutdown fd
  | .send fd size, call =>
      OnDescriptor call .sendto fd ∧ call.args 2 = size ∧ call.args 4 = 0
  | .sendto fd size address, call =>
      OnDescriptor call .sendto fd ∧ call.args 2 = size ∧
        HoldsName memory (call.args 4) (call.args 5) address
  | .sendmsg fd message, call =>
      OnDescriptor call .sendmsg fd ∧ HoldsMessage memory (call.args 1) message
  | .sendmmsg fd msgvec, call =>
      OnDescriptor call .sendmmsg fd ∧
        HoldsBatch memory (call.args 1) (call.args 2) msgvec
  | .recv fd size, call => OnDescriptor call .recvfrom fd ∧ call.args 2 = size
  | .recvfrom fd size, call =>
      OnDescriptor call .recvfrom fd ∧ call.args 2 = size
  | .recvmsg fd message, call =>
      OnDescriptor call .recvmsg fd ∧ HoldsMessage memory (call.args 1) message
  | .recvmmsg fd msgvec, call =>
      OnDescriptor call .recvmmsg fd ∧
        HoldsBatch memory (call.args 1) (call.args 2) msgvec
  | .read fd size, call => OnDescriptor call .read fd ∧ call.args 2 = size
  | .readv fd vector, call =>
      OnDescriptor call .readv fd ∧
        HoldsVector memory (call.args 1) (call.args 2) vector
  | .write fd size, call => OnDescriptor call .write fd ∧ call.args 2 = size
  | .writev fd vector, call =>
      OnDescriptor call .writev fd ∧
        HoldsVector memory (call.args 1) (call.args 2) vector
  | .close fd, call => OnDescriptor call .close fd
  | .poll fds, call =>
      (call.nr = .poll ∨ call.nr = .ppoll) ∧
        HoldsPollfds memory (call.args 0) (call.args 1) fds
  | .ppoll fds, call =>
      call.nr = .ppoll ∧ HoldsPollfds memory (call.args 0) (call.args 1) fds
  | .select nfds readfds writefds exceptfds, call =>
      (call.nr = .select ∨ call.nr = .pselect6) ∧
        OnSets memory call nfds readfds writefds exceptfds
  | .pselect nfds readfds writefds exceptfds, call =>
      call.nr = .pselect6 ∧ OnSets memory call nfds readfds writefds exceptfds
  | .epollWait epfd, call =>
      OnDescriptor call .epollWait epfd ∨ OnDescriptor call .epollPwait epfd
  | .epollPwait epfd, call => OnDescriptor call .epollPwait epfd

/-- Arrays of descriptors of no more entries than the supervisor looks at. -/
def Within (caller : Caller) : LibcCall → Prop
  | .poll fds | .ppoll fds => (fds.getD []).length ≤ chaosInitNetMaxWait
  | .select nfds _ _ _ | .pselect nfds _ _ _ => nfds ≤ fdSetsize
  | .epollWait epfd | .epollPwait epfd =>
      (caller.watched epfd).length ≤ chaosInitNetMaxWait
  | _ => True

/-! ## Byte counts -/

section Supervised

variable {caller : Caller} {memory : TraceeMemory} {snapshot : Snapshot}
variable {call : ChaosInitCall}

theorem toNat_ofInt_of_fits
    {value : Int} (nonneg : 0 ≤ value) (fits : value < 2 ^ 64) :
    (UInt64.ofInt value).toNat = value.toNat := by
  rw [UInt64.ofInt, UInt64.toNat_ofNat']
  omega

theorem lt_toNat_ofInt_of_negative
    {value : Int} (negative : value < 0) (fits : -2 ^ 31 ≤ value) :
    1024 < (UInt64.ofInt value).toNat := by
  rw [UInt64.ofInt, UInt64.toNat_ofNat']
  omega

/-- A vector the kernel refuses has no byte count. -/
theorem chaosNetIovecSize_of_refused
    {vector : IovecArray}
    (refused : vector.count < 0 ∨ chaosNetIovMax < vector.count) :
    chaosNetIovecSize vector = chaosPolicyNoSize := by
  unfold chaosNetIovecSize
  split
  · rfl
  · exact if_pos refused

theorem supervisorIovecSize_of_refused
    {vector : IovecArray}
    (refused : vector.count < 0 ∨ chaosNetIovMax < vector.count) :
    supervisorIovecSize vector = chaosPolicyNoSize := by
  have some : ¬ vector.count = 0 := by
    have bound : (chaosNetIovMax : Int) = 1024 := rfl
    omega
  rw [supervisorIovecSize, if_neg fun both => some both.2]
  exact chaosNetIovecSize_of_refused refused

theorem chaosInitNetIovSize_eq
    {address count : UInt64} {vector : IovecArray}
    (holds : HoldsVector memory address count vector) :
    chaosInitNetIovSize memory address count = supervisorIovecSize vector := by
  rcases holds with ⟨rfl, holds⟩
  have bound : (chaosNetIovMax : Int) = 1024 := rfl
  unfold chaosInitNetIovSize
  by_cases negative : vector.count < 0
  · rw [supervisorIovecSize_of_refused (Or.inl negative)]
    exact if_pos (lt_toNat_ofInt_of_negative negative vector.fits.1)
  · have nonneg : 0 ≤ vector.count := not_lt.mp negative
    rw [toNat_ofInt_of_fits nonneg vector.fits.2]
    by_cases many : (chaosNetIovMax : Int) < vector.count
    · rw [supervisorIovecSize_of_refused (Or.inr many), if_pos (by omega)]
    · rw [if_neg (by omega)]
      cases iov : vector.iov with
      | none =>
          rw [iov] at holds
          cases holds
          by_cases nothing : vector.count = 0
          · rw [supervisorIovecSize, if_pos ⟨iov, nothing⟩, nothing]
            rfl
          · have unread : readAll (memory.iovecsFrom 0) 64
                vector.count.toNat = none := by
              apply readAll_of_unreadable
              · apply memory.nullIovecs
                omega
              · decide
              · omega
            rw [supervisorIovecSize, if_neg fun both => nothing both.2,
              chaosNetIovecSize, iov, unread]
            rfl
      | some lengths =>
          rw [iov] at holds
          have listed := vector.counted lengths iov nonneg
          have length : vector.count.toNat = lengths.length := by
            omega
          have read := holds.2 nonneg (not_lt.mp many)
          have refused : ¬ (vector.count < 0 ∨
              (chaosNetIovMax : Int) < vector.count) := by
            omega
          rw [length, readAll_of_holds read (by decide), supervisorIovecSize,
            if_neg (by rw [iov]; exact fun both => nomatch both.1),
            chaosNetIovecSize, iov]
          exact (if_neg refused).symm

theorem chaosInitNetMessageSize_eq
    {address : UInt64} {message : Option Msghdr}
    (holds : HoldsMessage memory address message) :
    chaosInitNetMessageSize memory address = supervisorMessageSize message := by
  unfold chaosInitNetMessageSize
  cases message with
  | none =>
      rw [HoldsMessage] at holds
      rw [holds, memory.nullMsghdr]
      rfl
  | some message =>
      rcases holds with ⟨raw, found, -, vector⟩
      rw [found]
      exact chaosInitNetIovSize_eq vector

/-- The supervisor's and the batch's messages, one by one. -/
theorem map_messages
    {Part : Type*} {address vlen : UInt64} {messages : List Msghdr}
    (holds : HoldsBatch memory address vlen (some messages))
    (fetch : UInt64 → Part) (part : Msghdr → Part)
    (same : ∀ address message, HoldsMessage memory address (some message) →
      fetch address = part message) :
    ((List.range (min vlen.toNat chaosInitNetMmsgMax)).map fun index =>
        fetch (mmsghdrAddress address index)) =
      (messages.take chaosNetMmsgMax).map part := by
  have bound : chaosInitNetMmsgMax = chaosNetMmsgMax := rfl
  apply List.ext_getElem?
  intro index
  rw [List.getElem?_map, List.getElem?_map, List.getElem?_take, holds.1]
  by_cases within : index < min messages.length chaosInitNetMmsgMax
  · have inside : index < messages.length := by
      omega
    rw [List.getElem?_range within, if_pos (by omega),
      List.getElem?_eq_getElem inside, Option.map_some, Option.map_some]
    apply congrArg some
    apply same
    exact holds.2 index _ (List.getElem?_eq_getElem inside)
  · rw [List.getElem?_eq_none (by rw [List.length_range]; omega)]
    split
    · rw [List.getElem?_eq_none (by omega)]
      rfl
    · rfl

theorem chaosInitNetBatchSize_eq
    {address vlen : UInt64} {messages : List Msghdr}
    (holds : HoldsBatch memory address vlen (some messages)) :
    chaosInitNetBatchSize memory address vlen =
      supervisorBatchSize messages := by
  have parts := map_messages holds (chaosInitNetMessageSize memory)
    (fun message => supervisorMessageSize (some message))
    fun _ _ held => chaosInitNetMessageSize_eq held
  have folds := congrArg (fun parts => (parts.foldlM addPart 0)) parts
  simp only [List.foldlM_map] at folds
  unfold chaosInitNetBatchSize supervisorBatchSize
  rw [folds]

/-! ## Endpoints -/

theorem chaosInitNetSockaddr_eq
    {address length : UInt64} {name : Option Bytes}
    (holds : HoldsName memory address length name) (fd : Int) :
    chaosInitNetSockaddr caller memory fd address length =
      chaosNetEndpointFromSockaddrFd caller fd name := by
  unfold chaosInitNetSockaddr
  cases name with
  | none =>
      cases holds
      exact if_pos (Or.inl rfl)
  | some name =>
      rcases holds with ⟨there, listed, found⟩
      rw [listed]
      simp only
      by_cases empty : min name.length 128 = 0
      · have nothing : name = [] := by
          apply List.eq_nil_of_length_eq_zero
          omega
        rw [if_pos (Or.inr empty), nothing]
        rfl
      · rw [if_neg fun either => either.elim there empty, found,
          Option.bind_some, chaosNetEndpointFromSockaddr_take]
        rfl

theorem chaosInitNetMessage_eq
    {address : UInt64} {message : Msghdr}
    (holds : HoldsMessage memory address (some message)) (fd : Int) :
    chaosInitNetMessage caller memory fd address =
      match message.name with
      | none => .unnamed
      | some name =>
          .named (chaosNetEndpointFromSockaddrFd caller fd (some name)) := by
  rcases holds with ⟨raw, found, named, -⟩
  unfold chaosInitNetMessage
  rw [found]
  cases name : message.name with
  | none =>
      rw [name] at named
      exact if_pos named
  | some address =>
      rw [name] at named
      have there : ¬ raw.name = 0 := named.1
      simp only
      rw [if_neg there, chaosInitNetSockaddr_eq named]

theorem chaosInitNetMatchEnds_eq
    (fd : Int) (operation : ChaosNetOperation) (peerFirst : Bool) :
    chaosInitNetMatchEnds caller snapshot fd operation peerFirst =
      Snapshot.ruleOf snapshot operation
        (ends (caller.descriptor fd) peerFirst) := by
  unfold chaosInitNetMatchEnds
  cases peerFirst with
  | true => exact matchEither_eq_bestOverEnds _ _
  | false => exact matchEither_eq_bestOverEnds _ _

/-- The loop over a batch takes the first message that has a rule. -/
theorem matchBatchLoop_eq
    {fd : Int} {address : UInt64} (start : Nat) (messages : List Msghdr)
    (checked : Bool)
    (holds : ∀ index message, messages[index]? = some message →
      HoldsMessage memory (mmsghdrAddress address (start + index))
        (some message))
    (nothing : checked = true →
      chaosInitNetMatchEnds caller snapshot fd .send true = none) :
    matchBatchLoop caller memory snapshot fd address checked
        (List.range' start messages.length) =
      (messages.map fun message => destination caller fd message.name).findSome?
        (Snapshot.ruleOf snapshot .send) := by
  induction messages generalizing start checked with
  | nil => rfl
  | cons message rest induction =>
      have first : HoldsMessage memory (mmsghdrAddress address start)
          (some message) := holds 0 message rfl
      have later : ∀ index message, rest[index]? = some message →
          HoldsMessage memory (mmsghdrAddress address (start + 1 + index))
            (some message) := by
        intro index other found
        have held := holds (index + 1) other found
        rw [Nat.add_comm index 1, ← Nat.add_assoc] at held
        exact held
      rw [List.length_cons, List.range'_succ, matchBatchLoop,
        chaosInitNetMessage_eq first, List.map_cons, List.findSome?_cons]
      cases name : message.name with
      | some address =>
          simp only
          rw [bind_matchEndpointLoaded]
          have named : destination caller fd (some address) =
              single (chaosNetEndpointFromSockaddrFd caller fd (some address)) :=
            rfl
          rw [named]
          cases Snapshot.ruleOf snapshot .send (single
              (chaosNetEndpointFromSockaddrFd caller fd (some address))) with
          | some rule => rfl
          | none => exact induction (start + 1) checked later nothing
      | none =>
          have connected : Snapshot.ruleOf snapshot .send
              (destination caller fd none) =
                chaosInitNetMatchEnds caller snapshot fd .send true :=
            (chaosInitNetMatchEnds_eq fd .send true).symm
          rw [connected]
          cases checked with
          | true =>
              rw [nothing rfl]
              exact induction (start + 1) true later nothing
          | false =>
              cases found :
                  chaosInitNetMatchEnds caller snapshot fd .send true with
              | some rule => rfl
              | none => exact induction (start + 1) true later fun _ => found

theorem chaosInitNetMatchBatch_eq
    {fd : Int} {address vlen : UInt64} {msgvec : Option (List Msghdr)}
    (holds : HoldsBatch memory address vlen msgvec) :
    chaosInitNetMatchBatch caller memory snapshot fd address vlen =
      (preloadAsks caller (.sendmmsg fd msgvec)).search snapshot := by
  unfold chaosInitNetMatchBatch
  cases msgvec with
  | none =>
      cases holds
      change _ = none
      cases count : min vlen.toNat chaosInitNetMmsgMax with
      | zero => rfl
      | succ more =>
          have unread : chaosInitNetMessage caller memory fd
              (mmsghdrAddress 0 0) = .unreadable := by
            have address : mmsghdrAddress 0 0 = 0 := rfl
            unfold chaosInitNetMessage
            rw [address, memory.nullMsghdr]
          rw [List.range_succ_eq_map, matchBatchLoop, unread]
  | some messages =>
      have length : min vlen.toNat chaosInitNetMmsgMax =
          (messages.take chaosNetMmsgMax).length := by
        rw [holds.1, List.length_take, Nat.min_comm]
      rw [length, List.range_eq_range']
      apply matchBatchLoop_eq
      · intro index message found
        rw [Nat.zero_add]
        rw [List.getElem?_take] at found
        split at found
        · exact holds.2 index message found
        · cases found
      · exact nofun

/-! ## Waits -/

theorem chaosInitNetMatchAny_eq (fds : List Int) (size : Nat) :
    chaosInitNetMatchAny caller snapshot fds =
      (Question.mk .poll (fds.map (watch caller)) size).search snapshot :=
  (search_watches fds size).symm

theorem chaosInitNetPollFds_eq
    {address count : UInt64} {fds : Option (List Int)}
    (holds : HoldsPollfds memory address count fds)
    (within : (fds.getD []).length ≤ chaosInitNetMaxWait) :
    chaosInitNetPollFds memory address count = fds.getD [] := by
  unfold chaosInitNetPollFds
  cases fds with
  | none =>
      cases holds
      by_cases nothing : min 64 (min count.toNat chaosInitNetMaxWait) = 0
      · have noRound : min count.toNat chaosInitNetMaxWait = 0 := by
          omega
        rw [noRound]
        rfl
      · apply readWhile_of_unreadable
        apply memory.nullPollfds
        omega
  | some fds =>
      rcases holds with ⟨listed, held⟩
      have all : min count.toNat chaosInitNetMaxWait = fds.length := by
        rw [listed]
        exact Nat.min_eq_left within
      rw [all, readWhile_of_holds held (by decide)]
      rfl

theorem selectSet_eq
    {address : UInt64} {count : Int} {set : Option (Nat → Bool)}
    (holds : HoldsSet memory address count set) :
    selectSet memory count address = setFds count set := by
  unfold selectSet setFds
  cases set with
  | none =>
      cases holds
      rw [if_pos rfl]
      change [] = ((List.range count.toNat).filter fun _ => false).map Int.ofNat
      rw [List.filter_false]
      rfl
  | some set =>
      rcases holds with ⟨there, bits, found, same⟩
      rw [if_neg there, found]
      change ((List.range count.toNat).filter bits).map Int.ofNat =
        ((List.range count.toNat).filter set).map Int.ofNat
      congr 1
      apply List.filter_congr
      intro fd member
      exact same fd (List.mem_range.mp member)

theorem chaosInitNetSelectFds_eq
    {nfds : Int} {readfds writefds exceptfds : Option (Nat → Bool)}
    (holds : OnSets memory call nfds readfds writefds exceptfds)
    (within : nfds ≤ fdSetsize) :
    chaosInitNetSelectFds memory call =
      setBySetFds nfds readfds writefds exceptfds := by
  rcases holds with ⟨count, reads, writes, excepts⟩
  unfold chaosInitNetSelectFds setBySetFds
  rw [count]
  rw [min_eq_left within] at reads writes excepts ⊢
  simp only
  rw [selectSet_eq reads, selectSet_eq writes, selectSet_eq excepts]

/-! ## Decisions -/

/-- What is not a socket has no rule at either end. -/
theorem ends_of_alien
    {fd : Int} (alien : chaosInitNetIsSocket caller fd = false)
    (peerFirst : Bool) :
    ends (caller.descriptor fd) peerFirst = (none, none) ∧
      chaosNetEndpointFromActivityFd (caller.descriptor fd) = none := by
  unfold chaosInitNetIsSocket at alien
  cases kind : caller.descriptor fd with
  | notOpen => exact ⟨rfl, rfl⟩
  | notSocket => exact ⟨rfl, rfl⟩
  | socket own peer =>
      rw [kind] at alien
      cases alien

theorem search_of_untargeted
    (question : Question)
    (untargeted : (!chaosInitNetTargeted snapshot question.operation) = true) :
    question.search snapshot = none := by
  unfold Question.search
  rw [List.findSome?_eq_none_iff]
  intro target _
  apply bestOverEnds_of_untargeted
  rw [Bool.not_eq_true'] at untargeted
  rw [chaosNetConfigTargetsLoaded]
  change ¬ (_ && chaosInitNetTargeted snapshot question.operation) = true
  rw [untargeted, Bool.and_false]
  exact Bool.false_ne_true

/-- What the supervisor decides for a call in its table. -/
theorem decide_eq_answer
    {entry : ChaosInitNetCall} {question : Question}
    (listed : chaosInitNetCalls.find? (fun entry => entry.nr == call.nr) =
      some entry)
    (operation : question.operation = entry.operation)
    (found : chaosInitNetMatch caller memory snapshot entry call =
      question.search snapshot)
    (size : question.search snapshot ≠ none →
      measureEntry memory entry call = question.size)
    (alien : entry.shared = true →
      chaosInitNetIsSocket caller (int32 (call.args 0)) = false →
        question.search snapshot = none) :
    (chaosInitNetDecide caller memory snapshot call).join =
      question.answer snapshot := by
  unfold chaosInitNetDecide Question.answer
  rw [listed]
  simp only
  split
  · rename_i notOurs
    rw [Bool.and_eq_true, Bool.not_eq_true'] at notOurs
    rw [alien notOurs.1 notOurs.2]
    rfl
  · split
    · rename_i skipped
      have nothing : question.search snapshot = none := by
        rcases Bool.or_eq_true_iff.mp skipped with unprepared | untargeted
        · exact search_of_unprepared unprepared _
        · rw [← operation] at untargeted
          exact search_of_untargeted question untargeted
      rw [nothing]
      rfl
    · rw [found]
      cases matched : question.search snapshot with
      | none => rfl
      | some rule =>
          have equal := size (by rw [matched]; nofun)
          rw [equal]
          rfl

section Kinds

variable {nr : SystemCall} {operation : ChaosNetOperation} {shared : Bool}
variable {column : SizeColumn} {fd : Int} {size : Nat}

theorem find_of_nr
    {entry : ChaosInitNetCall} (number : call.nr = nr)
    (listed : chaosInitNetCalls.find? (fun entry => entry.nr == nr) =
      some entry) :
    chaosInitNetCalls.find? (fun entry => entry.nr == call.nr) =
      some entry := by
  rw [number]
  exact listed

/-- A call on both ends of a connection. -/
theorem decide_ends
    (peerFirst : Bool) (on : OnDescriptor call nr fd)
    (listed : chaosInitNetCalls.find? (fun entry => entry.nr == nr) =
      some ⟨nr, operation, if peerFirst then .peerFirst else .localFirst,
        shared, column⟩)
    (measure : measureEntry memory
      ⟨nr, operation, if peerFirst then .peerFirst else .localFirst, shared,
        column⟩ call = size) :
    (chaosInitNetDecide caller memory snapshot call).join =
      (Question.mk operation [ends (caller.descriptor fd) peerFirst]
        size).answer snapshot := by
  rcases on with ⟨number, rfl⟩
  apply decide_eq_answer (find_of_nr number listed) rfl
  · rw [search_singleton, ← chaosInitNetMatchEnds_eq]
    cases peerFirst with
    | true => rfl
    | false => rfl
  · exact fun _ => measure
  · intro _ alien
    rw [search_singleton, (ends_of_alien alien peerFirst).1]
    exact ruleOf_none _

/-- A call on an address it passes. -/
theorem decide_address
    {address : Option Bytes} (on : OnDescriptor call nr fd)
    (holds : HoldsName memory (call.args 1) (call.args 2) address)
    (listed : chaosInitNetCalls.find? (fun entry => entry.nr == nr) =
      some ⟨nr, operation, .address, false, .none⟩) :
    (chaosInitNetDecide caller memory snapshot call).join =
      (Question.mk operation
        [single (chaosNetEndpointFromSockaddrFd caller fd address)]
          chaosPolicyNoSize).answer snapshot := by
  rcases on with ⟨number, rfl⟩
  apply decide_eq_answer (find_of_nr number listed) rfl
  · rw [search_singleton, ← bind_matchEndpointLoaded,
      ← chaosInitNetSockaddr_eq holds]
    rfl
  · exact fun _ => rfl
  · exact nofun

/-- A call on the activity of a descriptor. -/
theorem decide_activity
    (on : OnDescriptor call nr fd)
    (listed : chaosInitNetCalls.find? (fun entry => entry.nr == nr) =
      some ⟨nr, operation, .activity, shared, .none⟩) :
    (chaosInitNetDecide caller memory snapshot call).join =
      (Question.mk operation
        [single (chaosNetEndpointFromActivityFd (caller.descriptor fd))]
          chaosPolicyNoSize).answer snapshot := by
  rcases on with ⟨number, rfl⟩
  apply decide_eq_answer (find_of_nr number listed) rfl
  · rw [search_singleton, ← bind_matchEndpointLoaded]
    rfl
  · exact fun _ => rfl
  · intro _ alien
    rw [search_singleton, (ends_of_alien alien false).2]
    exact ruleOf_none _

/-- A call that creates sockets. -/
theorem decide_spec
    {domain type : UInt32} (number : call.nr = nr)
    (holds : (call.args 0).toUInt32 = domain ∧ (call.args 1).toUInt32 = type)
    (listed : chaosInitNetCalls.find? (fun entry => entry.nr == nr) =
      some ⟨nr, operation, .spec, false, .none⟩) :
    (chaosInitNetDecide caller memory snapshot call).join =
      (Question.mk operation
        [single (chaosNetEndpointFromSocketSpec domain type)]
          chaosPolicyNoSize).answer snapshot := by
  rcases holds with ⟨rfl, rfl⟩
  apply decide_eq_answer (find_of_nr number listed) rfl
  · rw [search_singleton, ← bind_matchEndpointLoaded]
    rfl
  · exact fun _ => rfl
  · exact nofun

/-- A wait on the descriptors of an array, of sets or of an epoll instance. -/
theorem decide_wait
    {kind : ChaosInitNetKind} {fds : List Int} (number : call.nr = nr)
    (listed : chaosInitNetCalls.find? (fun entry => entry.nr == nr) =
      some ⟨nr, .poll, kind, false, .none⟩)
    (matched : chaosInitNetMatch caller memory snapshot
      ⟨nr, .poll, kind, false, .none⟩ call =
        chaosInitNetMatchAny caller snapshot fds) :
    (chaosInitNetDecide caller memory snapshot call).join =
      (Question.mk .poll (fds.map (watch caller))
        chaosPolicyNoSize).answer snapshot := by
  apply decide_eq_answer (find_of_nr number listed) rfl
  · rw [matched]
    exact chaosInitNetMatchAny_eq fds _
  · exact fun _ => rfl
  · exact nofun

end Kinds

/-- A send that may name its destination. -/
theorem decide_sendto
    {fd : Int} {size : UInt64} {address : Option Bytes}
    (on : OnDescriptor call .sendto fd) (count : call.args 2 = size)
    (holds : HoldsName memory (call.args 4) (call.args 5) address) :
    (chaosInitNetDecide caller memory snapshot call).join =
      (preloadAsks caller (.sendto fd size address)).answer snapshot := by
  rcases on with ⟨number, rfl⟩
  apply decide_eq_answer (find_of_nr number rfl) rfl
  · change _ = (Question.mk _ [_] _).search snapshot
    rw [search_singleton]
    cases address with
    | none =>
        have noAddress : call.args 4 = 0 := holds
        change (if call.args 4 = 0 then _ else _) = _
        rw [if_pos noAddress]
        exact chaosInitNetMatchEnds_eq _ _ _
    | some address =>
        have there : ¬ call.args 4 = 0 := holds.1
        change (if call.args 4 = 0 then _ else _) = _
        rw [if_neg there, chaosInitNetSockaddr_eq holds]
        exact bind_matchEndpointLoaded _ _
  · exact fun _ => congrArg UInt64.toNat count
  · exact nofun

theorem decide_sendmsg
    {fd : Int} {message : Option Msghdr} (on : OnDescriptor call .sendmsg fd)
    (holds : HoldsMessage memory (call.args 1) message) :
    (chaosInitNetDecide caller memory snapshot call).join =
      (supervisorAsks caller (.sendmsg fd message)).answer snapshot := by
  rcases on with ⟨number, rfl⟩
  apply decide_eq_answer (find_of_nr number rfl) rfl
  · change _ = (Question.mk _ [_] _).search snapshot
    rw [search_singleton]
    unfold chaosInitNetMatch
    simp only
    cases message with
    | none =>
        have unread : chaosInitNetMessage caller memory (int32 (call.args 0))
            (call.args 1) = .unreadable := by
          have noMessage : call.args 1 = 0 := holds
          unfold chaosInitNetMessage
          rw [noMessage, memory.nullMsghdr]
        rw [unread]
        exact chaosInitNetMatchEnds_eq _ _ _
    | some message =>
        rw [chaosInitNetMessage_eq holds, Option.bind_some]
        cases message.name with
        | none => exact chaosInitNetMatchEnds_eq _ _ _
        | some name => exact bind_matchEndpointLoaded _ _
  · exact fun _ => chaosInitNetMessageSize_eq holds
  · exact nofun

theorem decide_sendmmsg
    {fd : Int} {msgvec : Option (List Msghdr)}
    (on : OnDescriptor call .sendmmsg fd)
    (holds : HoldsBatch memory (call.args 1) (call.args 2) msgvec) :
    (chaosInitNetDecide caller memory snapshot call).join =
      (supervisorAsks caller (.sendmmsg fd msgvec)).answer snapshot := by
  rcases on with ⟨number, rfl⟩
  apply decide_eq_answer (find_of_nr number rfl) rfl
  · exact chaosInitNetMatchBatch_eq holds
  · intro found
    cases msgvec with
    | none => exact absurd rfl found
    | some messages => exact chaosInitNetBatchSize_eq holds
  · exact nofun

/--
The supervisor asks of the rules for a system call what it is said to ask for
the libc call that issues it.
-/
theorem decide_eq_supervisorAsks
    {libc : LibcCall} (issues : Issues memory libc call)
    (within : Within caller libc) :
    (chaosInitNetDecide caller memory snapshot call).join =
      (supervisorAsks caller libc).answer snapshot := by
  cases libc with
  | socket domain type => exact decide_spec issues.1 issues.2 rfl
  | socketpair domain type => exact decide_spec issues.1 issues.2 rfl
  | bind fd address => exact decide_address issues.1 issues.2 rfl
  | connect fd address => exact decide_address issues.1 issues.2 rfl
  | listen fd => exact decide_ends false issues rfl rfl
  | accept fd =>
      rcases issues with plain | flagged
      · exact decide_ends false plain rfl rfl
      · exact decide_ends false flagged rfl rfl
  | accept4 fd => exact decide_ends false issues rfl rfl
  | shutdown fd => exact decide_activity issues rfl
  | send fd size =>
      have noAddress : HoldsName memory (call.args 4) (call.args 5) none :=
        issues.2.2
      exact decide_sendto issues.1 issues.2.1 noAddress
  | sendto fd size address =>
      exact decide_sendto issues.1 issues.2.1 issues.2.2
  | sendmsg fd message => exact decide_sendmsg issues.1 issues.2
  | sendmmsg fd msgvec => exact decide_sendmmsg issues.1 issues.2
  | recv fd size =>
      exact decide_ends false issues.1 rfl (congrArg UInt64.toNat issues.2)
  | recvfrom fd size =>
      exact decide_ends false issues.1 rfl (congrArg UInt64.toNat issues.2)
  | recvmsg fd message =>
      exact decide_ends false issues.1 rfl (chaosInitNetMessageSize_eq issues.2)
  | recvmmsg fd msgvec => exact decide_ends false issues.1 rfl rfl
  | read fd size =>
      exact decide_ends false issues.1 rfl (congrArg UInt64.toNat issues.2)
  | readv fd vector =>
      exact decide_ends false issues.1 rfl (chaosInitNetIovSize_eq issues.2)
  | write fd size =>
      exact decide_ends true issues.1 rfl (congrArg UInt64.toNat issues.2)
  | writev fd vector =>
      exact decide_ends true issues.1 rfl (chaosInitNetIovSize_eq issues.2)
  | close fd => exact decide_activity issues rfl
  | poll fds =>
      have listed := chaosInitNetPollFds_eq issues.2 within
      rcases issues.1 with number | number
      · exact decide_wait number rfl
          (congrArg (chaosInitNetMatchAny caller snapshot) listed)
      · exact decide_wait number rfl
          (congrArg (chaosInitNetMatchAny caller snapshot) listed)
  | ppoll fds =>
      have listed := chaosInitNetPollFds_eq issues.2 within
      exact decide_wait issues.1 rfl
        (congrArg (chaosInitNetMatchAny caller snapshot) listed)
  | select nfds readfds writefds exceptfds =>
      have listed := chaosInitNetSelectFds_eq issues.2 within
      rcases issues.1 with number | number
      · exact decide_wait number rfl
          (congrArg (chaosInitNetMatchAny caller snapshot) listed)
      · exact decide_wait number rfl
          (congrArg (chaosInitNetMatchAny caller snapshot) listed)
  | pselect nfds readfds writefds exceptfds =>
      have listed := chaosInitNetSelectFds_eq issues.2 within
      exact decide_wait issues.1 rfl
        (congrArg (chaosInitNetMatchAny caller snapshot) listed)
  | epollWait epfd =>
      have all : ∀ fd, fd = epfd → chaosInitNetEpollFds caller fd =
          caller.watched epfd := by
        rintro fd rfl
        exact List.take_of_length_le within
      rcases issues with plain | masked
      · exact decide_wait plain.1 rfl
          (congrArg (chaosInitNetMatchAny caller snapshot) (all _ plain.2))
      · exact decide_wait masked.1 rfl
          (congrArg (chaosInitNetMatchAny caller snapshot) (all _ masked.2))
  | epollPwait epfd =>
      rcases issues with ⟨number, rfl⟩
      exact decide_wait number rfl
        (congrArg (chaosInitNetMatchAny caller snapshot)
          (List.take_of_length_le within))

end Supervised

end ChaosLibs.Net.IssuedCalls
