import ChaosLibs.Machine.WordCounts
import ChaosLibs.Net.DupSlots

/-!
# DUP replays and the sockets they come from

A payload is kept with the identity of the socket that its descriptor names
when it is stored.  As long as that is the socket the payload came from, a
replay that meets the same identity on its descriptor delivers the payload of
this very socket.  The lock of a slot keeps the payload from changing between
the check and the delivery.
-/

namespace ChaosLibs.Net.DupReplay

open ChaosLibs.Machine
open ChaosLibs.Machine.WordCounts
open ChaosLibs.Net.DupSlots

/-! ## The invariant -/

/-- A slot that holds a payload with the identity of the socket it came from. -/
structure Filled (kernel : Kernel) (entry : DupSlot) : Prop where
  known : entry.socket ≠ 0
  made : entry.payload.source < kernel.made
  identity : entry.socket = kernel.identities entry.payload.source

/-- The close count a receive sampled. -/
structure Sampled (world : World) (fd : Int) (sample : Sample) : Prop where
  word : sample.generation = UInt32.ofNat sample.count
  earlier : sample.count ≤ world.counts (dupSlot fd)

/-- The slot whose lock a thread holds. -/
def locks : Pc → Option Slot
  | .replay call stage =>
      match stage with
      | .table | .lock => none
      | .tag | .identity | .rule _ | .deliver _ | .clear _ | .unlock _ =>
          some (dupSlot call.fd)
  | .store keep stage =>
      match stage with
      | .table | .map | .publish | .lock => none
      | .check | .write | .tag | .recheck | .clear | .unlock =>
          some (dupSlot keep.fd)
  | .idle | .generation _ _ | .receive _ _ | .receiving _ _ _
  | .identity _ _ _ | .close _ _ => none

/-- A payload with the identity that was sampled for it. -/
structure KeepOk (world : World) (keep : Keep) : Prop where
  sampled : Sampled world keep.fd keep.sample
  known : keep.identity ≠ 0
  made : keep.payload.source < world.kernel.made

/-- What a thread knows in `chaos_net_dup_replay`. -/
def ReplayKnows (world : World) (call : ReceiveCall) : ReplayStage → Prop
  | .table | .clear _ | .unlock _ => True
  | .lock | .tag => 0 ≤ call.fd
  | .identity => Filled world.kernel (world.slots (dupSlot call.fd))
  | .rule checked | .deliver checked =>
      checked = some (world.slots (dupSlot call.fd)).payload.source

/-- What a thread knows in `chaos_net_dup_store`. -/
def StoreKnows (world : World) (keep : Keep) : StoreStage → Prop
  | .table | .map | .publish | .lock | .check =>
      world.counts (dupSlot keep.fd) = keep.sample.count →
        keep.identity = world.kernel.identities keep.payload.source
  | .write => keep.identity = world.kernel.identities keep.payload.source
  | .tag => Filled world.kernel (world.slots (dupSlot keep.fd))
  | .recheck | .clear | .unlock => True

/-- What a thread knows at its program counter. -/
def Knows (world : World) : Pc → Prop
  | .idle | .generation _ _ | .close _ _ => True
  | .replay call stage => ReplayKnows world call stage
  | .receive call sample => Sampled world call.fd sample
  | .receiving call sample socket =>
      Sampled world call.fd sample ∧ socket < world.kernel.made
  | .identity fd sample payload =>
      Sampled world fd sample ∧ payload.source < world.kernel.made
  | .store keep stage => KeepOk world keep ∧ StoreKnows world keep stage

/-- The invariant of the kept payloads. -/
structure Invariant (world : World) : Prop where
  closes : ∀ slot, (world.slots slot).closes = UInt32.ofNat (world.counts slot)
  filled : ∀ slot, (world.slots slot).fd = -1 ∨
    Filled world.kernel (world.slots slot)
  named : ∀ fd socket, world.kernel.names fd = some socket →
    socket < world.kernel.made
  fresh : ∀ left < world.kernel.made, ∀ right < world.kernel.made,
    world.kernel.identities left = world.kernel.identities right →
      left = right
  knows : ∀ thread, Knows world (world.threads thread)
  held : ∀ thread slot, locks (world.threads thread) = some slot →
    (world.slots slot).lock = true
  exclusive : ∀ left right slot, left ≠ right →
    locks (world.threads left) = some slot →
      locks (world.threads right) ≠ some slot
  own : OwnSocket world

theorem invariant_initial : Invariant initial where
  closes := fun _ => rfl
  filled := fun _ => .inl rfl
  named := by
    intro fd socket named
    cases named
  fresh := by
    intro left below
    cases below
  knows := fun _ => trivial
  held := by
    intro thread slot holds
    cases holds
  exclusive := by
    intro left right slot _ holds
    cases holds
  own := by
    intro replay member
    cases member

/-! ## What a step leaves to the threads that do not take it -/

/--
Counts never fall, sockets keep their identities, and a slot keeps its payload
unless it is the one that the step may fill.
-/
structure Frame (free : Option Slot) (world next : World) : Prop where
  counts : ∀ slot, world.counts slot ≤ next.counts slot
  made : world.kernel.made ≤ next.kernel.made
  identities : ∀ socket < world.kernel.made,
    next.kernel.identities socket = world.kernel.identities socket
  contents : ∀ slot, free ≠ some slot →
    (next.slots slot).socket = (world.slots slot).socket ∧
      (next.slots slot).payload = (world.slots slot).payload

section Framing

variable {free : Option Slot} {world next : World}

theorem Sampled.frame
    {fd : Int} {sample : Sample} (sampled : Sampled world fd sample)
    (frame : Frame free world next) : Sampled next fd sample where
  word := sampled.word
  earlier := sampled.earlier.trans (frame.counts _)

theorem Filled.frame
    {slot : Slot} (filled : Filled world.kernel (world.slots slot))
    (frame : Frame free world next) (kept : free ≠ some slot) :
    Filled next.kernel (next.slots slot) := by
  rcases frame.contents slot kept with ⟨socket, payload⟩
  constructor
  · rw [socket]
    exact filled.known
  · rw [payload]
    exact lt_of_lt_of_le filled.made frame.made
  · rw [socket, payload, frame.identities _ filled.made]
    exact filled.identity

theorem KeepOk.frame
    {keep : Keep} (ok : KeepOk world keep) (frame : Frame free world next) :
    KeepOk next keep where
  sampled := ok.sampled.frame frame
  known := ok.known
  made := lt_of_lt_of_le ok.made frame.made

theorem replayKnows_frame
    {call : ReceiveCall} {stage : ReplayStage}
    (knows : ReplayKnows world call stage) (frame : Frame free world next)
    (apart : ∀ slot, locks (.replay call stage) = some slot →
      free ≠ some slot) :
    ReplayKnows next call stage := by
  cases stage with
  | table => trivial
  | lock => exact knows
  | tag => exact knows
  | identity => exact Filled.frame knows frame (apart _ rfl)
  | rule checked =>
      rcases frame.contents _ (apart _ rfl) with ⟨_, payload⟩
      rw [ReplayKnows, payload]
      exact knows
  | deliver checked =>
      rcases frame.contents _ (apart _ rfl) with ⟨_, payload⟩
      rw [ReplayKnows, payload]
      exact knows
  | clear again => trivial
  | unlock again => trivial

/-- A count that still stands where it was sampled stood there all along. -/
theorem KeepOk.tagged_frame
    {keep : Keep} (ok : KeepOk world keep) (frame : Frame free world next)
    (tagged : world.counts (dupSlot keep.fd) = keep.sample.count →
      keep.identity = world.kernel.identities keep.payload.source) :
    next.counts (dupSlot keep.fd) = keep.sample.count →
      keep.identity = next.kernel.identities keep.payload.source := by
  intro still
  have before : world.counts (dupSlot keep.fd) = keep.sample.count := by
    have later := frame.counts (dupSlot keep.fd)
    have earlier := ok.sampled.earlier
    omega
  rw [frame.identities _ ok.made]
  exact tagged before

theorem storeKnows_frame
    {keep : Keep} {stage : StoreStage} (ok : KeepOk world keep)
    (knows : StoreKnows world keep stage) (frame : Frame free world next)
    (apart : ∀ slot, locks (.store keep stage) = some slot →
      free ≠ some slot) :
    StoreKnows next keep stage := by
  cases stage with
  | table => exact ok.tagged_frame frame knows
  | map => exact ok.tagged_frame frame knows
  | publish => exact ok.tagged_frame frame knows
  | lock => exact ok.tagged_frame frame knows
  | check => exact ok.tagged_frame frame knows
  | write =>
      rw [StoreKnows, frame.identities _ ok.made]
      exact knows
  | tag => exact Filled.frame knows frame (apart _ rfl)
  | recheck => trivial
  | clear => trivial
  | unlock => trivial

/-- What one thread knows survives the steps of the others. -/
theorem knows_frame
    {pc : Pc} (knows : Knows world pc) (frame : Frame free world next)
    (apart : ∀ slot, locks pc = some slot → free ≠ some slot) :
    Knows next pc := by
  cases pc with
  | idle => trivial
  | replay call stage => exact replayKnows_frame knows frame apart
  | generation call stage => trivial
  | receive call sample => exact Sampled.frame knows frame
  | receiving call sample socket =>
      exact ⟨knows.1.frame frame, lt_of_lt_of_le knows.2 frame.made⟩
  | identity fd sample payload =>
      exact ⟨knows.1.frame frame, lt_of_lt_of_le knows.2 frame.made⟩
  | store keep stage =>
      exact ⟨knows.1.frame frame, storeKnows_frame knows.1 knows.2 frame apart⟩
  | close fd stage => trivial

end Framing

/-! ## Steps of one thread -/

/-- The step of a thread takes only a free lock and releases only its own. -/
structure LockStep (before after : Option Slot) (world next : World) : Prop where
  held : ∀ slot, after = some slot → (next.slots slot).lock = true
  acquired : ∀ slot, after = some slot →
    before = some slot ∨ (world.slots slot).lock = false
  kept : ∀ slot, (world.slots slot).lock = true → before ≠ some slot →
    (next.slots slot).lock = true

section Steps

variable {thread : Nat} {world next : World} {pc : Pc}

/-- The invariant after a step of one thread. -/
theorem Invariant.after
    (ok : Invariant world)
    (threads : next.threads = Function.update world.threads thread pc)
    (frame : Frame (locks (world.threads thread)) world next)
    (locking : LockStep (locks (world.threads thread)) (locks pc) world next)
    (closes : ∀ slot, (next.slots slot).closes =
      UInt32.ofNat (next.counts slot))
    (filled : ∀ slot, (next.slots slot).fd = -1 ∨
      Filled next.kernel (next.slots slot))
    (named : ∀ fd socket, next.kernel.names fd = some socket →
      socket < next.kernel.made)
    (fresh : ∀ left < next.kernel.made, ∀ right < next.kernel.made,
      next.kernel.identities left = next.kernel.identities right →
        left = right)
    (self : Knows next pc) (own : OwnSocket next) : Invariant next := by
  have moved : next.threads thread = pc := by
    rw [threads, Function.update_self]
  have others : ∀ other, other ≠ thread →
      next.threads other = world.threads other := by
    intro other different
    rw [threads, Function.update_of_ne different]
  -- A lock the thread holds afterwards was not another thread's before.
  have apart : ∀ other slot, other ≠ thread → locks pc = some slot →
      locks (world.threads other) ≠ some slot := by
    intro other slot different mine
    rcases locking.acquired slot mine with before | free
    · exact ok.exclusive thread other slot different.symm before
    · intro theirs
      rw [ok.held other slot theirs] at free
      cases free
  refine ⟨closes, filled, named, fresh, ?_, ?_, ?_, own⟩
  · intro other
    by_cases mine : other = thread
    · rw [mine, moved]
      exact self
    · rw [others other mine]
      apply knows_frame (ok.knows other) frame
      intro slot theirs
      exact ok.exclusive other thread slot mine theirs
  · intro other slot holds
    by_cases mine : other = thread
    · rw [mine, moved] at holds
      exact locking.held slot holds
    · rw [others other mine] at holds
      exact locking.kept slot (ok.held other slot holds)
        (ok.exclusive other thread slot mine holds)
  · intro left right slot different holds
    by_cases leftMine : left = thread
    · subst leftMine
      rw [moved] at holds
      rw [others right different.symm]
      exact apart right slot different.symm holds
    · rw [others left leftMine] at holds
      by_cases rightMine : right = thread
      · subst rightMine
        rw [moved]
        intro mine
        exact apart left slot leftMine mine holds
      · rw [others right rightMine]
        exact ok.exclusive left right slot different holds

/-- Locks that stay as they are, in a step that takes none. -/
theorem Invariant.lockStep_of_same
    (ok : Invariant world)
    (same : ∀ slot, (next.slots slot).lock = (world.slots slot).lock)
    (takes : locks pc = none ∨ locks pc = locks (world.threads thread)) :
    LockStep (locks (world.threads thread)) (locks pc) world next := by
  have before : ∀ slot, locks pc = some slot →
      locks (world.threads thread) = some slot := by
    intro slot holds
    rcases takes with none | kept
    · rw [none] at holds
      cases holds
    · exact kept ▸ holds
  constructor
  · intro slot holds
    rw [same]
    exact ok.held thread slot (before slot holds)
  · intro slot holds
    exact .inl (before slot holds)
  · intro slot locked _
    rw [same]
    exact locked

/-- A step that leaves the slots, the kernel and the counts alone. -/
theorem Invariant.quiet
    (ok : Invariant world)
    (threads : next.threads = Function.update world.threads thread pc)
    (slots : next.slots = world.slots) (kernel : next.kernel = world.kernel)
    (counts : next.counts = world.counts) (knows : Knows world pc)
    (takes : locks pc = none ∨ locks pc = locks (world.threads thread))
    (own : OwnSocket next) : Invariant next := by
  have unchanged : ∀ free, Frame free world next := by
    intro free
    constructor
    · exact fun slot => (congrFun counts slot).ge
    · rw [kernel]
    · intro socket _
      rw [kernel]
    · intro slot _
      rw [slots]
      exact ⟨rfl, rfl⟩
  apply ok.after threads (unchanged _) (ok.lockStep_of_same _ takes)
  · intro slot
    rw [slots, counts]
    exact ok.closes slot
  · intro slot
    rw [slots, kernel]
    exact ok.filled slot
  · rw [kernel]
    exact ok.named
  · rw [kernel]
    exact ok.fresh
  · apply knows_frame knows (unchanged none)
    intro slot _ none
    cases none
  · exact own
  · intro slot
    rw [slots]

/-- Moving a thread to where it knows what it has to know keeps the invariant. -/
theorem Invariant.goto
    (ok : Invariant world) (thread : Nat) {pc : Pc} (knows : Knows world pc)
    (takes : locks pc = none ∨ locks pc = locks (world.threads thread)) :
    Invariant (world.goto thread pc) :=
  ok.quiet rfl rfl rfl rfl knows takes ok.own

/-- A store into a slot that leaves its close count alone. -/
theorem Invariant.put
    (ok : Invariant world) {slot : Slot} {entry : DupSlot}
    (closes : entry.closes = (world.slots slot).closes)
    (contents : locks (world.threads thread) = some slot ∨
      entry.socket = (world.slots slot).socket ∧
        entry.payload = (world.slots slot).payload)
    (filled : entry.fd = -1 ∨ Filled world.kernel entry)
    (locking : LockStep (locks (world.threads thread)) (locks pc) world
      (world.put slot entry))
    (self : Knows (world.put slot entry) pc) :
    Invariant ((world.put slot entry).goto thread pc) := by
  have frame : Frame (locks (world.threads thread)) world
      ((world.put slot entry).goto thread pc) := by
    constructor
    · exact fun _ => Nat.le_refl _
    · exact Nat.le_refl _
    · exact fun _ _ => rfl
    · intro other free
      change (Function.update world.slots slot entry other).socket = _ ∧
        (Function.update world.slots slot entry other).payload = _
      by_cases same : other = slot
      · subst same
        rw [Function.update_self]
        rcases contents with mine | same
        · exact absurd mine free
        · exact same
      · rw [Function.update_of_ne same]
        exact ⟨rfl, rfl⟩
  have stays : Frame none (world.put slot entry)
      ((world.put slot entry).goto thread pc) :=
    ⟨fun _ => Nat.le_refl _, Nat.le_refl _, fun _ _ => rfl,
      fun _ _ => ⟨rfl, rfl⟩⟩
  apply ok.after rfl frame ⟨locking.held, locking.acquired, locking.kept⟩ _ _
    ok.named ok.fresh _ ok.own
  · intro other
    change (Function.update world.slots slot entry other).closes = _
    by_cases same : other = slot
    · subst same
      rw [Function.update_self, closes]
      exact ok.closes other
    · rw [Function.update_of_ne same]
      exact ok.closes other
  · intro other
    change (Function.update world.slots slot entry other).fd = -1 ∨
      Filled world.kernel (Function.update world.slots slot entry other)
    by_cases same : other = slot
    · rw [same, Function.update_self]
      exact filled
    · rw [Function.update_of_ne same]
      exact ok.filled other
  · apply knows_frame self stays
    intro other _ none
    cases none

/-- Store into a slot without touching its lock. -/
theorem Invariant.lockStep_put
    (ok : Invariant world) {slot : Slot} {entry : DupSlot}
    (same : entry.lock = (world.slots slot).lock)
    (takes : locks pc = none ∨ locks pc = locks (world.threads thread)) :
    LockStep (locks (world.threads thread)) (locks pc) world
      (world.put slot entry) := by
  apply ok.lockStep_of_same _ takes
  intro other
  change (Function.update world.slots slot entry other).lock = _
  by_cases equal : other = slot
  · rw [equal, Function.update_self]
    exact same
  · rw [Function.update_of_ne equal]

/-- `__sync_lock_test_and_set` that finds the lock free. -/
theorem lockStep_take
    {slot : Slot} {entry : DupSlot} {before after : Option Slot}
    (free : (world.slots slot).lock = false) (taken : entry.lock = true)
    (takes : after = some slot) :
    LockStep before after world (world.put slot entry) := by
  subst takes
  have locked : ((world.put slot entry).slots slot).lock = true := by
    change (Function.update world.slots slot entry slot).lock = true
    rw [Function.update_self]
    exact taken
  constructor
  · intro other holds
    cases holds
    exact locked
  · intro other holds
    cases holds
    exact .inr free
  · intro other held _
    by_cases same : other = slot
    · rw [same]
      exact locked
    · change (Function.update world.slots slot entry other).lock = true
      rw [Function.update_of_ne same]
      exact held

/-- `__sync_lock_release` of the lock a thread holds. -/
theorem lockStep_release
    {slot : Slot} {entry : DupSlot} {before after : Option Slot}
    (mine : before = some slot) (left : after = none) :
    LockStep before after world (world.put slot entry) := by
  subst left
  constructor
  · intro other holds
    cases holds
  · intro other holds
    cases holds
  · intro other held apart
    have different : other ≠ slot := by
      intro same
      exact apart (same ▸ mine)
    change (Function.update world.slots slot entry other).lock = true
    rw [Function.update_of_ne different]
    exact held

/-- A store into a slot that leaves its payload alone changes nothing known. -/
theorem knows_put
    {slot : Slot} {entry : DupSlot} (knows : Knows world pc)
    (socket : entry.socket = (world.slots slot).socket)
    (payload : entry.payload = (world.slots slot).payload) :
    Knows (world.put slot entry) pc := by
  have frame : Frame none world (world.put slot entry) := by
    constructor
    · exact fun _ => Nat.le_refl _
    · exact Nat.le_refl _
    · exact fun _ _ => rfl
    · intro other _
      change (Function.update world.slots slot entry other).socket = _ ∧
        (Function.update world.slots slot entry other).payload = _
      by_cases same : other = slot
      · rw [same, Function.update_self]
        exact ⟨socket, payload⟩
      · rw [Function.update_of_ne same]
        exact ⟨rfl, rfl⟩
  apply knows_frame knows frame
  intro other _ none
  cases none

/-- A thread takes the lock of a slot. -/
theorem Invariant.take
    (ok : Invariant world) (thread : Nat) {slot : Slot}
    (free : ¬ (world.slots slot).lock = true) (knows : Knows world pc)
    (takes : locks pc = some slot) :
    Invariant
      ((world.put slot { world.slots slot with lock := true }).goto thread
        pc) := by
  refine ok.put rfl (.inr ⟨rfl, rfl⟩) ?_ ?_ (knows_put knows rfl rfl)
  · rcases ok.filled slot with empty | filled
    · exact .inl empty
    · exact .inr ⟨filled.known, filled.made, filled.identity⟩
  · exact lockStep_take (eq_false_of_ne_true free) rfl takes

/-- A thread releases the lock it holds. -/
theorem Invariant.release
    (ok : Invariant world) {slot : Slot}
    (mine : locks (world.threads thread) = some slot) (knows : Knows world pc)
    (left : locks pc = none) :
    Invariant
      ((world.put slot { world.slots slot with lock := false }).goto thread
        pc) := by
  refine ok.put rfl (.inr ⟨rfl, rfl⟩) ?_ ?_ (knows_put knows rfl rfl)
  · rcases ok.filled slot with empty | filled
    · exact .inl empty
    · exact .inr ⟨filled.known, filled.made, filled.identity⟩
  · exact lockStep_release mine left

/-- A thread writes the descriptor of a slot. -/
theorem Invariant.retag
    (ok : Invariant world) {slot : Slot} {fd : Int}
    (filled : fd = -1 ∨ Filled world.kernel (world.slots slot))
    (knows : Knows world pc)
    (takes : locks pc = none ∨ locks pc = locks (world.threads thread)) :
    Invariant
      ((world.put slot { world.slots slot with fd := fd }).goto thread pc) := by
  refine ok.put rfl (.inr ⟨rfl, rfl⟩) ?_ ?_ (knows_put knows rfl rfl)
  · rcases filled with empty | filled
    · exact .inl empty
    · exact .inr ⟨filled.known, filled.made, filled.identity⟩
  · exact ok.lockStep_put rfl takes

/-! ## The replay -/

/-- A matching identity is the identity of the socket the payload came from. -/
theorem Invariant.named_of_identity
    (ok : Invariant world) {fd : Int} {entry : DupSlot}
    (filled : Filled world.kernel entry)
    (same : entry.socket = world.kernel.dupSocket fd) :
    world.kernel.names fd = some entry.payload.source := by
  cases named : world.kernel.names fd with
  | none =>
      rw [Kernel.dupSocket, named] at same
      exact absurd same filled.known
  | some socket =>
      rw [Kernel.dupSocket, named] at same
      have equal := ok.fresh _ filled.made _ (ok.named fd socket named)
        (filled.identity.symm.trans same)
      rw [equal]

/-- A delivery on the descriptor that was checked. -/
theorem Invariant.deliver
    (ok : Invariant world) {call : ReceiveCall} {checked : Option Socket}
    (phase : world.threads thread = .replay call (.deliver checked))
    (still : world.kernel.names call.fd = checked) (answer : Answer) :
    Invariant
      (dupReplayStep world thread answer call (.deliver checked)) := by
  have knows := ok.knows thread
  rw [phase] at knows
  have source : checked =
      some (world.slots (dupSlot call.fd)).payload.source :=
    knows
  have same : locks (.replay call (.clear false)) =
      locks (world.threads thread) := by
    rw [phase]
    rfl
  have cleared : Knows world (.replay call (.clear false)) :=
    trivial
  refine ok.quiet ?_ ?_ ?_ ?_ cleared (.inr same) ?_
  · rfl
  · rfl
  · rfl
  · rfl
  intro replay member
  rcases List.mem_cons.mp member with rfl | earlier
  · exact ⟨source, still.trans source⟩
  · exact ok.own replay earlier

theorem Invariant.dupReplayStep
    (ok : Invariant world) {call : ReceiveCall} {stage : ReplayStage}
    (phase : world.threads thread = .replay call stage)
    (undisturbed : UndisturbedAt world (.replay call stage))
    (answer : Answer) :
    Invariant (dupReplayStep world thread answer call stage) := by
  have knows := ok.knows thread
  rw [phase] at knows
  have before : locks (world.threads thread) = locks (.replay call stage) := by
    rw [phase]
  cases stage with
  | table =>
      simp only [DupSlots.dupReplayStep]
      split
      · exact ok.goto thread trivial (.inl rfl)
      · rename_i guarded
        rw [Bool.or_eq_true, decide_eq_true_eq, not_or] at guarded
        have nonneg : 0 ≤ call.fd := not_lt.mp guarded.2
        exact ok.goto thread nonneg (.inl rfl)
  | lock =>
      simp only [DupSlots.dupReplayStep]
      split
      · exact ok.goto thread trivial (.inl rfl)
      · rename_i free
        exact ok.take thread free knows rfl
  | tag =>
      simp only [DupSlots.dupReplayStep]
      split
      · exact ok.goto thread trivial (.inr before.symm)
      · rename_i same
        have filled : Filled world.kernel (world.slots (dupSlot call.fd)) := by
          rcases ok.filled (dupSlot call.fd) with empty | filled
          · have nonneg : 0 ≤ call.fd := knows
            have tag := not_not.mp same
            omega
          · exact filled
        exact ok.goto thread filled (.inr before.symm)
  | identity =>
      simp only [DupSlots.dupReplayStep]
      split
      · exact ok.goto thread trivial (.inr before.symm)
      · rename_i same
        have named := ok.named_of_identity knows (not_not.mp same)
        exact ok.goto thread named (.inr before.symm)
  | rule checked =>
      simp only [DupSlots.dupReplayStep]
      split
      · exact ok.goto thread knows (.inr before.symm)
      · exact ok.goto thread trivial (.inr before.symm)
  | deliver checked => exact ok.deliver phase undisturbed answer
  | clear again => exact ok.retag (.inl rfl) trivial (.inr before.symm)
  | unlock again =>
      cases again with
      | true => exact ok.release before trivial rfl
      | false => exact ok.release before trivial rfl

/-! ## The generation, the receive and the store -/

theorem Invariant.dupGenerationStep
    (ok : Invariant world) (thread : Nat) (call : ReceiveCall)
    (stage : GenerationStage) (answer : Answer) :
    Invariant (dupGenerationStep world thread answer call stage) := by
  have unsampled : Sampled world call.fd ⟨0, 0⟩ :=
    ⟨rfl, Nat.zero_le _⟩
  cases stage with
  | table =>
      simp only [DupSlots.dupGenerationStep]
      split
      · exact ok.goto thread trivial (.inl rfl)
      · exact ok.goto thread trivial (.inl rfl)
  | map =>
      simp only [DupSlots.dupGenerationStep]
      split
      · exact ok.goto thread trivial (.inl rfl)
      · exact ok.goto thread unsampled (.inl rfl)
  | publish => exact ok.quiet rfl rfl rfl rfl trivial (.inl rfl) ok.own
  | read =>
      simp only [DupSlots.dupGenerationStep]
      split
      · exact ok.goto thread unsampled (.inl rfl)
      · have sampled : Sampled world call.fd
            ⟨(world.slots (dupSlot call.fd)).closes,
              world.counts (dupSlot call.fd)⟩ :=
          ⟨ok.closes _, Nat.le_refl _⟩
        exact ok.goto thread sampled (.inl rfl)

/-- A store whose first look finds its generation has the right identity. -/
theorem Invariant.tagged_of_check
    (ok : Invariant world) {keep : Keep} (keepOk : KeepOk world keep)
    (tagged : world.counts (dupSlot keep.fd) = keep.sample.count →
      keep.identity = world.kernel.identities keep.payload.source)
    (few : world.counts (dupSlot keep.fd) - keep.sample.count < 2 ^ 32)
    (same : (world.slots (dupSlot keep.fd)).closes = keep.sample.generation) :
    keep.identity = world.kernel.identities keep.payload.source := by
  have words : UInt32.ofNat keep.sample.count =
      UInt32.ofNat (world.counts (dupSlot keep.fd)) := by
    rw [← keepOk.sampled.word, ← same, ok.closes]
  exact tagged (eq_of_ofNat_eq keepOk.sampled.earlier few words).symm

/-- An identity sampled from a descriptor that still names the socket is right. -/
theorem Invariant.tagged_of_identity
    (ok : Invariant world) {fd : Int} {sample : Sample} {payload : Payload}
    (sampled : Sampled world fd sample)
    (undisturbed : UndisturbedAt world (.identity fd sample payload))
    (known : world.kernel.dupSocket fd ≠ 0)
    (still : world.counts (dupSlot fd) = sample.count) :
    world.kernel.dupSocket fd = world.kernel.identities payload.source := by
  have same : (world.slots (dupSlot fd)).closes = sample.generation := by
    rw [ok.closes, still, sampled.word]
  rcases undisturbed same with closed | own
  · rw [Kernel.dupSocket, closed] at known
    exact absurd rfl known
  · rw [Kernel.dupSocket, own]

theorem Invariant.dupStoreStep
    (ok : Invariant world) {keep : Keep} {stage : StoreStage}
    (phase : world.threads thread = .store keep stage)
    (undisturbed : UndisturbedAt world (.store keep stage))
    (answer : Answer) :
    Invariant (dupStoreStep world thread answer keep stage) := by
  have knows := ok.knows thread
  rw [phase] at knows
  rcases knows with ⟨keepOk, knows⟩
  have before : locks (world.threads thread) = locks (.store keep stage) := by
    rw [phase]
  cases stage with
  | table =>
      simp only [DupSlots.dupStoreStep]
      split
      · exact ok.goto thread ⟨keepOk, knows⟩ (.inl rfl)
      · exact ok.goto thread ⟨keepOk, knows⟩ (.inl rfl)
  | map =>
      simp only [DupSlots.dupStoreStep]
      split
      · exact ok.goto thread ⟨keepOk, knows⟩ (.inl rfl)
      · exact ok.goto thread trivial (.inl rfl)
  | publish =>
      exact ok.quiet rfl rfl rfl rfl ⟨keepOk, knows⟩ (.inl rfl) ok.own
  | lock =>
      simp only [DupSlots.dupStoreStep]
      split
      · exact ok.goto thread trivial (.inl rfl)
      · rename_i free
        exact ok.take thread free ⟨keepOk, knows⟩ rfl
  | check =>
      simp only [DupSlots.dupStoreStep]
      split
      · exact ok.goto thread ⟨keepOk, trivial⟩ (.inr before.symm)
      · rename_i same
        have tagged := ok.tagged_of_check keepOk knows undisturbed
          (not_not.mp same)
        exact ok.goto thread ⟨keepOk, tagged⟩ (.inr before.symm)
  | write =>
      have filled : Filled world.kernel
          { world.slots (dupSlot keep.fd) with
            socket := keep.identity
            payload := keep.payload.keep } :=
        ⟨keepOk.known, keepOk.made, knows⟩
      refine ok.put ?_ (.inl before) (.inr filled)
        (ok.lockStep_put ?_ (.inr before.symm)) ⟨?_, ?_⟩
      · rfl
      · rfl
      · exact ⟨⟨keepOk.sampled.word, keepOk.sampled.earlier⟩, keepOk.known,
          keepOk.made⟩
      · change Filled world.kernel (Function.update world.slots _ _ _)
        rw [Function.update_self]
        exact filled
  | tag =>
      exact ok.retag (.inr knows) ⟨keepOk, trivial⟩ (.inr before.symm)
  | recheck =>
      simp only [DupSlots.dupStoreStep]
      split
      · exact ok.goto thread ⟨keepOk, trivial⟩ (.inr before.symm)
      · exact ok.goto thread ⟨keepOk, trivial⟩ (.inr before.symm)
  | clear => exact ok.retag (.inl rfl) ⟨keepOk, trivial⟩ (.inr before.symm)
  | unlock => exact ok.release before trivial rfl

/-! ## The close -/

/-- The step that counts a close. -/
theorem Invariant.count
    (ok : Invariant world) (thread : Nat) (fd : Int) :
    Invariant (closeStep world thread fd .count) := by
  have threads : (closeStep world thread fd .count).threads =
      Function.update world.threads thread (.close fd .clear) :=
    rfl
  have slots : (closeStep world thread fd .count).slots =
      Function.update world.slots (dupSlot fd)
        { world.slots (dupSlot fd) with
          closes := (world.slots (dupSlot fd)).closes + 1 } :=
    rfl
  have counts : (closeStep world thread fd .count).counts =
      Function.update world.counts (dupSlot fd)
        (world.counts (dupSlot fd) + 1) :=
    rfl
  have frame : Frame (locks (world.threads thread)) world
      (closeStep world thread fd .count) := by
    constructor
    · intro slot
      rw [counts]
      by_cases same : slot = dupSlot fd
      · rw [same, Function.update_self]
        exact Nat.le_succ _
      · rw [Function.update_of_ne same]
    · exact Nat.le_refl _
    · exact fun _ _ => rfl
    · intro slot _
      rw [slots]
      by_cases same : slot = dupSlot fd
      · rw [same, Function.update_self]
        exact ⟨rfl, rfl⟩
      · rw [Function.update_of_ne same]
        exact ⟨rfl, rfl⟩
  refine ok.after threads frame (ok.lockStep_of_same ?_ (.inl rfl)) ?_ ?_
    ok.named ok.fresh trivial ok.own
  · intro slot
    rw [slots]
    by_cases same : slot = dupSlot fd
    · rw [same, Function.update_self]
    · rw [Function.update_of_ne same]
  · intro slot
    rw [slots, counts]
    by_cases same : slot = dupSlot fd
    · rw [same, Function.update_self, Function.update_self, ok.closes]
      exact ofNat_add_one _
    · rw [Function.update_of_ne same, Function.update_of_ne same]
      exact ok.closes slot
  · intro slot
    rw [slots]
    by_cases same : slot = dupSlot fd
    · rw [same, Function.update_self]
      rcases ok.filled (dupSlot fd) with empty | filled
      · exact .inl empty
      · exact .inr ⟨filled.known, filled.made, filled.identity⟩
    · rw [Function.update_of_ne same]
      exact ok.filled slot

/-- The kernel closes a descriptor. -/
theorem Invariant.unname
    (ok : Invariant world) (thread : Nat) (fd : Int)
    {pc : Pc} (knows : Knows world pc)
    (takes : locks pc = none ∨ locks pc = locks (world.threads thread)) :
    Invariant
      { world.goto thread pc with
        kernel.names := Function.update world.kernel.names fd none } := by
  have unchanged : ∀ free, Frame free world
      { world.goto thread pc with
        kernel.names := Function.update world.kernel.names fd none } :=
    fun _ => ⟨fun _ => Nat.le_refl _, Nat.le_refl _, fun _ _ => rfl,
      fun _ _ => ⟨rfl, rfl⟩⟩
  refine ok.after rfl (unchanged _) (ok.lockStep_of_same ?_ takes) ok.closes ?_
    ?_ ok.fresh ?_ ok.own
  · exact fun _ => rfl
  · intro slot
    rcases ok.filled slot with empty | filled
    · exact .inl empty
    · exact .inr ⟨filled.known, filled.made, filled.identity⟩
  · intro other socket named
    change Function.update world.kernel.names fd none other = some socket at named
    by_cases same : other = fd
    · rw [same, Function.update_self] at named
      cases named
    · rw [Function.update_of_ne same] at named
      exact ok.named other socket named
  · apply knows_frame knows (unchanged none)
    intro slot _ none
    cases none

theorem Invariant.closeStep
    (ok : Invariant world) (thread : Nat) (fd : Int) (stage : CloseStage) :
    Invariant (closeStep world thread fd stage) := by
  cases stage with
  | table =>
      simp only [DupSlots.closeStep]
      split
      · exact ok.goto thread trivial (.inl rfl)
      · exact ok.goto thread trivial (.inl rfl)
  | count => exact ok.count thread fd
  | clear =>
      simp only [DupSlots.closeStep]
      split
      · exact ok.retag (.inl rfl) trivial (.inl rfl)
      · exact ok.goto thread trivial (.inl rfl)
  | kernel => exact ok.unname thread fd trivial (.inl rfl)

/-! ## Every step -/

theorem Invariant.threadStep
    (ok : Invariant world) {answer : Answer}
    (undisturbed : UndisturbedAt world (world.threads thread))
    (stepped : threadStep world thread answer = some next) :
    Invariant next := by
  have knows := ok.knows thread
  unfold DupSlots.threadStep at stepped
  cases phase : world.threads thread with
  | idle =>
      rw [phase] at stepped
      cases stepped
  | replay call stage =>
      rw [phase] at stepped undisturbed
      cases stepped
      exact ok.dupReplayStep phase undisturbed answer
  | generation call stage =>
      rw [phase] at stepped
      cases stepped
      exact ok.dupGenerationStep thread call stage answer
  | receive call sample =>
      rw [phase] at stepped knows
      simp only at stepped
      split at stepped
      · cases stepped
        exact ok.goto thread trivial (.inl rfl)
      · rename_i socket named
        cases stepped
        have receiving : Knows world (.receiving call sample socket) :=
          ⟨knows, ok.named _ socket named⟩
        exact ok.goto thread receiving (.inl rfl)
  | receiving call sample socket =>
      rw [phase] at stepped knows
      simp only at stepped
      split at stepped
      · cases stepped
        exact ok.goto thread trivial (.inl rfl)
      · cases stepped
        exact ok.goto thread trivial (.inl rfl)
      · rename_i data name _ _
        cases stepped
        have received : Knows world
            (.identity call.fd sample ⟨data, name, socket⟩) :=
          knows
        exact ok.goto thread received (.inl rfl)
  | identity fd sample payload =>
      rw [phase] at stepped knows undisturbed
      simp only at stepped
      split at stepped
      · cases stepped
        exact ok.goto thread trivial (.inl rfl)
      · rename_i known
        split at stepped
        · cases stepped
          exact ok.goto thread trivial (.inl rfl)
        · cases stepped
          have keeps : Knows world
              (.store ⟨fd, sample, world.kernel.dupSocket fd, payload⟩
                .table) :=
            ⟨⟨knows.1, known, knows.2⟩,
              ok.tagged_of_identity knows.1 undisturbed known⟩
          exact ok.goto thread keeps (.inl rfl)
  | store keep stage =>
      rw [phase] at stepped undisturbed
      cases stepped
      exact ok.dupStoreStep phase undisturbed answer
  | close fd stage =>
      rw [phase] at stepped
      cases stepped
      exact ok.closeStep thread fd stage

/-- A call begins where its thread knows all it has to know. -/
theorem Invariant.enter
    (ok : Invariant world) (knows : Knows world pc) (takes : locks pc = none)
    (entered : world.enter thread pc = some next) : Invariant next := by
  unfold World.enter at entered
  split at entered
  · cases entered
    exact ok.goto thread knows (.inl takes)
  · cases entered

/-- The kernel makes a socket of a new identity. -/
theorem Invariant.create
    (ok : Invariant world) {fd : Int} {identity : UInt64}
    (new : Undisturbed world (.create fd identity))
    (stepped : step world (.create fd identity) = some next) :
    Invariant next := by
  have earlier : ∀ socket < world.kernel.made,
      Function.update world.kernel.identities world.kernel.made identity
        socket = world.kernel.identities socket :=
    fun socket below => Function.update_of_ne below.ne _ _
  simp only [step] at stepped
  split at stepped
  · cases stepped
    have unchanged : ∀ free, Frame free world
        { world with
          kernel.names :=
            Function.update world.kernel.names fd (some world.kernel.made)
          kernel.identities :=
            Function.update world.kernel.identities world.kernel.made identity
          kernel.made := world.kernel.made + 1 } :=
      fun _ => ⟨fun _ => Nat.le_refl _, Nat.le_succ _, earlier,
        fun _ _ => ⟨rfl, rfl⟩⟩
    refine ⟨ok.closes, ?_, ?_, ?_, ?_, ok.held, ok.exclusive, ok.own⟩
    · intro slot
      rcases ok.filled slot with empty | filled
      · exact .inl empty
      · exact .inr (filled.frame (unchanged none) nofun)
    · intro other socket named
      change Function.update world.kernel.names fd (some world.kernel.made)
        other = some socket at named
      by_cases same : other = fd
      · rw [same, Function.update_self] at named
        cases named
        exact Nat.lt_succ_self _
      · rw [Function.update_of_ne same] at named
        exact Nat.lt_succ_of_lt (ok.named other socket named)
    · intro left leftBelow right rightBelow same
      change Function.update world.kernel.identities world.kernel.made identity
          left =
        Function.update world.kernel.identities world.kernel.made identity
          right at same
      rcases Nat.lt_succ_iff_lt_or_eq.mp leftBelow with leftOld | rfl
      · rcases Nat.lt_succ_iff_lt_or_eq.mp rightBelow with rightOld | rfl
        · rw [earlier left leftOld, earlier right rightOld] at same
          exact ok.fresh left leftOld right rightOld same
        · rw [earlier left leftOld, Function.update_self] at same
          exact absurd same (new left leftOld)
      · rcases Nat.lt_succ_iff_lt_or_eq.mp rightBelow with rightOld | rfl
        · rw [earlier right rightOld, Function.update_self] at same
          exact absurd same.symm (new right rightOld)
        · rfl
    · intro thread
      exact knows_frame (ok.knows thread) (unchanged none) nofun
  · cases stepped

theorem invariant_step
    {action : Action} (ok : Invariant world)
    (undisturbed : Undisturbed world action)
    (stepped : step world action = some next) : Invariant next := by
  cases action with
  | receive actor call =>
      have outside : Knows world (.replay call .table) :=
        trivial
      exact ok.enter outside rfl stepped
  | close actor fd =>
      have outside : Knows world (.close fd .table) :=
        trivial
      exact ok.enter outside rfl stepped
  | create fd identity => exact ok.create undisturbed stepped
  | release fd =>
      cases stepped
      have stays : Function.update world.threads 0 (world.threads 0) =
          world.threads :=
        Function.update_eq_self 0 world.threads
      have closed := ok.unname 0 fd (ok.knows 0) (.inr rfl)
      unfold World.goto at closed
      rw [stays] at closed
      exact closed
  | thread actor answer => exact ok.threadStep undisturbed stepped

end Steps

/--
In every run that meets the condition, whatever the threads and the kernel do,
every payload replayed on a descriptor is of the socket that it names.
-/
theorem own_socket_throughout_of_undisturbed
    {actions : List Action}
    (undisturbed : Meets step Undisturbed initial actions) :
    Throughout step OwnSocket initial actions := by
  have every : ∀ action ∈ actions, (fun _ => True) action :=
    fun _ _ => trivial
  have invariant :=
    throughout_of_meets
      (fun _ _ _ _ ok met stepped => invariant_step ok met stepped)
      every invariant_initial undisturbed
  intro before after middle split ran
  exact (invariant before after middle split ran).own

/-! ## A payload replayed, and one replayed on another socket -/

/-- A receive of at most 100 bytes from descriptor 5. -/
def receiveFive : ReceiveCall :=
  ⟨5, 100, 0⟩

/-- The kernel maps and hands out three bytes of a stream, and the rule fires. -/
def threeBytes : Answer :=
  ⟨true, some ([97, 98, 99], []), true, true⟩

/-- The kernel maps but has no bytes. -/
def noBytes : Answer :=
  ⟨true, none, true, true⟩

/-- A thread takes a number of steps. -/
def steps (thread count : Nat) (answer : Answer) : List Action :=
  List.replicate count (.thread thread answer)

/-- Two receives on one socket: the second replays what the first received. -/
def replayed : List Action :=
  .create 5 11 :: .receive 1 receiveFive :: steps 1 15 threeBytes ++
    .receive 1 receiveFive :: steps 1 8 threeBytes

theorem own_socket_throughout_of_undisturbed_replayed :
    Throughout step OwnSocket initial replayed :=
  own_socket_throughout_of_undisturbed (by decide +kernel)

/--
A close has forgotten descriptor 5 but not closed it when a receive samples the
close count and takes the bytes; the number names another socket when the
receive keeps them.
-/
def keptAfterForget : List Action :=
  .create 5 11 :: .receive 1 receiveFive :: steps 1 7 noBytes ++
    .close 0 5 :: steps 0 3 noBytes ++
    .receive 1 receiveFive :: steps 1 8 threeBytes ++
    steps 0 1 noBytes ++ .create 5 22 :: steps 1 8 threeBytes ++
    .receive 2 receiveFive :: steps 2 8 threeBytes

/-- The bytes of the closed socket are replayed on the new one. -/
theorem keptAfterForget_replays_other_socket :
    ¬ Throughout step OwnSocket initial keptAfterForget := by
  decide +kernel

end ChaosLibs.Net.DupReplay
