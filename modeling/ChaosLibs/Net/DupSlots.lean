import ChaosLibs.Common.CString
import ChaosLibs.Machine.LabelledRun
import Mathlib.Logic.Function.Basic

/-!
# The kept payloads of DUP rules

Any number of threads inside a receive that a DUP rule matches, or inside the
`close` of libchaos-net, over the slot table of `chaos_net_socket.c`: one
shared access at a time, except that the bytes, the sender and the identity of
a slot, which only the holder of its lock touches, are written in one step.

The kernel's side is the table of descriptors and the identity (`fstat`) of
each socket ever made; sockets are numbered in the order they were made.  The
socket a payload came from, the count behind the 32-bit `closes` word of a slot
and the list of replays are ghosts.
-/

namespace ChaosLibs.Net.DupSlots

open ChaosLibs.Common.CString
open ChaosLibs.Machine

/-! ## Slots -/

/-- `CHAOS_NET_DUP_SLOTS`. -/
abbrev chaosNetDupSlots : Nat := 64

/-- `CHAOS_NET_DUP_MAX_BYTES`. -/
abbrev chaosNetDupMaxBytes : Nat := 4096

/-- `sizeof(struct sockaddr_storage)`. -/
abbrev sockaddrStorageSize : Nat := 128

/-- An index into the table. -/
abbrev Slot := Fin chaosNetDupSlots

/-- The slot of a descriptor that is not negative. -/
def dupSlot (fd : Int) : Slot :=
  Fin.ofNat chaosNetDupSlots fd.toNat

/-- The number of a socket. -/
abbrev Socket := Nat

/-- What one receive wrote, with the sender's address, and the socket it is from. -/
structure Payload where
  data : Bytes
  name : Bytes
  source : Socket
deriving DecidableEq

/-- What `chaos_net_dup_store` keeps of a payload. -/
def Payload.keep (payload : Payload) : Payload :=
  { payload with
    data := payload.data.take chaosNetDupMaxBytes
    name :=
      if payload.name.length ≤ sockaddrStorageSize then payload.name else [] }

/-- What `chaos_net_dup_replay` copies into buffers of the caller. -/
def Payload.deliver (payload : Payload) (capacity nameCapacity : Nat) : Payload :=
  { payload with
    data := payload.data.take capacity
    name := payload.name.take nameCapacity }

/-- `chaos_net_dup_slot_t`. -/
structure DupSlot where
  lock : Bool
  fd : Int
  closes : UInt32
  socket : UInt64
  payload : Payload

/-- A slot of a table that was just mapped. -/
def DupSlot.empty : DupSlot :=
  ⟨false, -1, 0, 0, ⟨[], [], 0⟩⟩

/-! ## Program counters -/

/-- The arguments of a receive. -/
structure ReceiveCall where
  fd : Int
  capacity : Nat
  nameCapacity : Nat

/-- Where a thread stands in `chaos_net_dup_replay`. -/
inductive ReplayStage where
  | table
  | lock
  | tag
  | identity
  | rule (checked : Option Socket)
  | deliver (checked : Option Socket)
  /-- The payload is dropped; `again` when the call goes on to receive. -/
  | clear (again : Bool)
  | unlock (again : Bool)

/-- Where a thread stands in `chaos_net_dup_generation`. -/
inductive GenerationStage where
  | table
  | map
  | publish
  | read

/-- The close count a receive sampled, and, as a ghost, the count behind the word. -/
structure Sample where
  generation : UInt32
  count : Nat

/-- A payload on its way into the slot of its descriptor. -/
structure Keep where
  fd : Int
  sample : Sample
  identity : UInt64
  payload : Payload

/-- Where a thread stands in `chaos_net_dup_store` after the identity sample. -/
inductive StoreStage where
  | table
  | map
  | publish
  | lock
  | check
  | write
  | tag
  | recheck
  | clear
  | unlock

/-- Where a thread stands in `close`. -/
inductive CloseStage where
  | table
  | count
  | clear
  | kernel

/-- Where a thread stands; `idle` outside of the library. -/
inductive Pc where
  | idle
  | replay (call : ReceiveCall) (stage : ReplayStage)
  | generation (call : ReceiveCall) (stage : GenerationStage)
  | receive (call : ReceiveCall) (sample : Sample)
  | receiving (call : ReceiveCall) (sample : Sample) (socket : Socket)
  | identity (fd : Int) (sample : Sample) (payload : Payload)
  | store (keep : Keep) (stage : StoreStage)
  | close (fd : Int) (stage : CloseStage)

/-! ## The world -/

/-- The descriptors of the process, and the identities of the sockets ever made. -/
structure Kernel where
  names : Int → Option Socket
  identities : Socket → UInt64
  made : Nat

/-- `chaos_net_dup_socket`: 0 for a descriptor that is not open. -/
def Kernel.dupSocket (kernel : Kernel) (fd : Int) : UInt64 :=
  match kernel.names fd with
  | none => 0
  | some socket => kernel.identities socket

/--
A payload a DUP rule delivered on a descriptor, with the socket the descriptor
named at the identity check and the one it named at the delivery.
-/
structure Replay where
  fd : Int
  delivered : Payload
  checked : Option Socket
  current : Option Socket

/-- The slots, the kernel, the threads, and the ghost record. -/
structure World where
  mapped : Bool
  slots : Slot → DupSlot
  kernel : Kernel
  threads : Nat → Pc
  counts : Slot → Nat
  replays : List Replay

/-- Before the first socket and the first receive. -/
def initial : World where
  mapped := false
  slots := fun _ => DupSlot.empty
  kernel := ⟨fun _ => none, fun _ => 0, 0⟩
  threads := fun _ => .idle
  counts := fun _ => 0
  replays := []

/-- Move a thread. -/
def World.goto (world : World) (thread : Nat) (pc : Pc) : World :=
  { world with threads := Function.update world.threads thread pc }

/-- Store into a slot. -/
def World.put (world : World) (slot : Slot) (entry : DupSlot) : World :=
  { world with slots := Function.update world.slots slot entry }

/-- What the kernel and the rule answer to a step, if it asks for anything. -/
structure Answer where
  mapping : Bool
  received : Option (Bytes × Bytes)
  stream : Bool
  fires : Bool

/-! ## Steps of a thread -/

/-- The next step of `chaos_net_dup_replay`. -/
def dupReplayStep
    (world : World) (thread : Nat) (answer : Answer) (call : ReceiveCall) :
    ReplayStage → World :=
  let slot := dupSlot call.fd
  let entry := world.slots slot
  fun
  | .table =>
      if !world.mapped || call.fd < 0 then
        world.goto thread (.generation call .table)
      else
        world.goto thread (.replay call .lock)
  | .lock =>
      if entry.lock then
        world.goto thread (.generation call .table)
      else
        (world.put slot { entry with lock := true }).goto thread
          (.replay call .tag)
  | .tag =>
      if entry.fd ≠ call.fd then
        world.goto thread (.replay call (.unlock true))
      else
        world.goto thread (.replay call .identity)
  | .identity =>
      if entry.socket ≠ world.kernel.dupSocket call.fd then
        world.goto thread (.replay call (.clear true))
      else
        world.goto thread
          (.replay call (.rule (world.kernel.names call.fd)))
  | .rule checked =>
      if answer.fires then
        world.goto thread (.replay call (.deliver checked))
      else
        world.goto thread (.replay call (.unlock true))
  | .deliver checked =>
      { world.goto thread (.replay call (.clear false)) with
        replays :=
          ⟨call.fd, entry.payload.deliver call.capacity call.nameCapacity,
            checked, world.kernel.names call.fd⟩ :: world.replays }
  | .clear again =>
      (world.put slot { entry with fd := -1 }).goto thread
        (.replay call (.unlock again))
  | .unlock again =>
      (world.put slot { entry with lock := false }).goto thread
        (if again then .generation call .table else .idle)

/-- The next step of `chaos_net_dup_generation`. -/
def dupGenerationStep
    (world : World) (thread : Nat) (answer : Answer) (call : ReceiveCall) :
    GenerationStage → World
  | .table =>
      if world.mapped then
        world.goto thread (.generation call .read)
      else
        world.goto thread (.generation call .map)
  | .map =>
      if answer.mapping then
        world.goto thread (.generation call .publish)
      else
        world.goto thread (.receive call ⟨0, 0⟩)
  | .publish =>
      { world.goto thread (.generation call .read) with mapped := true }
  | .read =>
      if call.fd < 0 then
        world.goto thread (.receive call ⟨0, 0⟩)
      else
        let slot := dupSlot call.fd
        world.goto thread
          (.receive call ⟨(world.slots slot).closes, world.counts slot⟩)

/-- The next step of `chaos_net_dup_store` after the identity sample. -/
def dupStoreStep
    (world : World) (thread : Nat) (answer : Answer) (keep : Keep) :
    StoreStage → World :=
  let slot := dupSlot keep.fd
  let entry := world.slots slot
  fun
  | .table =>
      if world.mapped then
        world.goto thread (.store keep .lock)
      else
        world.goto thread (.store keep .map)
  | .map =>
      if answer.mapping then
        world.goto thread (.store keep .publish)
      else
        world.goto thread .idle
  | .publish =>
      { world.goto thread (.store keep .lock) with mapped := true }
  | .lock =>
      if entry.lock then
        world.goto thread .idle
      else
        (world.put slot { entry with lock := true }).goto thread
          (.store keep .check)
  | .check =>
      if entry.closes ≠ keep.sample.generation then
        world.goto thread (.store keep .unlock)
      else
        world.goto thread (.store keep .write)
  | .write =>
      (world.put slot
        { entry with socket := keep.identity, payload := keep.payload.keep }).goto
        thread (.store keep .tag)
  | .tag =>
      (world.put slot { entry with fd := keep.fd }).goto thread
        (.store keep .recheck)
  | .recheck =>
      if entry.closes ≠ keep.sample.generation then
        world.goto thread (.store keep .clear)
      else
        world.goto thread (.store keep .unlock)
  | .clear =>
      (world.put slot { entry with fd := -1 }).goto thread (.store keep .unlock)
  | .unlock =>
      (world.put slot { entry with lock := false }).goto thread .idle

/-- The next step of `close`: `chaos_net_dup_forget`, then the kernel's close. -/
def closeStep (world : World) (thread : Nat) (fd : Int) : CloseStage → World :=
  let slot := dupSlot fd
  let entry := world.slots slot
  fun
  | .table =>
      if !world.mapped || fd < 0 then
        world.goto thread (.close fd .kernel)
      else
        world.goto thread (.close fd .count)
  | .count =>
      { (world.put slot { entry with closes := entry.closes + 1 }).goto thread
          (.close fd .clear) with
        counts := Function.update world.counts slot (world.counts slot + 1) }
  | .clear =>
      if entry.fd = fd then
        (world.put slot { entry with fd := -1 }).goto thread (.close fd .kernel)
      else
        world.goto thread (.close fd .kernel)
  | .kernel =>
      { world.goto thread .idle with
        kernel.names := Function.update world.kernel.names fd none }

/-- The next step of a thread inside the library. -/
def threadStep (world : World) (thread : Nat) (answer : Answer) : Option World :=
  match world.threads thread with
  | .idle => none
  | .replay call stage => some (dupReplayStep world thread answer call stage)
  | .generation call stage =>
      some (dupGenerationStep world thread answer call stage)
  | .receive call sample =>
      match world.kernel.names call.fd with
      | none => some (world.goto thread .idle)
      | some socket => some (world.goto thread (.receiving call sample socket))
  | .receiving call sample socket =>
      match answer.received with
      | none | some ([], _) => some (world.goto thread .idle)
      | some (data, name) =>
          some
            (world.goto thread (.identity call.fd sample ⟨data, name, socket⟩))
  | .identity fd sample payload =>
      let identity := world.kernel.dupSocket fd
      if identity = 0 then
        some (world.goto thread .idle)
      else if chaosNetDupMaxBytes < payload.data.length && !answer.stream then
        some (world.goto thread .idle)
      else
        some
          (world.goto thread (.store ⟨fd, sample, identity, payload⟩ .table))
  | .store keep stage => some (dupStoreStep world thread answer keep stage)
  | .close fd stage => some (closeStep world thread fd stage)

/-! ## The machine -/

/-- What can happen next. -/
inductive Action where
  /-- A thread enters a receive that a DUP rule matches. -/
  | receive (thread : Nat) (call : ReceiveCall)
  /-- A thread calls `close`. -/
  | close (thread : Nat) (fd : Int)
  /-- The kernel makes a socket on a descriptor that is not open. -/
  | create (fd : Int) (identity : UInt64)
  /-- A descriptor is closed where libchaos-net does not see it. -/
  | release (fd : Int)
  /-- A thread inside the library takes its next step. -/
  | thread (thread : Nat) (answer : Answer)

/-- Begin a call of a thread that is outside of the library. -/
def World.enter (world : World) (thread : Nat) (pc : Pc) : Option World :=
  match world.threads thread with
  | .idle => some (world.goto thread pc)
  | _ => none

/-- One step of the world. -/
def step (world : World) : Action → Option World
  | .receive actor call => world.enter actor (.replay call .table)
  | .close actor fd => world.enter actor (.close fd .table)
  | .create fd identity =>
      if 0 ≤ fd && (world.kernel.names fd).isNone then
        some
          { world with
            kernel.names :=
              Function.update world.kernel.names fd (some world.kernel.made)
            kernel.identities :=
              Function.update world.kernel.identities world.kernel.made identity
            kernel.made := world.kernel.made + 1 }
      else
        none
  | .release fd =>
      some
        { world with
          kernel.names := Function.update world.kernel.names fd none }
  | .thread actor answer => threadStep world actor answer

/-! ## The property and the condition -/

/--
Every payload replayed on a descriptor was received from the socket that the
descriptor named at the identity check of the replay and at its delivery.
-/
def OwnSocket (world : World) : Prop :=
  ∀ replay ∈ world.replays,
    replay.checked = some replay.delivered.source ∧
      replay.current = some replay.delivered.source

/-- What the next step of a thread must meet. -/
def UndisturbedAt (world : World) : Pc → Prop
  | .identity fd sample payload =>
      (world.slots (dupSlot fd)).closes = sample.generation →
        world.kernel.names fd = none ∨
          world.kernel.names fd = some payload.source
  | .store keep .check =>
      world.counts (dupSlot keep.fd) - keep.sample.count < 2 ^ 32
  | .replay call (.deliver checked) => world.kernel.names call.fd = checked
  | _ => True

/--
A store samples the identity of the socket its bytes came from, unless its slot
has counted a close since its generation sample; a replay delivers on the
descriptor it has checked; a close count does not wrap between the two looks of
a store; and no socket is made under the identity of an earlier one.
-/
def Undisturbed (world : World) : Action → Prop
  | .create _ identity =>
      ∀ socket < world.kernel.made,
        world.kernel.identities socket ≠ identity
  | .thread actor _ => UndisturbedAt world (world.threads actor)
  | _ => True

instance decidableOwnSocket : DecidablePred OwnSocket :=
  fun world =>
    inferInstanceAs
      (Decidable (∀ replay ∈ world.replays,
        replay.checked = some replay.delivered.source ∧
          replay.current = some replay.delivered.source))

instance decidableUndisturbedAt (world : World) :
    ∀ pc, Decidable (UndisturbedAt world pc)
  | .identity _ _ _ => inferInstanceAs (Decidable (_ → _ ∨ _))
  | .store _ stage =>
      match stage with
      | .check => inferInstanceAs (Decidable (_ < _))
      | .table | .map | .publish | .lock | .write | .tag | .recheck | .clear
      | .unlock => isTrue trivial
  | .replay _ stage =>
      match stage with
      | .deliver _ => inferInstanceAs (Decidable (_ = _))
      | .table | .lock | .tag | .identity | .rule _ | .clear _ | .unlock _ =>
          isTrue trivial
  | .idle | .generation _ _ | .receive _ _ | .receiving _ _ _ | .close _ _ =>
      isTrue trivial

instance decidableUndisturbed (world : World) :
    ∀ action, Decidable (Undisturbed world action)
  | .create _ _ =>
      inferInstanceAs (Decidable (∀ socket < world.kernel.made, _ ≠ _))
  | .thread actor _ => decidableUndisturbedAt world (world.threads actor)
  | .receive _ _ | .close _ _ | .release _ => isTrue trivial

end ChaosLibs.Net.DupSlots
