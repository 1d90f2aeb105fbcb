import ChaosLibs.Common.RuleFiring
import ChaosLibs.Io.Rule
import ChaosLibs.Io.ScatterLists
import ChaosLibs.Machine.BitErrors

/-!
# The wrappers that move bytes

The calls of `chaos_io_rw.c` behind the rule that they match.  ERRNO and LATENCY are
decided before the real call; TORN leaves the call the first bytes of what it was to
write; CORRUPT flips a bit of what a call has read.
-/

namespace ChaosLibs.Io.TransferWrappers

open ChaosLibs.Common.HitSlots
open ChaosLibs.Common.PolicyGates
open ChaosLibs.Common.RuleFiring
open ChaosLibs.Common.ScatterLists
open ChaosLibs.Io.Rule
open ChaosLibs.Io.ScatterLists
open ChaosLibs.Machine.BitErrors
open ChaosLibs.Machine.ByteMemory

/-- The slots of libchaos-io. -/
abbrev Slots := Pool chaosIoMaxRules

/-- What a call meets: the realtime clock, its draws, and which vectors can be read. -/
structure Moment where
  now : Int
  /-- Drawn against the probability. -/
  chance : UInt32
  /-- Drawn for the torn count. -/
  cut : UInt32
  /-- Drawn for the byte and the bit that are corrupted. -/
  index : UInt32
  bit : UInt32
  reader : VectorReader

/-- What decides whether a rule fires. -/
def gates (rule : ChaosIoRule) : Gates chaosIoMaxRules where
  probability := rule.probability
  policy := rule.policy
  callSize := rule.callSize
  hit := rule.hit
  hitGeneration := rule.hitGeneration

/-- `chaos_io_rule_should_trigger`: the slots after the hit, when the rule fires. -/
def chaosIoRuleShouldTrigger (rule : ChaosIoRule) (moment : Moment) (slots : Slots) :
    Option Slots :=
  if !chaosPolicyWindowOpen rule.policy moment.now ||
      !chaosPolicySizeOk rule.policy rule.callSize then none
  else if rule.effect = .latency then chaosPolicyFire (gates rule) slots
  else if !probabilityHitSample rule.probability moment.chance then none
  else chaosPolicyFire (gates rule) slots

/-- `chaos_io_rule_apply_latency`: how long it sleeps. -/
def chaosIoRuleApplyLatency (rule : ChaosIoRule) (moment : Moment) (slots : Slots) :
    Nat × Slots :=
  if rule.effect ≠ .latency then (0, slots)
  else
    match chaosIoRuleShouldTrigger rule moment slots with
    | none => (0, slots)
    | some after => (rule.latencyMs, after)

/-- `chaos_io_rule_apply_errno`: the `errno` it sets. -/
def chaosIoRuleApplyErrno (rule : ChaosIoRule) (moment : Moment) (slots : Slots) :
    Option (Nat × Slots) :=
  if rule.effect ≠ .errno then none
  else (chaosIoRuleShouldTrigger rule moment slots).map fun after => (rule.errnum, after)

/-- What a wrapper does: `error` is its `errno`. -/
structure Outcome (Result : Type) where
  sleptMs : Nat
  slots : Slots
  result : Except Nat Result

/-! ## Writing -/

/--
A call that writes, with where it takes its bytes from.  An offset is where the bytes go,
where the call names the place; else they go to the descriptor's own offset.
-/
inductive WriteRequest where
  | write (buffer count : Nat)
  | pwrite (buffer count offset : Nat)
  | writev (iov : Option (List Iovec))
  | pwritev (iov : Option (List Iovec)) (offset : Nat)
  | sendfile (inOffset count : Nat)
  | copyFileRange (inOffset : Nat) (outOffset : Option Nat) (count : Nat)
deriving DecidableEq

/-- The place that a call names. -/
def WriteRequest.offset : WriteRequest → Option Nat
  | .write .. | .writev .. | .sendfile .. => none
  | .pwrite _ _ offset | .pwritev _ offset => some offset
  | .copyFileRange _ outOffset _ => outOffset

/-- The bytes that a call is to write, from memory or from the input file. -/
def WriteRequest.bytes (memory : Memory) (input : List UInt8) : WriteRequest → List UInt8
  | .write buffer count | .pwrite buffer count _ => contents memory buffer count
  | .writev iov | .pwritev iov _ => (cells (iov.getD [])).map memory
  | .sendfile inOffset count | .copyFileRange inOffset _ count =>
      (input.drop inOffset).take count

/--
The body of every wrapper that writes; `torn` is the call that TORN would make, where the
call can be torn.
-/
def writeWrapper (rule : Option ChaosIoRule) (moment : Moment) (slots : Slots)
    (request : WriteRequest) (torn : Option WriteRequest) : Outcome WriteRequest :=
  match rule with
  | none => ⟨0, slots, .ok request⟩
  | some rule =>
      if rule.effect = .latency then
        ⟨(chaosIoRuleApplyLatency rule moment slots).1,
          (chaosIoRuleApplyLatency rule moment slots).2, .ok request⟩
      else
        match chaosIoRuleApplyErrno rule moment slots with
        | some (errnum, after) => ⟨0, after, .error errnum⟩
        | none =>
            if rule.effect = .torn then
              match torn with
              | none => ⟨0, slots, .ok request⟩
              | some torn =>
                  match chaosIoRuleShouldTrigger rule moment slots with
                  | some after => ⟨0, after, .ok torn⟩
                  | none => ⟨0, slots, .ok request⟩
            else ⟨0, slots, .ok request⟩

section Wrappers

variable (rule : Option ChaosIoRule) (moment : Moment) (slots : Slots)

def write (buffer count : Nat) : Outcome WriteRequest :=
  writeWrapper rule moment slots (.write buffer count)
    (some (.write buffer (chaosIoTornCountSample count moment.cut)))

def pwrite (buffer count offset : Nat) : Outcome WriteRequest :=
  writeWrapper rule moment slots (.pwrite buffer count offset)
    (some (.pwrite buffer (chaosIoTornCountSample count moment.cut) offset))

/-- A vector is torn before the rule is asked. -/
def writev (iov : Option (List Iovec)) : Outcome WriteRequest :=
  writeWrapper rule moment slots (.writev iov)
    ((chaosIoTearIovecs moment.reader iov moment.cut).map fun torn => .writev (some torn))

def pwritev (iov : Option (List Iovec)) (offset : Nat) : Outcome WriteRequest :=
  writeWrapper rule moment slots (.pwritev iov offset)
    ((chaosIoTearIovecs moment.reader iov moment.cut).map fun torn =>
      .pwritev (some torn) offset)

def sendfile (inOffset count : Nat) : Outcome WriteRequest :=
  writeWrapper rule moment slots (.sendfile inOffset count)
    (some (.sendfile inOffset (chaosIoTornCountSample count moment.cut)))

def copyFileRange (inOffset : Nat) (outOffset : Option Nat) (count : Nat) :
    Outcome WriteRequest :=
  writeWrapper rule moment slots (.copyFileRange inOffset outOffset count)
    (some (.copyFileRange inOffset outOffset (chaosIoTornCountSample count moment.cut)))

/-- The call that a wrapper leaves to the kernel. -/
def writeCall : WriteRequest → Outcome WriteRequest
  | .write buffer count => write rule moment slots buffer count
  | .pwrite buffer count offset => pwrite rule moment slots buffer count offset
  | .writev iov => writev rule moment slots iov
  | .pwritev iov offset => pwritev rule moment slots iov offset
  | .sendfile inOffset count => sendfile rule moment slots inOffset count
  | .copyFileRange inOffset outOffset count =>
      copyFileRange rule moment slots inOffset outOffset count

end Wrappers

/-! ## Reading -/

/-- A call that reads, with the buffers that it fills. -/
inductive ReadRequest where
  | read (buffer count : Nat)
  | pread (buffer count offset : Nat)
  | readv (iov : Option (List Iovec))
  | preadv (iov : Option (List Iovec)) (offset : Nat)
deriving DecidableEq

/-- The place that a call names. -/
def ReadRequest.offset : ReadRequest → Option Nat
  | .read .. | .readv .. => none
  | .pread _ _ offset | .preadv _ offset => some offset

/-- The addresses that a call fills, in their order. -/
def ReadRequest.cells : ReadRequest → List Nat
  | .read buffer count | .pread buffer count _ => range buffer count
  | .readv iov | .preadv iov _ => Common.ScatterLists.cells (iov.getD [])

/--
The body of every wrapper that reads: the real call leaves `arrived` and returns `rc`,
and `corrupted` is what CORRUPT makes of the memory.
-/
def readWrapper (rule : Option ChaosIoRule) (moment : Moment) (slots : Slots)
    (arrived : Memory) (rc : Int) (corrupted : Memory) : Outcome (Memory × Int) :=
  match rule with
  | none => ⟨0, slots, .ok (arrived, rc)⟩
  | some rule =>
      if rule.effect = .latency then
        ⟨(chaosIoRuleApplyLatency rule moment slots).1,
          (chaosIoRuleApplyLatency rule moment slots).2, .ok (arrived, rc)⟩
      else
        match chaosIoRuleApplyErrno rule moment slots with
        | some (errnum, after) => ⟨0, after, .error errnum⟩
        | none =>
            if 0 < rc ∧ rule.effect = .corrupt then
              match chaosIoRuleShouldTrigger rule moment slots with
              | some after => ⟨0, after, .ok (corrupted, rc)⟩
              | none => ⟨0, slots, .ok (arrived, rc)⟩
            else ⟨0, slots, .ok (arrived, rc)⟩

section Wrappers

variable (rule : Option ChaosIoRule) (moment : Moment) (slots : Slots) (arrived : Memory)
  (rc : Int)

def read (buffer : Nat) : Outcome (Memory × Int) :=
  readWrapper rule moment slots arrived rc
    (chaosIoCorruptBufferSample arrived buffer rc.toNat moment.index moment.bit)

def readv (iov : Option (List Iovec)) : Outcome (Memory × Int) :=
  readWrapper rule moment slots arrived rc
    (chaosIoCorruptIovecs arrived iov rc.toNat moment.index moment.bit)

/-- The offset takes no part. -/
def pread (buffer : Nat) : Outcome (Memory × Int) :=
  read rule moment slots arrived rc buffer

def preadv (iov : Option (List Iovec)) : Outcome (Memory × Int) :=
  readv rule moment slots arrived rc iov

/-- What a wrapper makes of a real call. -/
def readCall : ReadRequest → Outcome (Memory × Int)
  | .read buffer _ => read rule moment slots arrived rc buffer
  | .pread buffer _ _ => pread rule moment slots arrived rc buffer
  | .readv iov => readv rule moment slots arrived rc iov
  | .preadv iov _ => preadv rule moment slots arrived rc iov

end Wrappers

/-! ## What fires -/

variable {rule : ChaosIoRule} {moment : Moment} {slots after : Slots}

theorem chaosPolicyFire_of_trigger
    (fires : chaosIoRuleShouldTrigger rule moment slots = some after) :
    chaosPolicyFire (gates rule) slots = some after := by
  unfold chaosIoRuleShouldTrigger at fires
  split at fires
  · cases fires
  split at fires
  · exact fires
  split at fires
  · cases fires
  · exact fires

/-- A rule that fires counts one hit in its slot. -/
theorem count_of_trigger
    (fires : chaosIoRuleShouldTrigger rule moment slots = some after)
    {slot : SlotId chaosIoMaxRules} (own : rule.hit = some slot) :
    (after slot).count = ((slots slot).count + 1) % 2 ^ 64 := by
  have fired := chaosPolicyFire_of_trigger fires
  have hit : (gates rule).hit = some slot := own
  unfold chaosPolicyFire at fired
  rw [hit] at fired
  dsimp only at fired
  split at fired
  · cases fired
  split at fired
  · rw [← Option.some.inj fired, Pool.modify_same]
    rfl
  split at fired
  · cases fired
  · rw [← Option.some.inj fired, Pool.modify_same]
    rfl

/-! ## What is torn -/

/-- What TORN makes of a call. -/
def tearOf (moment : Moment) : WriteRequest → Option WriteRequest
  | .write buffer count =>
      some (.write buffer (chaosIoTornCountSample count moment.cut))
  | .pwrite buffer count offset =>
      some (.pwrite buffer (chaosIoTornCountSample count moment.cut) offset)
  | .writev iov =>
      (chaosIoTearIovecs moment.reader iov moment.cut).map fun torn => .writev (some torn)
  | .pwritev iov offset =>
      (chaosIoTearIovecs moment.reader iov moment.cut).map fun torn =>
        .pwritev (some torn) offset
  | .sendfile inOffset count =>
      some (.sendfile inOffset (chaosIoTornCountSample count moment.cut))
  | .copyFileRange inOffset outOffset count =>
      some (.copyFileRange inOffset outOffset (chaosIoTornCountSample count moment.cut))

theorem writeCall_eq (rule : Option ChaosIoRule) (moment : Moment) (slots : Slots)
    (request : WriteRequest) :
    writeCall rule moment slots request =
      writeWrapper rule moment slots request (tearOf moment request) := by
  cases request <;> rfl

theorem writeCall_none (moment : Moment) (slots : Slots) (request : WriteRequest) :
    writeCall none moment slots request = ⟨0, slots, .ok request⟩ := by
  rw [writeCall_eq]
  rfl

theorem torn_count_le (requested : Nat) (sample : UInt32) :
    chaosIoTornCountSample requested sample ≤ requested := by
  unfold chaosIoTornCountSample
  split
  · omega
  split
  · omega
  · have inside := Nat.mod_lt sample.toNat (by omega : 0 < requested - 1)
    omega

theorem torn_count_pos {requested : Nat} (some : 0 < requested) (sample : UInt32) :
    0 < chaosIoTornCountSample requested sample := by
  unfold chaosIoTornCountSample
  split
  · omega
  split <;> omega

theorem torn_count_lt {requested : Nat} (two : 2 ≤ requested) (sample : UInt32) :
    chaosIoTornCountSample requested sample < requested := by
  unfold chaosIoTornCountSample
  rw [if_neg (by omega), if_neg (by omega)]
  have inside := Nat.mod_lt sample.toNat (by omega : 0 < requested - 1)
  omega

variable {memory : Memory} {input : List UInt8} {request issued : WriteRequest}

/-- A call that writes the first bytes of another one to the same place, and writes
some where the other one does. -/
structure Shortened (memory : Memory) (input : List UInt8) (request issued : WriteRequest) :
    Prop where
  offset : issued.offset = request.offset
  bytes : issued.bytes memory input =
    (request.bytes memory input).take (issued.bytes memory input).length
  some : request.bytes memory input ≠ [] → issued.bytes memory input ≠ []

theorem Shortened.refl (memory : Memory) (input : List UInt8) (request : WriteRequest) :
    Shortened memory input request request where
  offset := rfl
  bytes := List.take_length.symm
  some := id

theorem shortened_of_take {count : Nat} (offset : issued.offset = request.offset)
    (bytes : issued.bytes memory input = (request.bytes memory input).take count)
    (positive : request.bytes memory input ≠ [] → 0 < count) :
    Shortened memory input request issued where
  offset := offset
  bytes := by
    rw [bytes, List.length_take, ← List.take_eq_take_min]
  some := by
    intro asked
    rw [bytes, Ne, List.take_eq_nil_iff, not_or]
    exact ⟨Nat.ne_of_gt (positive asked), asked⟩

/-- The calls that can be torn: vectors, and calls for two bytes at least, all of them
there. -/
def Tearable (input : List UInt8) : WriteRequest → Prop
  | .write _ count | .pwrite _ count _ => 2 ≤ count
  | .writev _ | .pwritev _ _ => True
  | .sendfile inOffset count | .copyFileRange inOffset _ count =>
      2 ≤ count ∧ inOffset + count ≤ input.length

theorem take_contents_torn (buffer count : Nat) (sample : UInt32) :
    contents memory buffer (chaosIoTornCountSample count sample) =
      (contents memory buffer count).take (chaosIoTornCountSample count sample) :=
  (take_contents (torn_count_le count sample)).symm

theorem take_input_torn (inOffset count : Nat) (sample : UInt32) :
    (input.drop inOffset).take (chaosIoTornCountSample count sample) =
      ((input.drop inOffset).take count).take (chaosIoTornCountSample count sample) := by
  rw [List.take_take, Nat.min_eq_left (torn_count_le count sample)]

/-- What a torn vector holds. -/
theorem bytes_of_torn {entries torn : List Iovec} {count : Nat}
    (tornAt : TornAt entries torn count) :
    (cells torn).map memory = ((cells entries).map memory).take count := by
  rw [tornAt.bytes, List.map_take]

theorem torn_of_tear {reader : VectorReader} {iov : Option (List Iovec)} {sample : UInt32}
    {torn : List Iovec} (tear : chaosIoTearIovecs reader iov sample = some torn) :
    TornAt (iov.getD []) torn (chaosIoTornCountSample (totalBytes (iov.getD [])) sample) := by
  cases iov with
  | none => cases tear
  | some entries => exact torn_of_reported tear

/-- A torn call writes the first bytes, and at least one. -/
theorem shortened_of_tear (tear : tearOf moment request = some issued) :
    Shortened memory input request issued := by
  have count_pos : ∀ {bytes : List UInt8} {count : Nat}, bytes.length ≤ count →
      bytes ≠ [] → 0 < chaosIoTornCountSample count moment.cut := by
    intro bytes count held asked
    have length := List.length_pos_iff.mpr asked
    exact torn_count_pos (by omega) _
  cases request with
  | write buffer count =>
      cases tear
      exact shortened_of_take rfl (take_contents_torn buffer count _)
        (count_pos (length_contents memory buffer count).le)
  | pwrite buffer count offset =>
      cases tear
      exact shortened_of_take rfl (take_contents_torn buffer count _)
        (count_pos (length_contents memory buffer count).le)
  | writev iov =>
      rcases Option.map_eq_some_iff.mp tear with ⟨torn, reported, rfl⟩
      have tornAt := torn_of_tear reported
      exact shortened_of_take rfl (bytes_of_torn tornAt) fun _ => tornAt.least
  | pwritev iov offset =>
      rcases Option.map_eq_some_iff.mp tear with ⟨torn, reported, rfl⟩
      have tornAt := torn_of_tear reported
      exact shortened_of_take rfl (bytes_of_torn tornAt) fun _ => tornAt.least
  | sendfile inOffset count =>
      cases tear
      exact shortened_of_take rfl (take_input_torn inOffset count _)
        (count_pos (List.length_take_le _ _))
  | copyFileRange inOffset outOffset count =>
      cases tear
      exact shortened_of_take rfl (take_input_torn inOffset count _)
        (count_pos (List.length_take_le _ _))

/-- What can be torn is left with fewer bytes. -/
theorem fewer_of_tear (tearable : Tearable input request)
    (tear : tearOf moment request = some issued) :
    (issued.bytes memory input).length < (request.bytes memory input).length := by
  have vector : ∀ {iov : Option (List Iovec)} {torn : List Iovec},
      chaosIoTearIovecs moment.reader iov moment.cut = some torn →
        ((cells torn).map memory).length < ((cells (iov.getD [])).map memory).length := by
    intro iov torn reported
    have tornAt := torn_of_tear reported
    rw [List.length_map, List.length_map, length_cells, length_cells, tornAt.fewer.1]
    exact tornAt.fewer.2
  have transfer : ∀ {inOffset count : Nat}, 2 ≤ count ∧ inOffset + count ≤ input.length →
      ((input.drop inOffset).take (chaosIoTornCountSample count moment.cut)).length <
        ((input.drop inOffset).take count).length := by
    intro inOffset count held
    have fewer := torn_count_lt held.1 moment.cut
    rw [List.length_take, List.length_take, List.length_drop]
    omega
  cases request with
  | write buffer count =>
      cases tear
      rw [WriteRequest.bytes, WriteRequest.bytes, length_contents, length_contents]
      exact torn_count_lt tearable _
  | pwrite buffer count offset =>
      cases tear
      rw [WriteRequest.bytes, WriteRequest.bytes, length_contents, length_contents]
      exact torn_count_lt tearable _
  | writev iov =>
      rcases Option.map_eq_some_iff.mp tear with ⟨torn, reported, rfl⟩
      exact vector reported
  | pwritev iov offset =>
      rcases Option.map_eq_some_iff.mp tear with ⟨torn, reported, rfl⟩
      exact vector reported
  | sendfile inOffset count =>
      cases tear
      exact transfer tearable
  | copyFileRange inOffset outOffset count =>
      cases tear
      exact transfer tearable

/-! ## What is left to the kernel -/

theorem writeWrapper_result {matched : Option ChaosIoRule} {torn : Option WriteRequest}
    (result : (writeWrapper matched moment slots request torn).result = .ok issued) :
    issued = request ∨ torn = some issued := by
  unfold writeWrapper at result
  cases matched with
  | none => exact Or.inl (Except.ok.inj result).symm
  | some rule =>
      dsimp only at result
      split at result
      · exact Or.inl (Except.ok.inj result).symm
      split at result
      · cases result
      split at result
      · split at result
        · exact Or.inl (Except.ok.inj result).symm
        · split at result
          · exact Or.inr (congrArg some (Except.ok.inj result))
          · exact Or.inl (Except.ok.inj result).symm
      · exact Or.inl (Except.ok.inj result).symm

/-- A wrapper leaves the kernel the first bytes of its call. -/
theorem shortened_of_writeCall {matched : Option ChaosIoRule}
    (result : (writeCall matched moment slots request).result = .ok issued) :
    Shortened memory input request issued := by
  rw [writeCall_eq] at result
  rcases writeWrapper_result result with rfl | tear
  · exact Shortened.refl memory input issued
  · exact shortened_of_tear tear

/-- A TORN rule tears a call and counts it, or does neither. -/
theorem torn_or_whole (moment : Moment) (slots : Slots) (request : WriteRequest)
    (effect : rule.effect = .torn) :
    (writeCall (some rule) moment slots request).slots = slots ∧
        (writeCall (some rule) moment slots request).result = .ok request ∨
      ∃ issued, tearOf moment request = some issued ∧
        (writeCall (some rule) moment slots request).result = .ok issued ∧
        chaosIoRuleShouldTrigger rule moment slots =
          some (writeCall (some rule) moment slots request).slots := by
  rw [writeCall_eq]
  unfold writeWrapper
  have noLatency : ¬ rule.effect = .latency := by rw [effect]; decide
  have noErrno : rule.effect ≠ .errno := by rw [effect]; decide
  dsimp only
  rw [if_neg noLatency, chaosIoRuleApplyErrno, if_pos noErrno]
  dsimp only
  rw [if_pos effect]
  cases tear : tearOf moment request with
  | none => exact Or.inl ⟨rfl, rfl⟩
  | some torn =>
      dsimp only
      split
      · next after fires => exact Or.inr ⟨torn, rfl, rfl, fires⟩
      · exact Or.inl ⟨rfl, rfl⟩

/-! ## What is corrupted -/

/-- What CORRUPT makes of the memory behind a call that read `count` bytes. -/
def corrupted (moment : Moment) (arrived : Memory) (count : Nat) : ReadRequest → Memory
  | .read buffer _ | .pread buffer _ _ =>
      chaosIoCorruptBufferSample arrived buffer count moment.index moment.bit
  | .readv iov | .preadv iov _ =>
      chaosIoCorruptIovecs arrived iov count moment.index moment.bit

theorem readCall_eq (rule : Option ChaosIoRule) (moment : Moment) (slots : Slots)
    (arrived : Memory) (rc : Int) (request : ReadRequest) :
    readCall rule moment slots arrived rc request =
      readWrapper rule moment slots arrived rc (corrupted moment arrived rc.toNat request) := by
  cases request <;> rfl

theorem readCall_none (moment : Moment) (slots : Slots) (arrived : Memory) (rc : Int)
    (request : ReadRequest) :
    readCall none moment slots arrived rc request = ⟨0, slots, .ok (arrived, rc)⟩ := by
  rw [readCall_eq]
  rfl

theorem bitErrors_flipAt {addresses : List Nat} (distinct : addresses.Nodup)
    {place address : Nat} (here : addresses[place]? = some address) (bitSample : UInt32) :
    bitErrors (addresses.map (flipAt memory bitSample address)) (addresses.map memory) = 1 := by
  refine bitErrors_map_eq_one distinct here (fun other apart => ?_)
    (byteErrors_eq_one (Nat.mod_lt bitSample.toNat (by decide)) fun bit => ?_)
  · exact Function.update_of_ne apart _ _
  · rw [flipAt, Function.update_self, testBit_flipBit]

/-- CORRUPT flips one bit of the bytes that a call has read. -/
theorem bitErrors_corrupted (moment : Moment) (arrived : Memory) {request : ReadRequest}
    (distinct : request.cells.Nodup) (mapped : 0 ∉ request.cells) {count : Nat}
    (positive : 0 < count) (held : count ≤ request.cells.length) :
    bitErrors ((request.cells.take count).map (corrupted moment arrived count request))
      ((request.cells.take count).map arrived) = 1 := by
  have within : moment.index.toNat % count < count := Nat.mod_lt _ positive
  have flat : ∀ buffer asked, (range buffer asked).Nodup → 0 ∉ range buffer asked →
      count ≤ (range buffer asked).length →
      bitErrors (((range buffer asked).take count).map
          (chaosIoCorruptBufferSample arrived buffer count moment.index moment.bit))
        (((range buffer asked).take count).map arrived) = 1 := by
    intro buffer asked distinct mapped held
    rw [List.length_range'] at held
    have base : buffer ≠ 0 := by
      rintro rfl
      exact mapped (List.mem_range'_1.mpr ⟨Nat.le_refl 0, by omega⟩)
    rw [chaosIoCorruptBufferSample, corruptBufferSample, if_neg (by omega)]
    have there : ((range buffer asked).take count)[moment.index.toNat % count]? =
        some (buffer + moment.index.toNat % count) := by
      rw [List.getElem?_take_of_lt within, List.getElem?_range' (by omega), Nat.one_mul]
    exact bitErrors_flipAt (distinct.sublist (List.take_sublist _ _)) there moment.bit
  have vector : ∀ iov : Option (List Iovec), (cells (iov.getD [])).Nodup →
      0 ∉ cells (iov.getD []) → count ≤ (cells (iov.getD [])).length →
      bitErrors (((cells (iov.getD [])).take count).map
          (chaosIoCorruptIovecs arrived iov count moment.index moment.bit))
        (((cells (iov.getD [])).take count).map arrived) = 1 := by
    intro iov distinct mapped held
    cases iov with
    | none =>
        rw [Option.getD_none, cells_nil] at held
        exact absurd positive (by simpa using held)
    | some entries =>
        rw [Option.getD_some] at distinct mapped held ⊢
        have filled : Filled entries count :=
          ⟨by rwa [length_cells] at held, fun member => mapped (List.mem_of_mem_take member)⟩
        have inside : ∃ address,
            ((cells entries).take count)[moment.index.toNat % count]? = some address :=
          ⟨_, List.getElem?_eq_getElem (by rw [List.length_take]; omega)⟩
        rcases inside with ⟨address, here⟩
        rw [chaosIoCorruptIovecs, corruptIovecs_eq arrived _ _ filled, here, Option.elim_some]
        exact bitErrors_flipAt (distinct.sublist (List.take_sublist _ _)) here _
  cases request with
  | read buffer asked => exact flat buffer asked distinct mapped held
  | pread buffer asked offset => exact flat buffer asked distinct mapped held
  | readv iov => exact vector iov distinct mapped held
  | preadv iov offset => exact vector iov distinct mapped held

/-- A CORRUPT rule corrupts what a call has read and counts it, or does neither. -/
theorem corrupted_or_intact (moment : Moment) (slots : Slots) (arrived : Memory) (rc : Int)
    (request : ReadRequest) (effect : rule.effect = .corrupt) :
    (readCall (some rule) moment slots arrived rc request).slots = slots ∧
        (readCall (some rule) moment slots arrived rc request).result = .ok (arrived, rc) ∨
      0 < rc ∧
        (readCall (some rule) moment slots arrived rc request).result =
          .ok (corrupted moment arrived rc.toNat request, rc) ∧
        chaosIoRuleShouldTrigger rule moment slots =
          some (readCall (some rule) moment slots arrived rc request).slots := by
  rw [readCall_eq, readWrapper]
  have noLatency : ¬ rule.effect = .latency := by rw [effect]; decide
  have noErrno : rule.effect ≠ .errno := by rw [effect]; decide
  rw [if_neg noLatency, chaosIoRuleApplyErrno, if_pos noErrno]
  dsimp only
  split
  · next arrives =>
      split
      · next after fires => exact Or.inr ⟨arrives.1, rfl, fires⟩
      · exact Or.inl ⟨rfl, rfl⟩
  · exact Or.inl ⟨rfl, rfl⟩

end ChaosLibs.Io.TransferWrappers
