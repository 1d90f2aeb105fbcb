import ChaosLibs.Io.TransferWrappers
import ChaosLibs.Machine.LabelledRun

/-!
# Loops around the calls that move bytes

A program that hands on its data piece by piece, each time behind what the call before
said it has written, and one that reads a file so.  The calls may be any of the wrapped
ones, under any rules; between them other threads and reloads change the slots.
-/

namespace ChaosLibs.Io.TransferLoops

open ChaosLibs.Common.CString
open ChaosLibs.Common.HitSlots
open ChaosLibs.Common.RulePolicy
open ChaosLibs.Common.ScatterLists
open ChaosLibs.Io.Rule
open ChaosLibs.Io.TransferWrappers
open ChaosLibs.Machine
open ChaosLibs.Machine.BitErrors
open ChaosLibs.Machine.ByteMemory

/-! ## Writing -/

/-- What a program writes: its data, and where in the file it is to stand. -/
structure Job where
  memory : Memory
  /-- The file that `sendfile` and `copy_file_range` read. -/
  input : List UInt8
  data : List UInt8
  start : Nat

/-- The output file, its descriptor's offset, and how far the program has come. -/
structure WriteState where
  file : Memory
  offset : Nat
  slots : Slots
  done : Nat
  calls : Nat
  failures : Nat
  /-- The calls that the wrapper has shortened. -/
  short : Nat

/-- A program that starts. -/
def WriteState.before (file : Memory) (offset : Nat) (slots : Slots) : WriteState :=
  ⟨file, offset, slots, 0, 0, 0, 0⟩

/-- A call, the rule that it matches, and what the kernel answers: how many bytes it took,
or an error. -/
structure WriteCall where
  rule : Option ChaosIoRule
  moment : Moment
  request : WriteRequest
  answer : Option Nat

inductive WriteLabel where
  | call (call : WriteCall)
  /-- Other threads count hits, or the rules are loaded anew. -/
  | others (slots : Slots)

/-- A program asks for some of what is left of its data, at the place where that belongs. -/
def Resumes (job : Job) (state : WriteState) (request : WriteRequest) : Prop :=
  request.bytes job.memory job.input ≠ [] ∧
    (job.data.drop state.done).take (request.bytes job.memory job.input).length =
      request.bytes job.memory job.input ∧
    request.offset.getD state.offset = job.start + state.done

instance (job : Job) (state : WriteState) (request : WriteRequest) :
    Decidable (Resumes job state request) :=
  inferInstanceAs (Decidable (_ ∧ _ ∧ _))

/-- A call that returned -1. -/
def WriteState.failed (state : WriteState) (slots : Slots) : WriteState :=
  { state with slots := slots, calls := state.calls + 1, failures := state.failures + 1 }

/-- A call of which the kernel took `count` bytes. -/
def WriteState.moved (job : Job) (state : WriteState) (slots : Slots)
    (issued : WriteRequest) (count : Nat) : WriteState :=
  { state with
    file := store state.file (issued.offset.getD state.offset)
      ((issued.bytes job.memory job.input).take count)
    offset := if issued.offset.isSome then state.offset else state.offset + count
    slots := slots
    done := state.done + count
    calls := state.calls + 1 }

/-- Whether the kernel was asked for less than the program asked for. -/
def isShort (job : Job) (request issued : WriteRequest) : Bool :=
  (issued.bytes job.memory job.input).length < (request.bytes job.memory job.input).length

/-- The kernel takes some of what it is asked to write, where that is anything, or says
that it failed. -/
def kernelStep (job : Job) (state : WriteState) (slots : Slots) (issued : WriteRequest) :
    Option Nat → Option WriteState
  | none => some (state.failed slots)
  | some count =>
      if (issued.bytes job.memory job.input ≠ [] → 0 < count) ∧
          count ≤ (issued.bytes job.memory job.input).length then
        some (state.moved job slots issued count)
      else none

/-- One step of the loop; `none` is what neither the program nor the kernel does. -/
def writeStep (job : Job) (state : WriteState) : WriteLabel → Option WriteState
  | .others slots => some { state with slots := slots }
  | .call call =>
      if Resumes job state call.request then
        match (writeCall call.rule call.moment state.slots call.request).result with
        | .error _ =>
            some (state.failed
              (writeCall call.rule call.moment state.slots call.request).slots)
        | .ok issued =>
            kernelStep job
              { state with short := state.short + (isShort job call.request issued).toNat }
              (writeCall call.rule call.moment state.slots call.request).slots issued
              call.answer
      else none

variable {job : Job} {state next final : WriteState} {file : Memory}

/-- The file holds what the program was told that it holds, and nothing else has changed. -/
structure Written (job : Job) (file : Memory) (state : WriteState) : Prop where
  file : state.file = store file job.start (job.data.take state.done)
  done : state.done ≤ job.data.length
  calls : state.calls ≤ state.failures + state.done

theorem store_nil (memory : Memory) (start : Nat) : store memory start [] = memory := by
  funext address
  unfold store
  split <;> rfl

theorem written_before (job : Job) (file : Memory) (offset : Nat) (slots : Slots) :
    Written job file (.before file offset slots) where
  file := (store_nil file job.start).symm
  done := Nat.zero_le _
  calls := Nat.le_refl _

theorem Written.failed (written : Written job file state) (slots : Slots) :
    Written job file (state.failed slots) where
  file := written.file
  done := written.done
  calls := by
    have calls := written.calls
    dsimp only [WriteState.failed]
    omega

/-- What the kernel takes goes behind what the file holds. -/
theorem Written.moved (written : Written job file state) {request issued : WriteRequest}
    (resumes : Resumes job state request)
    (shortened : Shortened job.memory job.input request issued)
    (slots : Slots) {count : Nat} (positive : 0 < count)
    (held : count ≤ (issued.bytes job.memory job.input).length) :
    Written job file (state.moved job slots issued count) := by
  rcases resumes with ⟨-, asked, place⟩
  have within : (issued.bytes job.memory job.input).length ≤
      (request.bytes job.memory job.input).length := by
    rw [shortened.bytes]
    exact List.length_take_le' _ _
  have rest : (request.bytes job.memory job.input).length ≤
      (job.data.drop state.done).length := by
    rw [← asked]
    exact List.length_take_le' _ _
  have taken : (issued.bytes job.memory job.input).take count =
      (job.data.drop state.done).take count := by
    rw [shortened.bytes, ← asked, List.take_take, List.take_take]
    congr 1
    omega
  have placed : issued.offset.getD state.offset = job.start + state.done := by
    rw [shortened.offset, place]
  rw [List.length_drop] at rest
  have done := written.done
  have calls := written.calls
  refine ⟨?_, ?_, ?_⟩
  · dsimp only [WriteState.moved]
    have length : (job.data.take state.done).length = state.done := by
      rw [List.length_take, Nat.min_eq_left done]
    rw [placed, taken, written.file, List.take_add, ← store_append, length]
  · dsimp only [WriteState.moved]
    omega
  · dsimp only [WriteState.moved]
    omega

theorem Written.kernelStep (written : Written job file state)
    {request issued : WriteRequest} (resumes : Resumes job state request)
    (shortened : Shortened job.memory job.input request issued) {slots : Slots}
    {answer : Option Nat}
    (stepped : TransferLoops.kernelStep job state slots issued answer = some next) :
    Written job file next := by
  cases answer with
  | none => exact Option.some.inj stepped ▸ written.failed slots
  | some count =>
      dsimp only [TransferLoops.kernelStep] at stepped
      split at stepped
      · next taken =>
          exact Option.some.inj stepped ▸ written.moved resumes shortened slots
            (taken.1 (shortened.some resumes.1)) taken.2
      · cases stepped

theorem written_step {label : WriteLabel} (written : Written job file state)
    (stepped : writeStep job state label = some next) : Written job file next := by
  cases label with
  | others slots =>
      exact Option.some.inj stepped ▸ ⟨written.file, written.done, written.calls⟩
  | call call =>
      dsimp only [writeStep] at stepped
      split at stepped
      · next resumes =>
          split at stepped
          · exact Option.some.inj stepped ▸ written.failed _
          · next issued result =>
              have counted : Written job file
                  { state with
                    short := state.short + (isShort job call.request issued).toNat } :=
                ⟨written.file, written.done, written.calls⟩
              exact counted.kernelStep resumes (shortened_of_writeCall result) stepped
      · cases stepped

/--
Whatever rules fire, a program that resumes behind what its calls return puts down its
data once and in order, and touches nothing else; only a call that fails gets it nowhere.
-/
theorem write_loop_exact {offset : Nat} {slots : Slots} {labels : List WriteLabel}
    (ran : run (writeStep job) (.before file offset slots) labels = some final) :
    final.file = store file job.start (job.data.take final.done) ∧
      final.done ≤ job.data.length ∧ final.calls ≤ final.failures + final.done := by
  have written : Written job file final :=
    @invariant_of_run _ _ (writeStep job) (fun _ => True) (Written job file)
      (fun _ _ _ _ written stepped => written_step written stepped)
      _ _ _ (fun _ _ => trivial) (written_before job file offset slots) ran
  exact ⟨written.file, written.done, written.calls⟩

/-! Five bytes go out in four calls: a `write` that is torn and of which the kernel takes
less still, one that fails, a torn `writev`, and the rest. -/

/-- A rule for every file that always fires. -/
def rootRule (operation : ChaosIoOperation) (effect : ChaosIoEffect) : ChaosIoRule where
  pathPrefix := bytes "/"
  pathLen := 1
  resolvedPrefix := none
  resolvedLen := 0
  operation := operation
  effect := effect
  errnum := 5
  probability := ⟨1, 1⟩
  latencyMs := 0
  policy := {}
  callSize := chaosPolicyNoSize
  hit := some 0
  hitGeneration := 0

/-- A moment with these draws. -/
def momentOf (cut index bit : UInt32) : Moment :=
  ⟨0, 0, cut, index, bit, ⟨some, fun _ _ read => (Option.some.inj read).symm⟩⟩

def fiveBytes : Job where
  memory address := UInt8.ofNat address
  input := []
  data := [100, 101, 102, 103, 104]
  start := 7

def fourCalls : List WriteLabel :=
  [.call ⟨some (rootRule .write .torn), momentOf 2 0 0, .write 100 5, some 1⟩,
    .call ⟨some (rootRule .write .torn), momentOf 0 0 0, .write 101 4, none⟩,
    .call ⟨some (rootRule .write .torn), momentOf 1 0 0,
      .writev (some [⟨101, 1⟩, ⟨102, 3⟩]), some 2⟩,
    .call ⟨none, momentOf 0 0 0, .write 103 2, some 2⟩]

def zeroSlots : Slots := fun _ => HitSlot.zero

/-- The state they start in, at the seventh byte of an empty file. -/
def freshWriter : WriteState := .before (fun _ => 0) 7 zeroSlots

theorem fourCalls_end :
    (run (writeStep fiveBytes) freshWriter fourCalls).map
      (fun final => (final.done, final.calls, final.failures, final.short)) =
      some (5, 4, 1, 3) := by
  rfl

theorem write_loop_exact_five :
    ∃ final, run (writeStep fiveBytes) freshWriter fourCalls = some final ∧
      final.file = store (fun _ => 0) 7 fiveBytes.data ∧ final.calls = final.failures + 3 := by
  rcases Option.map_eq_some_iff.mp fourCalls_end with ⟨final, ran, ends⟩
  rw [Prod.mk.injEq, Prod.mk.injEq, Prod.mk.injEq] at ends
  rcases ends with ⟨done, calls, failures, -⟩
  have exact := (write_loop_exact ran).1
  rw [done] at exact
  exact ⟨final, ran, exact, by rw [calls, failures]⟩

/-! ## The hits of TORN -/

/-- The calls of a program under a TORN rule that counts in a slot, each of them one that
can be torn; what happens besides leaves the slot alone. -/
def UnderTorn (job : Job) (slot : SlotId chaosIoMaxRules) (state : WriteState) :
    WriteLabel → Prop
  | .others slots => slots slot = state.slots slot
  | .call call =>
      Tearable job.input call.request ∧
        ∀ rule, call.rule = some rule → rule.effect = .torn ∧ rule.hit = some slot

/-- As many hits as calls that were shortened. -/
def HitsShort (slot : SlotId chaosIoMaxRules) (first : Nat) (state : WriteState) : Prop :=
  (state.slots slot).count = (first + state.short) % 2 ^ 64

theorem slots_of_kernelStep {slots : Slots} {issued : WriteRequest} {answer : Option Nat}
    (stepped : kernelStep job state slots issued answer = some next) :
    next.slots = slots ∧ next.short = state.short := by
  cases answer with
  | none => exact Option.some.inj stepped ▸ ⟨rfl, rfl⟩
  | some count =>
      dsimp only [kernelStep] at stepped
      split at stepped
      · exact Option.some.inj stepped ▸ ⟨rfl, rfl⟩
      · cases stepped

theorem isShort_self (job : Job) (request : WriteRequest) : isShort job request request = false :=
  decide_eq_false (Nat.lt_irrefl _)

theorem hitsShort_step {slot : SlotId chaosIoMaxRules} {first : Nat} {label : WriteLabel}
    (hits : HitsShort slot first state) (under : UnderTorn job slot state label)
    (stepped : writeStep job state label = some next) : HitsShort slot first next := by
  cases label with
  | others slots =>
      cases stepped
      exact (congrArg HitSlot.count under).trans hits
  | call call =>
      rcases call with ⟨matched, moment, request, answer⟩
      rcases under with ⟨tearable, torn⟩
      dsimp only [writeStep] at stepped
      split at stepped
      swap
      · cases stepped
      cases matched with
      | none =>
          rw [writeCall_none] at stepped
          rcases slots_of_kernelStep stepped with ⟨slots, short⟩
          rw [HitsShort, slots, short, isShort_self]
          exact hits
      | some rule =>
          rcases torn rule rfl with ⟨effect, own⟩
          rcases torn_or_whole moment state.slots request effect with
            ⟨same, result⟩ | ⟨issued, tear, result, fires⟩
          · rw [result] at stepped
            rcases slots_of_kernelStep stepped with ⟨slots, short⟩
            rw [HitsShort, slots, short, same, isShort_self]
            exact hits
          · rw [result] at stepped
            rcases slots_of_kernelStep stepped with ⟨slots, short⟩
            have fewer : isShort job request issued = true :=
              decide_eq_true (fewer_of_tear tearable tear)
            rw [HitsShort, slots, short, fewer, count_of_trigger fires own, hits,
              Nat.mod_add_mod, Nat.add_assoc]
            rfl

/-- A program's memory, its descriptor's offset, and what it has read so far. -/
structure ReadState where
  memory : Memory
  offset : Nat
  slots : Slots
  got : List UInt8

/-- A call, the rule that it matches, and what the kernel answers. -/
structure ReadCall where
  rule : Option ChaosIoRule
  moment : Moment
  request : ReadRequest
  answer : Option Nat

inductive ReadLabel where
  | call (call : ReadCall)
  | others (slots : Slots)

/-- A program reads on where it has come to, into buffers that lie apart. -/
def ReadsOn (start : Nat) (state : ReadState) (request : ReadRequest) : Prop :=
  request.cells.Nodup ∧ 0 ∉ request.cells ∧
    request.offset.getD state.offset = start + state.got.length

instance (start : Nat) (state : ReadState) (request : ReadRequest) :
    Decidable (ReadsOn start state request) :=
  inferInstanceAs (Decidable (_ ∧ _ ∧ _))

/-- What a real call of `count` bytes leaves in memory. -/
def arrive (input : List UInt8) (state : ReadState) (request : ReadRequest) (count : Nat) :
    Memory :=
  storeCells state.memory (request.cells.take count)
    ((input.drop (request.offset.getD state.offset)).take count)

/-- What the program makes of a call: it takes over the bytes that it was told of. -/
def ReadState.after (state : ReadState) (request : ReadRequest)
    (outcome : Outcome (Memory × Int)) : ReadState :=
  match outcome.result with
  | .error _ => { state with slots := outcome.slots }
  | .ok (memory, rc) =>
      { memory := memory
        offset := if request.offset.isSome then state.offset else state.offset + rc.toNat
        slots := outcome.slots
        got := state.got ++ (request.cells.take rc.toNat).map memory }

/-- The kernel fills no more than the buffers hold, and no more than the file has. -/
def readStep (input : List UInt8) (start : Nat) (state : ReadState) :
    ReadLabel → Option ReadState
  | .others slots => some { state with slots := slots }
  | .call call =>
      if ReadsOn start state call.request then
        match call.answer with
        | none =>
            some (state.after call.request
              (readCall call.rule call.moment state.slots state.memory (-1) call.request))
        | some count =>
            if count ≤ call.request.cells.length ∧
                call.request.offset.getD state.offset + count ≤ input.length then
              some (state.after call.request
                (readCall call.rule call.moment state.slots
                  (arrive input state call.request count) count call.request))
            else none
      else none

/-- The calls of a program under a CORRUPT rule that counts in a slot. -/
def UnderCorrupt (slot : SlotId chaosIoMaxRules) (state : ReadState) : ReadLabel → Prop
  | .others slots => slots slot = state.slots slot
  | .call call =>
      ∀ rule, call.rule = some rule → rule.effect = .corrupt ∧ rule.hit = some slot

/-- What was read is what the file holds, but for one bit for each hit. -/
structure ReadBack (input : List UInt8) (start : Nat) (slot : SlotId chaosIoMaxRules)
    (first : Nat) (state : ReadState) : Prop where
  within : state.got.length ≤ (input.drop start).length
  count : (state.slots slot).count =
    (first + bitErrors state.got ((input.drop start).take state.got.length)) % 2 ^ 64

variable {input : List UInt8} {start : Nat} {slot : SlotId chaosIoMaxRules} {first : Nat}
  {reader after : ReadState}

/-- What a real call has put into the buffers. -/
theorem map_arrive {request : ReadRequest} {count : Nat} (distinct : request.cells.Nodup)
    (held : count ≤ request.cells.length)
    (there : request.offset.getD reader.offset + count ≤ input.length) :
    (request.cells.take count).map (arrive input reader request count) =
      (input.drop (request.offset.getD reader.offset)).take count := by
  refine map_storeCells _ (distinct.sublist (List.take_sublist _ _)) ?_
  rw [List.length_take, List.length_take, List.length_drop]
  omega

/-- Behind what was read stand the bytes of one more call. -/
theorem bitErrors_further {request : ReadRequest} {count : Nat}
    (within : reader.got.length ≤ (input.drop start).length)
    (reads : ReadsOn start reader request) (held : count ≤ request.cells.length)
    (there : request.offset.getD reader.offset + count ≤ input.length) (memory : Memory) :
    bitErrors (reader.got ++ (request.cells.take count).map memory)
        ((input.drop start).take
          (reader.got ++ (request.cells.take count).map memory).length) =
      bitErrors reader.got ((input.drop start).take reader.got.length) +
        bitErrors ((request.cells.take count).map memory)
          ((request.cells.take count).map (arrive input reader request count)) := by
  rcases reads with ⟨distinct, -, place⟩
  have length : ((request.cells.take count).map memory).length = count := by
    rw [List.length_map, List.length_take, Nat.min_eq_left held]
  rw [List.length_append, length, List.take_add, map_arrive distinct held there, place,
    List.drop_drop, bitErrors_append]
  rw [List.length_take, Nat.min_eq_left within]

/-- A call that puts other bytes into the buffers than the file has. -/
theorem ReadBack.further (back : ReadBack input start slot first reader)
    {request : ReadRequest} {count : Nat} (reads : ReadsOn start reader request)
    (held : count ≤ request.cells.length)
    (there : request.offset.getD reader.offset + count ≤ input.length)
    {memory : Memory} {slots : Slots} {flips : Nat}
    (errors : bitErrors ((request.cells.take count).map memory)
      ((request.cells.take count).map (arrive input reader request count)) = flips)
    (counted : (slots slot).count = ((reader.slots slot).count + flips) % 2 ^ 64) :
    ReadBack input start slot first
      (reader.after request ⟨0, slots, .ok (memory, count)⟩) where
  within := by
    have within := back.within
    have place := reads.2.2
    rw [List.length_drop] at within ⊢
    dsimp only [ReadState.after, Int.toNat_natCast]
    rw [List.length_append, List.length_map, List.length_take]
    omega
  count := by
    dsimp only [ReadState.after, Int.toNat_natCast]
    rw [bitErrors_further back.within reads held there, errors, counted, back.count,
      Nat.mod_add_mod, Nat.add_assoc]

/-- A call that fails reads nothing. -/
theorem ReadBack.failed (back : ReadBack input start slot first reader)
    (request : ReadRequest) :
    ReadBack input start slot first
      (reader.after request ⟨0, reader.slots, .ok (reader.memory, -1)⟩) := by
  have nothing : ((-1 : Int).toNat) = 0 := rfl
  constructor
  · dsimp only [ReadState.after]
    rw [nothing, List.take_zero, List.map_nil, List.append_nil]
    exact back.within
  · dsimp only [ReadState.after]
    rw [nothing, List.take_zero, List.map_nil, List.append_nil]
    exact back.count

theorem readBack_call {call : ReadCall} (back : ReadBack input start slot first reader)
    (under : UnderCorrupt slot reader (.call call))
    (stepped : readStep input start reader (.call call) = some after) :
    ReadBack input start slot first after := by
  rcases call with ⟨matched, moment, request, answer⟩
  have same : (reader.slots slot).count = ((reader.slots slot).count + 0) % 2 ^ 64 := by
    rw [back.count, Nat.add_zero, Nat.mod_mod]
  dsimp only [readStep] at stepped
  split at stepped
  swap
  · cases stepped
  next reads =>
    cases answer with
    | none =>
        cases stepped
        cases matched with
        | none => exact readCall_none _ _ _ _ request ▸ back.failed request
        | some rule =>
            rcases under rule rfl with ⟨effect, -⟩
            rcases corrupted_or_intact moment reader.slots reader.memory (-1) request effect with
              ⟨slots, result⟩ | ⟨negative, -⟩
            · have failed := back.failed request
              unfold ReadState.after at failed ⊢
              rw [result, slots]
              exact failed
            · omega
    | some count =>
        dsimp only at stepped
        split at stepped
        swap
        · cases stepped
        next fits =>
          cases stepped
          rcases fits with ⟨held, there⟩
          cases matched with
          | none =>
              rw [readCall_none]
              exact back.further reads held there (bitErrors_self _) same
          | some rule =>
              rcases under rule rfl with ⟨effect, own⟩
              rcases corrupted_or_intact moment reader.slots (arrive input reader request count)
                count request effect with ⟨slots, result⟩ | ⟨positive, result, fires⟩
              · have intact := back.further reads held there (bitErrors_self _) same
                unfold ReadState.after at intact ⊢
                rw [result, slots]
                exact intact
              · rw [Int.toNat_natCast] at result
                have flipped := back.further reads held there
                  (bitErrors_corrupted moment _ reads.1 reads.2.1
                    (Int.natCast_pos.mp positive) held) (count_of_trigger fires own)
                unfold ReadState.after at flipped ⊢
                rw [result]
                exact flipped

/-- A `read` and a `readv` that spreads over two buffers, both corrupted. -/
def twoReads : List ReadLabel :=
  [.call ⟨some (rootRule .read .corrupt), momentOf 0 1 3, .read 500 2, some 2⟩,
    .call ⟨some (rootRule .read .corrupt), momentOf 0 5 8,
      .readv (some [⟨600, 1⟩, ⟨700, 4⟩]), some 3⟩]

def fiveStored : List UInt8 := [100, 101, 102, 103, 104]

def freshReader : ReadState := ⟨fun _ => 0, 0, zeroSlots, []⟩

end ChaosLibs.Io.TransferLoops
