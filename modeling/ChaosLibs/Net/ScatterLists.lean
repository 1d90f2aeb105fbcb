import ChaosLibs.Io.ScatterLists
import ChaosLibs.Net.CallingProcess

/-!
# Limited and corrupted vectors of libchaos-net

TRICKLE hands the kernel a vector of the first bytes; CORRUPT flips a bit of what a `readv`
or a `recvmsg` delivered.  The results of libchaos-io and of libchaos-net on scatter lists
stand here side by side.
-/

namespace ChaosLibs.Net.ScatterLists

open ChaosLibs.Machine.ByteMemory
open ChaosLibs.Common.ScatterLists
open ChaosLibs.Io.ScatterLists
open ChaosLibs.Net.CallingProcess
open ChaosLibs.Net.Rule

/-- `chaos_net_limit_iovecs`. -/
def chaosNetLimitIovecs : List Iovec → Nat → List Iovec :=
  limitIovecs

/-- `chaos_net_corrupt_buffer_sample`. -/
def chaosNetCorruptBufferSample :
    Memory → Nat → Nat → UInt32 → UInt32 → Memory :=
  corruptBufferSample

/-- `chaos_net_corrupt_iovecs` with the samples it draws. -/
def chaosNetCorruptIovecs :
    Memory → Option (List Iovec) → Nat → UInt32 → UInt32 → Memory :=
  corruptIovecs

/-- The CORRUPT of `readv`, behind a real call that returned `rc`. -/
def chaosNetReadvCorrupt
    (memory : Memory) (iov : Option (List Iovec)) (rc : Int)
    (indexSample bitSample : UInt32) : Memory :=
  if 0 < rc then
    chaosNetCorruptIovecs memory iov rc.toNat indexSample bitSample
  else memory

/-- `chaos_net_received_bytes`; `discards` holds of a stream receive with
`MSG_TRUNC`. -/
def chaosNetReceivedBytes (discards : Bool) (rc : Int) (size : Nat) : Nat :=
  if rc ≤ 0 ∨ discards then 0
  else if rc.toNat < size then rc.toNat
  else size

/-- The scatter list of a message; its entries are counted by an `int`. -/
structure ScatterList where
  entries : List Iovec
  counted : entries.length < 2 ^ 31

/-- The array of a scatter list as the byte counts see it. -/
def ScatterList.message (list : ScatterList) : Msghdr where
  name := none
  vector :=
    { iov := some (list.entries.map Iovec.iovLen)
      count := list.entries.length
      counted := fun lengths same _ => by
        rw [← Option.some.inj same, List.length_map]
      fits := by
        have counted := list.counted
        omega }

/-- The bytes of a message that CORRUPT aims at. -/
def recvmsgFilled (list : ScatterList) (discards : Bool) (rc : Int) : Nat :=
  chaosNetReceivedBytes discards rc
    (if chaosNetMessageSize (some list.message) = chaosPolicyNoSize then 0
    else chaosNetMessageSize (some list.message))

/-- The CORRUPT of `recvmsg`, behind a real call that returned `rc`. -/
def chaosNetRecvmsgCorrupt
    (memory : Memory) (list : ScatterList) (discards : Bool) (rc : Int)
    (indexSample bitSample : UInt32) : Memory :=
  if 0 < recvmsgFilled list discards rc then
    chaosNetCorruptIovecs memory (some list.entries)
      (recvmsgFilled list discards rc) indexSample bitSample
  else memory

/-- The vectored receives with a CORRUPT effect. -/
inductive Receive where
  | ioReadv
  | ioPreadv
  | netReadv
  | netRecvmsg (discards : Bool)

/-- How many bytes a receive that returned `rc` transferred. -/
def Receive.size (receive : Receive) (list : ScatterList) (rc : Int) : Nat :=
  match receive with
  | .ioReadv | .ioPreadv | .netReadv => rc.toNat
  | .netRecvmsg discards => recvmsgFilled list discards rc

/-- The vectored CORRUPT of a receive. -/
def Receive.corrupt
    (receive : Receive) (memory : Memory) (list : ScatterList) (rc : Int)
    (indexSample bitSample : UInt32) : Memory :=
  match receive with
  | .ioReadv | .ioPreadv =>
      chaosIoReadvCorrupt memory (some list.entries) rc indexSample bitSample
  | .netReadv =>
      chaosNetReadvCorrupt memory (some list.entries) rc indexSample bitSample
  | .netRecvmsg discards =>
      chaosNetRecvmsgCorrupt memory list discards rc indexSample bitSample

/-- The flat CORRUPT of the same library. -/
def Receive.flat : Receive → Memory → Nat → Nat → UInt32 → UInt32 → Memory
  | .ioReadv | .ioPreadv => chaosIoCorruptBufferSample
  | .netReadv | .netRecvmsg _ => chaosNetCorruptBufferSample

/-- What the kernel promises of the count a receive returned: the bytes were
written to the buffers in order, and only `recvmsg` with `MSG_TRUNC` counts
more than they hold. -/
structure Delivered (receive : Receive) (list : ScatterList) (rc : Int) :
    Prop where
  mapped : 0 ∉ (cells list.entries).take rc.toNat
  held : (∃ discards, receive = .netRecvmsg discards) ∨
    rc.toNat ≤ totalBytes list.entries

/-! ## What is corrupted -/

theorem foldl_totalLength (lengths : List UInt64) (total : UInt64) :
    (lengths.foldl (fun sum length => sum + length) total).toNat =
      (total.toNat + (lengths.map UInt64.toNat).sum) % 2 ^ 64 := by
  induction lengths generalizing total with
  | nil =>
      rw [List.foldl_nil, List.map_nil, List.sum_nil, Nat.add_zero]
      exact (Nat.mod_eq_of_lt total.toNat_lt).symm
  | cons length rest induction =>
      rw [List.foldl_cons, induction, UInt64.toNat_add, List.map_cons,
        List.sum_cons, Nat.mod_add_mod, Nat.add_assoc]

/-- The size of a message is at most what its buffers hold. -/
theorem chaosNetMessageSize_le
    {list : ScatterList}
    (known : chaosNetMessageSize (some list.message) ≠ chaosPolicyNoSize) :
    chaosNetMessageSize (some list.message) ≤ totalBytes list.entries := by
  by_cases many : chaosNetIovMax < list.message.vector.count
  · rw [chaosNetMessageSize, if_pos many] at known
    exact absurd rfl known
  · rw [chaosNetMessageSize, if_neg many] at known ⊢
    have counted : ¬(list.message.vector.count < 0 ∨
        chaosNetIovMax < list.message.vector.count) := by
      rintro (negative | more)
      · exact absurd negative (Int.not_lt.mpr (Int.natCast_nonneg _))
      · exact many more
    show (if list.message.vector.count < 0 ∨
      chaosNetIovMax < list.message.vector.count then chaosPolicyNoSize
      else totalLength (list.entries.map Iovec.iovLen)) ≤ _
    rw [if_neg counted, totalLength, foldl_totalLength, List.map_map]
    exact Nat.le_trans (Nat.mod_le _ _) (Nat.le_of_eq (Nat.zero_add _))

theorem chaosNetReceivedBytes_le (discards : Bool) (rc : Int) (size : Nat) :
    chaosNetReceivedBytes discards rc size ≤ size ∧
      chaosNetReceivedBytes discards rc size ≤ rc.toNat := by
  unfold chaosNetReceivedBytes
  split
  · exact ⟨Nat.zero_le _, Nat.zero_le _⟩
  · split <;> omega

/-- CORRUPT of a message stays within its buffers and the returned count. -/
theorem recvmsgFilled_le (list : ScatterList) (discards : Bool) (rc : Int) :
    recvmsgFilled list discards rc ≤ totalBytes list.entries ∧
      recvmsgFilled list discards rc ≤ rc.toNat := by
  have capacity : (if chaosNetMessageSize (some list.message) =
        chaosPolicyNoSize then 0
      else chaosNetMessageSize (some list.message)) ≤
        totalBytes list.entries := by
    split
    · exact Nat.zero_le _
    · next known => exact chaosNetMessageSize_le known
  have received := chaosNetReceivedBytes_le discards rc
    (if chaosNetMessageSize (some list.message) = chaosPolicyNoSize then 0
    else chaosNetMessageSize (some list.message))
  exact ⟨Nat.le_trans received.1 capacity, received.2⟩

/-- A receive corrupts buffers that the kernel filled. -/
theorem filled_of_delivered
    {receive : Receive} {list : ScatterList} {rc : Int}
    (delivered : Delivered receive list rc) :
    Filled list.entries (receive.size list rc) := by
  have bounds : receive.size list rc ≤ totalBytes list.entries ∧
      receive.size list rc ≤ rc.toNat := by
    cases receive with
    | netRecvmsg discards => exact recvmsgFilled_le list discards rc
    | ioReadv | ioPreadv | netReadv =>
        rcases delivered.held with ⟨_, message⟩ | held
        · cases message
        · exact ⟨held, Nat.le_refl _⟩
  refine ⟨bounds.1, fun null => delivered.mapped ?_⟩
  exact List.take_subset_take_left _ bounds.2 null

/-- The wrapper asks for nothing where nothing was transferred. -/
theorem corrupt_eq
    (receive : Receive) (memory : Memory) (list : ScatterList) (rc : Int)
    (indexSample bitSample : UInt32) :
    receive.corrupt memory list rc indexSample bitSample =
      corruptIovecs memory (some list.entries) (receive.size list rc)
        indexSample bitSample := by
  have nothing : corruptIovecs memory (some list.entries) 0 indexSample
      bitSample = memory := if_pos (Or.inr rfl)
  cases receive with
  | ioReadv | ioPreadv | netReadv =>
      show (if 0 < rc then _ else memory) = _
      by_cases some : 0 < rc
      · rw [if_pos some]
        rfl
      · have zero : rc.toNat = 0 := by omega
        rw [if_neg some, Receive.size, zero, nothing]
  | netRecvmsg discards =>
      show (if 0 < recvmsgFilled list discards rc then _ else memory) = _
      by_cases some : 0 < recvmsgFilled list discards rc
      · rw [if_pos some]
        rfl
      · have zero : recvmsgFilled list discards rc = 0 := by omega
        rw [if_neg some, Receive.size, zero, nothing]

/-- A vectored receive corrupts what it delivered as the flat routine of its
library corrupts one buffer. -/
theorem corrupt_as_flat
    (receive : Receive) (memory : Memory) (list : ScatterList) (rc : Int)
    (indexSample bitSample : UInt32)
    (delivered : Delivered receive list rc) :
    FlatlyCorrupted receive.flat list.entries (receive.size list rc)
      indexSample bitSample memory
      (receive.corrupt memory list rc indexSample bitSample) := by
  have flat : receive.flat = corruptBufferSample := by
    cases receive <;> rfl
  rw [flat, corrupt_eq]
  exact corruptIovecs_flat memory indexSample bitSample
    (filled_of_delivered delivered)

/-- Two buffers around an empty one; a read of three bytes whose third byte,
the second of the last buffer, is hit. -/
theorem corrupt_as_flat_at_second_buffer :
    FlatlyCorrupted Receive.ioReadv.flat [⟨16, 1⟩, ⟨40, 0⟩, ⟨64, 4⟩] 3 5 9
      (fun _ => 0)
      (Receive.ioReadv.corrupt (fun _ => 0)
        ⟨[⟨16, 1⟩, ⟨40, 0⟩, ⟨64, 4⟩], by decide⟩ 3 5 9) :=
  corrupt_as_flat .ioReadv (fun _ => 0)
    ⟨[⟨16, 1⟩, ⟨40, 0⟩, ⟨64, 4⟩], by decide⟩ 3 5 9
    ⟨by decide, Or.inr (by decide)⟩

/-! ## What is passed on -/

/-- The vectors that TRICKLE and TORN hand to the kernel hold the first bytes
of the caller's; a tear that is reported passes on fewer than were asked for. -/
theorem limited_first_bytes
    (entries : List Iovec) (limit : Nat) (reader : VectorReader)
    (sample : UInt32) :
    cells ((chaosIoTrimIovecs (some entries) limit).getD []) =
        (cells entries).take (min limit (totalBytes entries)) ∧
      cells (chaosNetLimitIovecs entries limit) =
        (cells entries).take (min limit (totalBytes entries)) ∧
      totalBytes (chaosNetLimitIovecs entries limit) =
        min limit (totalBytes entries) ∧
      (∀ torn,
        chaosIoBuildTornIovecs (some entries) sample = some torn →
          TornAt entries torn
            (chaosIoTornCountSample (totalBytes entries) sample)) ∧
      ∀ torn,
        chaosIoTearIovecs reader (some entries) sample = some torn →
          TornAt entries torn
            (chaosIoTornCountSample (totalBytes entries) sample) := by
  have first : (cells entries).take (min limit (totalBytes entries)) =
      (cells entries).take limit := by
    rw [← length_cells, ← List.take_take, List.take_length]
  have limited := cells_limitIovecs entries limit
  rw [first]
  refine ⟨?_, limited, ?_, fun _ => torn_of_built, fun _ => torn_of_reported⟩
  · rw [getD_chaosIoTrimIovecs, limited]
  · rw [← length_cells, chaosNetLimitIovecs, limited, List.length_take,
      length_cells]

end ChaosLibs.Net.ScatterLists
