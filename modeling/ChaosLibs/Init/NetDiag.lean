import ChaosLibs.Init.NetAddress
import ChaosLibs.Machine.AlignedRecords
import ChaosLibs.Machine.ByteReads
import ChaosLibs.Machine.SignedCount

/-!
# Answers of sock_diag

`chaos_init_net_diag_parse` walks over the netlink messages of one `recv`.  Their lengths
come from outside and are subtracted, rounded up, from a signed count of what is left.
Whatever they are, the walk stays in what was received, ends, and finds the address of the
first message that is for the socket, if no end and no error stands before it.
-/

namespace ChaosLibs.Init.NetDiag

open ChaosLibs.Common.CString
open ChaosLibs.Common.HexText
open ChaosLibs.Init.NetAddress
open ChaosLibs.Machine
open ChaosLibs.Machine.AlignedRecords
open ChaosLibs.Machine.ByteMemory
open ChaosLibs.Machine.ByteReads
open ChaosLibs.Machine.SignedCount
open ChaosLibs.Net.CallingProcess

/-! ## The macros of the kernel headers -/

/-- `sizeof(struct nlmsghdr)`. -/
def nlmsghdrSize : Nat := 16

/-- `NLMSG_ERROR` and `NLMSG_DONE`. -/
def nlmsgError : Nat := 2
def nlmsgDone : Nat := 3

/-- `NLMSG_ALIGN`, with `NLMSG_ALIGNTO`, of a 32-bit length. -/
def nlmsgAlign (len : UInt32) : UInt32 :=
  (len + 4 - 1) &&& ~~~(4 - 1)

/-- `NLMSG_HDRLEN`. -/
def nlmsgHdrlen : Nat := (nlmsgAlign (UInt32.ofNat nlmsghdrSize)).toNat

/-- `NLMSG_LENGTH`. -/
def nlmsgLength (len : Nat) : Nat := len + nlmsgHdrlen

/-- `NLMSG_DATA`. -/
def nlmsgData (header : Nat) : Nat := header + nlmsgHdrlen

/-- An integer of some bytes. -/
def loadInteger (order : ByteOrder) (address size : Nat) : ByteProgram Nat := do
  let bytes ← loadBytes address size
  pure (order.load bytes)

/-- `nlmsg_len`. -/
def nlmsgLen (order : ByteOrder) (header : Nat) : ByteProgram UInt32 := do
  let len ← loadInteger order header 4
  pure (UInt32.ofNat len)

/-- `NLMSG_OK`: the first comparison is one of `int`, the last one of `unsigned int`. -/
def nlmsgOk (order : ByteOrder) (header : Nat) (left : Int32) : ByteProgram Bool :=
  if left < Int32.ofNat nlmsghdrSize then pure false
  else do
    let len ← nlmsgLen order header
    if len.toNat < nlmsghdrSize then pure false
    else do
      let len ← nlmsgLen order header
      pure (decide (len ≤ left.toUInt32))

/-- `NLMSG_NEXT`: the next header and what is left, by an unsigned subtraction. -/
def nlmsgNext (order : ByteOrder) (header : Nat) (left : Int32) :
    ByteProgram (Nat × Int32) := do
  let len ← nlmsgLen order header
  let again ← nlmsgLen order header
  pure (header + (nlmsgAlign again).toNat, (left.toUInt32 - nlmsgAlign len).toInt32)

/-! ## The walk -/

/-- `sizeof(struct inet_diag_msg)`, and where it has the fields that are read. -/
def inetDiagMsgSize : Nat := 72
def portOffset (peer : Bool) : Nat := if peer then 6 else 4
def addressOffset (peer : Bool) : Nat := if peer then 24 else 8
def inodeOffset : Nat := 68

/-- `sizeof(struct sockaddr_storage)`. -/
def sockaddrStorageSize : Nat := 128

/-- What `chaos_init_net_diag_parse` returns. -/
inductive DiagOutcome where
  /-- 1, with `*found` and `*found_length`. -/
  | found (storage : Bytes) (length : Nat)
  /-- 0: not in this chunk. -/
  | absent
  /-- -1: the dump ended or failed. -/
  | ended
deriving DecidableEq, Repr

/-- The first bytes of a storage that was cleared. -/
def cleared (bytes : Bytes) : Bytes :=
  bytes ++ List.replicate (sockaddrStorageSize - bytes.length) 0

/-- `struct sockaddr_in6` and `struct sockaddr_in` of the fields of a message. -/
def sockaddrIn6 (order : ByteOrder) (port address : Bytes) : DiagOutcome :=
  .found (cleared (order.store 2 afInet6 ++ port ++ List.replicate 4 0 ++ address)) 28

def sockaddrIn (order : ByteOrder) (port address : Bytes) : DiagOutcome :=
  .found (cleared (order.store 2 afInet ++ port ++ address)) 16

/-- The message is skipped: it is short, or for another socket. -/
def skipped (order : ByteOrder) (inode : UInt64) (header : Nat) : ByteProgram Bool := do
  let len ← nlmsgLen order header
  if len.toNat < nlmsgLength inetDiagMsgSize then pure true
  else do
    let held ← loadInteger order (nlmsgData header + inodeOffset) 4
    pure (held != inode.toNat)

/-- The address of a message is stored. -/
def storeAddress (order : ByteOrder) (peer : Bool) (message : Nat) :
    ByteProgram DiagOutcome := do
  let family ← loadInteger order message 1
  if family = afInet6 then do
    let port ← loadBytes (message + portOffset peer) 2
    let address ← loadBytes (message + addressOffset peer) 16
    pure (sockaddrIn6 order port address)
  else do
    let port ← loadBytes (message + portOffset peer) 2
    let address ← loadBytes (message + addressOffset peer) 4
    pure (sockaddrIn order port address)

/-- The loop, `none` where the fuel ends. -/
def diagLoop (order : ByteOrder) (inode : UInt64) (peer : Bool) :
    Nat → (header : Nat) → (left : Int32) → ByteProgram (Option DiagOutcome)
  | 0, _, _ => pure none
  | fuel + 1, header, left => do
      let ok ← nlmsgOk order header left
      if ok then do
        let type ← loadInteger order (header + 4) 2
        if type = nlmsgDone ∨ type = nlmsgError then pure (some .ended)
        else do
          let skip ← skipped order inode header
          if skip then do
            let next ← nlmsgNext order header left
            diagLoop order inode peer fuel next.1 next.2
          else do
            let outcome ← storeAddress order peer (nlmsgData header)
            pure (some outcome)
      else pure (some .absent)

/-- `chaos_init_net_diag_parse`; `length` is converted to `int`. -/
def chaosInitNetDiagParse (order : ByteOrder) (fuel answer length : Nat)
    (inode : UInt64) (peer : Bool) : ByteProgram (Option DiagOutcome) :=
  diagLoop order inode peer fuel answer (UInt32.ofNat length).toInt32

/-! ## The messages -/

/-- Messages as the headers define them: `nlmsg_len` is the size of one. -/
def messageFormat (order : ByteOrder) : Format UInt8 where
  header := nlmsghdrSize
  unit := 4
  sizeOf text := order.load (text.take 4)
  header_pos := by decide
  unit_pos := by decide

/-- The messages of what was received. -/
def messages (order : ByteOrder) (text : Bytes) : List Bytes :=
  (messageFormat order).records text

/-- The message ends the dump, or is an error. -/
def Ends (order : ByteOrder) (message : Bytes) : Prop :=
  order.load (field message 4 2) = nlmsgDone ∨ order.load (field message 4 2) = nlmsgError

instance (order : ByteOrder) : DecidablePred (Ends order) :=
  fun _ => inferInstanceAs (Decidable (_ ∨ _))

/-- The message holds a whole `inet_diag_msg`, which is the one of a socket. -/
def IsFor (order : ByteOrder) (inode : UInt64) (message : Bytes) : Prop :=
  nlmsghdrSize + inetDiagMsgSize ≤ message.length ∧
    order.load (field message (nlmsghdrSize + inodeOffset) 4) = inode.toNat

instance (order : ByteOrder) (inode : UInt64) : DecidablePred (IsFor order inode) :=
  fun _ => inferInstanceAs (Decidable (_ ∧ _))

/-- The address in a message. -/
def addressIn (order : ByteOrder) (peer : Bool) (message : Bytes) : DiagOutcome :=
  let port := field message (nlmsghdrSize + portOffset peer) 2
  if order.load (field message nlmsghdrSize 1) = afInet6 then
    sockaddrIn6 order port (field message (nlmsghdrSize + addressOffset peer) 16)
  else sockaddrIn order port (field message (nlmsghdrSize + addressOffset peer) 4)

/-- The first message that ends the dump or is for the socket. -/
def answerOf (order : ByteOrder) (inode : UInt64) (peer : Bool) : List Bytes → DiagOutcome
  | [] => .absent
  | message :: others =>
      if Ends order message then .ended
      else if IsFor order inode message then addressIn order peer message
      else answerOf order inode peer others

/-- An address is the one of a message that is for the socket, and no message up to that
one is an end or an error. -/
theorem answerOf_found {order : ByteOrder} {inode : UInt64} {peer : Bool}
    {received : List Bytes} {storage : Bytes} {length : Nat}
    (found : answerOf order inode peer received = .found storage length) :
    ∃ before message after,
      received = before ++ message :: after ∧
        (∀ other ∈ before ++ [message], ¬Ends order other) ∧
        IsFor order inode message ∧
        addressIn order peer message = .found storage length := by
  induction received with
  | nil => cases found
  | cons message others induction =>
      rw [answerOf] at found
      by_cases ends : Ends order message
      · rw [if_pos ends] at found
        cases found
      · rw [if_neg ends] at found
        by_cases isFor : IsFor order inode message
        · rw [if_pos isFor] at found
          refine ⟨[], message, others, rfl, ?_, isFor, found⟩
          intro other member
          rwa [List.mem_singleton.mp member]
        · rw [if_neg isFor] at found
          rcases induction found with ⟨before, hit, after, split, go_on, hit_isFor, stored⟩
          refine ⟨message :: before, hit, after, ?_, ?_, hit_isFor, stored⟩
          · rw [split, List.cons_append]
          · exact List.forall_mem_cons.mpr ⟨ends, go_on⟩

/-! ## One message -/

section Message

variable {order : ByteOrder} {memory : Memory} {header size : Nat}

/-- A field of a message. -/
theorem yields_field (memory : Memory) (header offset count : Nat)
    (inside : offset + count ≤ size) :
    Yields memory header size (loadBytes (header + offset) count)
      (field (contents memory header size) offset count) := by
  have here : count ≤ size - offset := Nat.le_sub_of_add_le' inside
  have below : header + offset + count ≤ header + size := by
    rw [Nat.add_assoc]
    exact Nat.add_le_add_left inside header
  rw [field, drop_contents, take_contents here]
  exact yields_loadBytes (Nat.le_add_right header offset) below

theorem yields_loadInteger (order : ByteOrder) (memory : Memory) (header offset count : Nat)
    (inside : offset + count ≤ size) :
    Yields memory header size (loadInteger order (header + offset) count)
      (order.load (field (contents memory header size) offset count)) :=
  (yields_field memory header offset count inside).bind (yields_pure _)

theorem nlmsgData_eq (header : Nat) : nlmsgData header = header + nlmsghdrSize :=
  rfl

/-- The size that a message says is one of 32 bits. -/
theorem toNat_sizeOf (order : ByteOrder) (text : Bytes) :
    (UInt32.ofNat ((messageFormat order).sizeOf text)).toNat =
      (messageFormat order).sizeOf text := by
  have bound := load_lt order (text.take 4)
  have short : (text.take 4).length ≤ 4 := List.length_take_le 4 text
  have most : 256 ^ (text.take 4).length ≤ 256 ^ 4 :=
    Nat.pow_le_pow_right (by decide) short
  exact UInt32.toNat_ofNat_of_lt' (bound.trans_le most)

theorem yields_nlmsgLen (order : ByteOrder) (memory : Memory) (header : Nat)
    (whole : 4 ≤ size) :
    Yields memory header size (nlmsgLen order header)
      (UInt32.ofNat ((messageFormat order).sizeOf (contents memory header size))) :=
  (yields_loadInteger order memory header 0 4 ((Nat.zero_add 4).trans_le whole)).bind
    (yields_pure _)

/-- `NLMSG_ALIGN` rounds up to the unit of messages, unless it wraps around. -/
theorem toNat_nlmsgAlign (order : ByteOrder) {len : UInt32} (small : len.toNat < 2 ^ 31) :
    (nlmsgAlign len).toNat = (messageFormat order).padded len.toNat := by
  have mask : (~~~(4 - 1) : UInt32).toBitVec = ~~~BitVec.ofNat 32 (2 ^ 2 - 1) := by decide
  have sum : (len + 4 - 1).toNat = len.toNat + 4 - 1 := by
    rw [UInt32.toNat_sub, UInt32.toNat_add]
    change (2 ^ 32 - 1 + (len.toNat + 4) % 2 ^ 32) % 2 ^ 32 = _
    omega
  rw [nlmsgAlign, ← UInt32.toNat_toBitVec, UInt32.toBitVec_and, mask,
    toNat_and_not_mask _ (by decide), UInt32.toNat_toBitVec, sum]
  rfl

/-- The message is skipped unless it is for the socket. -/
theorem yields_skipped (order : ByteOrder) (inode : UInt64)
    (said : (messageFormat order).sizeOf (contents memory header size) = size)
    (least : nlmsghdrSize ≤ size) :
    Yields memory header size (skipped order inode header)
      (decide ¬IsFor order inode (contents memory header size)) := by
  have whole : 4 ≤ size := (by decide : 4 ≤ nlmsghdrSize).trans least
  refine (yields_nlmsgLen order memory header whole).bind ?_
  rw [toNat_sizeOf, said]
  by_cases short : size < nlmsgLength inetDiagMsgSize
  · have none : ¬IsFor order inode (contents memory header size) := by
      rintro ⟨long, _⟩
      rw [length_contents] at long
      exact absurd long (Nat.not_le.mpr short)
    rw [if_pos short, decide_eq_true none]
    exact yields_pure true
  · have long : nlmsghdrSize + inetDiagMsgSize ≤ size := Nat.le_of_not_lt short
    have loaded : Yields memory header size
        (loadInteger order (nlmsgData header + inodeOffset) 4)
        (order.load (field (contents memory header size) (nlmsghdrSize + inodeOffset) 4)) :=
      yields_loadInteger order memory header (nlmsghdrSize + inodeOffset) 4 long
    have isFor_iff : IsFor order inode (contents memory header size) ↔
        order.load (field (contents memory header size)
          (nlmsghdrSize + inodeOffset) 4) = inode.toNat := by
      rw [IsFor, length_contents]
      exact and_iff_right long
    rw [if_neg short, decide_not, decide_eq_decide.mpr isFor_iff]
    exact loaded.bind (yields_pure _)

/-- The address of a long message. -/
theorem yields_storeAddress (order : ByteOrder) (peer : Bool)
    (long : nlmsghdrSize + inetDiagMsgSize ≤ size) :
    Yields memory header size (storeAddress order peer (nlmsgData header))
      (addressIn order peer (contents memory header size)) := by
  have data (offset count : Nat) (inside : offset + count ≤ inetDiagMsgSize) :
      Yields memory header size (loadBytes (nlmsgData header + offset) count)
        (field (contents memory header size) (nlmsghdrSize + offset) count) := by
    rw [nlmsgData_eq, Nat.add_assoc]
    apply yields_field
    rw [Nat.add_assoc]
    exact (Nat.add_le_add_left inside nlmsghdrSize).trans long
  have family : Yields memory header size (loadInteger order (nlmsgData header) 1)
      (order.load (field (contents memory header size) nlmsghdrSize 1)) :=
    (data 0 1 (by decide)).bind (yields_pure _)
  refine family.bind ?_
  rw [addressIn]
  split
  · refine (data (portOffset peer) 2 ?_).bind ((data (addressOffset peer) 16 ?_).bind
      (yields_pure _))
    · cases peer <;> decide
    · cases peer <;> decide
  · refine (data (portOffset peer) 2 ?_).bind ((data (addressOffset peer) 4 ?_).bind
      (yields_pure _))
    · cases peer <;> decide
    · cases peer <;> decide

end Message

/-! ## One step of the walk -/

section Walk

variable {order : ByteOrder} {memory : Memory} {header size : Nat} {left : Int32}

/-- `NLMSG_OK` says whether a message fits in what is left. -/
theorem yields_nlmsgOk (order : ByteOrder) (memory : Memory) (header : Nat)
    (counts : left.toNatClampNeg = size) :
    Yields memory header size (nlmsgOk order header left)
      (decide ((messageFormat order).Fits (contents memory header size))) := by
  rw [nlmsgOk]
  by_cases short : size < nlmsghdrSize
  · have below : left < Int32.ofNat nlmsghdrSize := by
      rwa [lt_ofNat_iff (by decide) (by decide), counts]
    have none : ¬(messageFormat order).Fits (contents memory header size) := by
      rintro ⟨room, _⟩
      rw [length_contents] at room
      exact absurd room (Nat.not_le.mpr short)
    rw [if_pos below, decide_eq_false none]
    exact yields_pure false
  · have room : nlmsghdrSize ≤ size := Nat.le_of_not_lt short
    have above : ¬left < Int32.ofNat nlmsghdrSize := by
      rwa [lt_ofNat_iff (by decide) (by decide), counts]
    have nonneg : 0 ≤ left := nonneg_of_le (by decide) (room.trans_eq counts.symm)
    have len := yields_nlmsgLen order memory header
      ((by decide : 4 ≤ nlmsghdrSize).trans room)
    rw [if_neg above]
    refine len.bind ?_
    by_cases small : (messageFormat order).sizeOf (contents memory header size) < nlmsghdrSize
    · have none : ¬(messageFormat order).Fits (contents memory header size) :=
        fun fits => absurd fits.2.1 (Nat.not_le.mpr small)
      rw [toNat_sizeOf, if_pos small, decide_eq_false none]
      exact yields_pure false
    · have fits_iff : (messageFormat order).Fits (contents memory header size) ↔
          UInt32.ofNat ((messageFormat order).sizeOf (contents memory header size)) ≤
            left.toUInt32 := by
        rw [le_toUInt32_iff nonneg, toNat_sizeOf, counts, Format.Fits, length_contents]
        exact (and_iff_right room).trans (and_iff_right (Nat.le_of_not_lt small))
      rw [toNat_sizeOf, if_neg small, decide_eq_decide.mpr fits_iff]
      exact len.bind (yields_pure _)

/-- The size that is read at an address, whatever the room behind it. -/
theorem sizeOf_contents (order : ByteOrder) (memory : Memory) (header : Nat)
    (whole : 4 ≤ size) :
    (messageFormat order).sizeOf (contents memory header size) =
      order.load (contents memory header 4) :=
  congrArg order.load (take_contents whole)

theorem sizeOf_message {len : Nat}
    (said : (messageFormat order).sizeOf (contents memory header size) = len)
    (least : nlmsghdrSize ≤ len) (whole : len ≤ size) :
    (messageFormat order).sizeOf (contents memory header len) = len := by
  have enough : 4 ≤ len := (by decide : 4 ≤ nlmsghdrSize).trans least
  rw [sizeOf_contents order memory header enough,
    ← sizeOf_contents order memory header (enough.trans whole), said]

/-- The messages from an address on: the one that fits there, and the others. -/
theorem messages_contents {len : Nat}
    (said : (messageFormat order).sizeOf (contents memory header size) = len)
    (fits : (messageFormat order).Fits (contents memory header size)) :
    messages order (contents memory header size) =
      contents memory header len ::
        messages order (contents memory (header + (messageFormat order).padded len)
          (size - (messageFormat order).padded len)) := by
  rcases fits with ⟨room, least, whole⟩
  rw [length_contents, said] at whole
  rw [messages, Format.records_of_fits ⟨room, least, by rwa [said, length_contents]⟩, said,
    take_contents whole, drop_contents]
  rfl

/-- `NLMSG_NEXT` leaves what is behind the message and its padding. -/
theorem yields_nlmsgNext (order : ByteOrder) (memory : Memory) (header : Nat) {len : Nat}
    (counts : left.toNatClampNeg = size)
    (said : (messageFormat order).sizeOf (contents memory header size) = len)
    (least : nlmsghdrSize ≤ len) (whole : len ≤ size) :
    ∃ rest : Int32,
      rest.toNatClampNeg = size - (messageFormat order).padded len ∧
        Yields memory header size (nlmsgNext order header left)
          (header + (messageFormat order).padded len, rest) := by
  have room : nlmsghdrSize ≤ size := least.trans whole
  have nonneg : 0 ≤ left := nonneg_of_le (by decide) (room.trans_eq counts.symm)
  have most : size < 2 ^ 31 := counts.symm.trans_lt left.toNatClampNeg_lt
  have loaded := yields_nlmsgLen order memory header
    ((by decide : 4 ≤ nlmsghdrSize).trans room)
  have aligned : (nlmsgAlign (UInt32.ofNat len)).toNat = (messageFormat order).padded len := by
    have exact_len := toNat_sizeOf order (contents memory header size)
    rw [said] at exact_len
    rw [toNat_nlmsgAlign order (by omega), exact_len]
  have padding : (messageFormat order).padded len ≤ 2 ^ 31 := by
    have rounded : (messageFormat order).padded len = (len + 4 - 1) / 4 * 4 := rfl
    omega
  rw [said] at loaded
  refine ⟨(left.toUInt32 - nlmsgAlign (UInt32.ofNat len)).toInt32, ?_, ?_⟩
  · rw [toNatClampNeg_sub nonneg (aligned.trans_le padding), counts, aligned]
  · rw [← aligned]
    exact loaded.bind (loaded.bind (yields_pure _))

/-- Where no message fits, the walk ends without an address. -/
theorem yields_diagLoop_end (order : ByteOrder) (inode : UInt64) (peer : Bool) (fuel : Nat)
    (counts : left.toNatClampNeg = size)
    (fits : ¬(messageFormat order).Fits (contents memory header size)) :
    Yields memory header size (diagLoop order inode peer (fuel + 1) header left)
      (some .absent) := by
  rw [diagLoop]
  refine (yields_nlmsgOk order memory header counts).bind ?_
  rw [decide_eq_false fits, if_neg Bool.false_ne_true]
  exact yields_pure _

/-- One round: the message at the header decides, or the walk goes on behind it. -/
theorem yields_diagLoop_round {order : ByteOrder} {inode : UInt64} {peer : Bool}
    {fuel len : Nat} {others : List Bytes}
    (counts : left.toNatClampNeg = size)
    (said : (messageFormat order).sizeOf (contents memory header size) = len)
    (fits : (messageFormat order).Fits (contents memory header size))
    (later : ∀ rest : Int32,
      rest.toNatClampNeg = size - (messageFormat order).padded len →
        Yields memory (header + (messageFormat order).padded len)
          (size - (messageFormat order).padded len)
          (diagLoop order inode peer fuel (header + (messageFormat order).padded len) rest)
          (some (answerOf order inode peer others))) :
    Yields memory header size (diagLoop order inode peer (fuel + 1) header left)
      (some (answerOf order inode peer (contents memory header len :: others))) := by
  have ⟨_, least, whole⟩ := fits
  rw [said] at least whole
  rw [length_contents] at whole
  have own := sizeOf_message said least whole
  have in_message (address : Nat) (above : header ≤ address) (below : address < header + len) :
      header ≤ address ∧ address < header + size :=
    ⟨above, below.trans_le (Nat.add_le_add_left whole header)⟩
  have type : Yields memory header len (loadInteger order (header + 4) 2)
      (order.load (field (contents memory header len) 4 2)) :=
    yields_loadInteger order memory header 4 2 ((by decide : 4 + 2 ≤ nlmsghdrSize).trans least)
  rw [diagLoop, answerOf]
  refine (yields_nlmsgOk order memory header counts).bind ?_
  rw [decide_eq_true fits, if_pos rfl]
  refine (type.mono in_message).bind ?_
  by_cases ends : Ends order (contents memory header len)
  · rw [if_pos ends]
    rw [Ends] at ends
    rw [if_pos ends]
    exact yields_pure _
  · rw [if_neg ends]
    rw [Ends] at ends
    rw [if_neg ends]
    refine ((yields_skipped order inode own least).mono in_message).bind ?_
    by_cases isFor : IsFor order inode (contents memory header len)
    · have long := isFor.1
      rw [length_contents] at long
      rw [if_pos isFor, decide_eq_false (not_not.mpr isFor), if_neg Bool.false_ne_true]
      exact ((yields_storeAddress order peer long).mono in_message).bind (yields_pure _)
    · rw [if_neg isFor, decide_eq_true isFor, if_pos rfl]
      obtain ⟨rest, rest_counts, next⟩ :=
        yields_nlmsgNext order memory header counts said least whole
      refine next.bind ((later rest rest_counts).mono ?_)
      -- The padding of the last message may be longer than what is left.
      intro address above below
      omega

/-- The walk comes to the answer of the messages that are left, and reads only those. -/
theorem yields_diagLoop (order : ByteOrder) (memory : Memory) (inode : UInt64) (peer : Bool)
    {fuel : Nat} (counts : left.toNatClampNeg = size)
    (enough : (messages order (contents memory header size)).length < fuel) :
    Yields memory header size (diagLoop order inode peer fuel header left)
      (some (answerOf order inode peer (messages order (contents memory header size)))) := by
  induction fuel generalizing header left size with
  | zero => exact absurd enough (Nat.not_lt_zero _)
  | succ fuel induction =>
      by_cases fits : (messageFormat order).Fits (contents memory header size)
      · have all := messages_contents rfl fits
        rw [all, List.length_cons] at enough
        rw [all]
        exact yields_diagLoop_round counts rfl fits fun rest rest_counts =>
          induction rest_counts (Nat.lt_of_succ_lt_succ enough)
      · rw [messages, Format.records_of_not_fits fits]
        exact yields_diagLoop_end order inode peer fuel counts fits

end Walk

/-! ## Safety -/

/-- Whatever was received, the walk ends and reads nothing behind it.  An address is one of a
message that holds a whole `inet_diag_msg` with the inode, and that no end and no error
precedes. -/
theorem chaosInitNetDiagParse_safe
    (order : ByteOrder) (memory : Memory) (answer : Nat) {length : Nat}
    (int_length : length < 2 ^ 31) (inode : UInt64) (peer : Bool) :
    ∃ outcome,
      (∀ fuel, length / nlmsghdrSize < fuel →
        Yields memory answer length
          (chaosInitNetDiagParse order fuel answer length inode peer) (some outcome)) ∧
        outcome = answerOf order inode peer (messages order (contents memory answer length)) ∧
        ∀ storage size, outcome = .found storage size →
          ∃ before message after,
            messages order (contents memory answer length) = before ++ message :: after ∧
              (∀ other ∈ before ++ [message], ¬Ends order other) ∧
              IsFor order inode message ∧
              addressIn order peer message = .found storage size := by
  have counts : (UInt32.ofNat length).toInt32.toNatClampNeg = length :=
    toNatClampNeg_toInt32_ofNat int_length
  have few : (messages order (contents memory answer length)).length ≤ length / nlmsghdrSize := by
    have bound := (messageFormat order).length_records_le (contents memory answer length)
    rw [length_contents] at bound
    exact (Nat.le_div_iff_mul_le (by decide)).mpr bound
  refine ⟨_, ?_, rfl, fun storage size => answerOf_found⟩
  intro fuel enough
  exact yields_diagLoop order memory inode peer counts (few.trans_lt enough)

/-- A dump of one socket, whose peer is port 443 of 10.0.0.1. -/
def listedSocket : Bytes :=
  [88, 0, 0, 0, 20, 0, 2, 0] ++ List.replicate 8 0 ++
    [2, 1, 0, 0, 0, 80, 1, 187, 127, 0, 0, 1] ++ List.replicate 12 0 ++ [10, 0, 0, 1] ++
      List.replicate 40 0 ++ [7, 0, 0, 0]

theorem chaosInitNetDiagParse_safe_listedSocket :
    Yields (fun address => listedSocket.getD address 0) 0 88
      (chaosInitNetDiagParse .little 6 0 88 7 true)
      (some (sockaddrIn .little [1, 187] [10, 0, 0, 1])) := by
  obtain ⟨outcome, runs, _, _⟩ :=
    chaosInitNetDiagParse_safe .little (fun address => listedSocket.getD address 0) 0
      (by decide : 88 < 2 ^ 31) 7 true
  have run := runs 6 (by decide)
  have value : (chaosInitNetDiagParse .little 6 0 88 7 true).eval
      (fun address => listedSocket.getD address 0) =
        some (sockaddrIn .little [1, 187] [10, 0, 0, 1]) := by decide +kernel
  exact ⟨value, run.within⟩

end ChaosLibs.Init.NetDiag
