import ChaosLibs.Machine.ClassicBpf
import ChaosLibs.Machine.Indices
import ChaosLibs.Search.SwapRemove
import Mathlib.Data.List.Nodup
import Mathlib.Data.List.Indexes

/-!
# The seccomp program

`chaos_init_build_filter` of `chaos_init_core.c`, with the tables it collects the
system call numbers from, and what the program returns for every `seccomp_data`.
The numbers themselves come with the headers of the build.
-/

namespace ChaosLibs.Init.SeccompFilter

open ChaosLibs.Machine.ClassicBpf
open ChaosLibs.Search

/-! ## The tables -/

/-- The system calls of the tables. -/
inductive SystemCall where
  | openat | read | readv | write | writev | pread64 | preadv | pwrite64
  | pwritev | sendfile | ftruncate | truncate | fallocate | unlinkat | renameat2
  | close | fsync | fdatasync | copyFileRange | preadv2 | pwritev2 | openat2
  | open' | creat | unlink | rmdir | rename | renameat
  | socket | socketpair | bind | listen | connect | accept4 | shutdown | sendto
  | sendmsg | sendmmsg | recvfrom | recvmsg | recvmmsg | ppoll | pselect6
  | epollPwait | accept | poll | select | epollWait | epollPwait2
  | mmap | munmap | mprotect | madvise
  | clone | execve | execveat | wait4 | waitid | clone3 | fork | vfork
deriving DecidableEq, Repr

open SystemCall

/-- `g_chaos_init_io_calls`. -/
def chaosInitIoCalls : List SystemCall :=
  [openat, read, readv, write, writev, pread64, preadv, pwrite64, pwritev,
    sendfile, ftruncate, truncate, fallocate, unlinkat, renameat2, close, fsync,
    fdatasync, copyFileRange, preadv2, pwritev2, openat2, open', creat, unlink,
    rmdir, rename, renameat]

/-- `g_chaos_init_net_calls`. -/
def chaosInitNetCalls : List SystemCall :=
  [socket, socketpair, bind, listen, connect, accept4, shutdown, sendto, sendmsg,
    sendmmsg, recvfrom, recvmsg, recvmmsg, read, readv, write, writev, ppoll,
    pselect6, epollPwait, close, accept, poll, select, epollWait, epollPwait2]

/-- `g_chaos_init_memory_calls`. -/
def chaosInitMemoryCalls : List SystemCall :=
  [mmap, munmap, mprotect, madvise]

/-- `g_chaos_init_process_calls`. -/
def chaosInitProcessCalls : List SystemCall :=
  [clone, execve, execveat, wait4, waitid, clone3, fork, vfork]

/--
What a build is for.  `number` is `__NR_*`, `none` where the headers have none; no
number stands for two calls.
-/
structure Abi where
  auditArch : UInt32
  x8664 : Bool
  number : SystemCall → Option UInt32
  sendmsg : UInt32
  number_sendmsg : number .sendmsg = some sendmsg
  injective : ∀ one other nr, number one = some nr → number other = some nr →
    one = other

/-- `struct seccomp_data`. -/
structure SeccompData where
  nr : UInt32
  arch : UInt32
  instructionPointer : UInt64
  args : Fin 6 → UInt64

/-- The low or the high half of a 64-bit field. -/
def half (field : UInt64) (high : Bool) : UInt32 :=
  if high then (field >>> 32).toUInt32 else field.toUInt32

/-- The word at an offset of the data, in little-endian order. -/
def SeccompData.load (data : SeccompData) (offset : UInt32) : Option UInt32 :=
  if offset = 0 then some data.nr
  else if offset = 4 then some data.arch
  else if offset = 8 ∨ offset = 12 then
    some (half data.instructionPointer (offset = 12))
  else if index : offset.toNat % 4 = 0 ∧ 16 ≤ offset.toNat ∧
      offset.toNat < 64 then
    some (half (data.args ⟨(offset.toNat - 16) / 8, by omega⟩)
      (offset.toNat % 8 = 4))
  else none

/-! ## `chaos_init_build_filter` -/

/-- `CHAOS_INIT_LIB_IO`. -/
def chaosInitLibIo : UInt32 := 0x01

/-- `CHAOS_INIT_LIB_NET`. -/
def chaosInitLibNet : UInt32 := 0x02

/-- `CHAOS_INIT_LIB_MEMORY`. -/
def chaosInitLibMemory : UInt32 := 0x10

/-- `CHAOS_INIT_LIB_PROCESS`. -/
def chaosInitLibProcess : UInt32 := 0x20

/-- `CHAOS_INIT_MAX_FILTER`. -/
def chaosInitMaxFilter : Nat := 128

/-- `CHAOS_INIT_HANDOVER_FLAGS`: `MSG_NOSIGNAL | MSG_CMSG_CLOEXEC`. -/
def chaosInitHandoverFlags : UInt32 := 0x4000 ||| 0x40000000

/-- `SECCOMP_RET_ALLOW`. -/
def seccompRetAllow : UInt32 := 0x7fff0000

/-- `SECCOMP_RET_USER_NOTIF`. -/
def seccompRetUserNotif : UInt32 := 0x7fc00000

/-- `chaos_init_add_syscall`. -/
def chaosInitAddSyscall (list : List UInt32) (nr : UInt32) : List UInt32 :=
  if nr ∈ list then list else list ++ [nr]

/-- `CHAOS_INIT_ADD_ALL`, if the library's bit is set. -/
def addTable (abi : Abi) (libs lib : UInt32) (table : List SystemCall)
    (calls : List UInt32) : List UInt32 :=
  if libs &&& lib ≠ 0 then
    (table.filterMap abi.number).foldl chaosInitAddSyscall calls
  else calls

/-- The numbers of the libraries' calls, each once. -/
def collectCalls (abi : Abi) (libs : UInt32) : List UInt32 :=
  addTable abi libs chaosInitLibProcess chaosInitProcessCalls
    (addTable abi libs chaosInitLibMemory chaosInitMemoryCalls
      (addTable abi libs chaosInitLibNet chaosInitNetCalls
        (addTable abi libs chaosInitLibIo chaosInitIoCalls [])))

/-- `sendmsg` leaves the calls that are tested one by one. -/
def takeSendmsg (abi : Abi) (calls : List UInt32) : List UInt32 × Bool :=
  match calls.findIdx? fun call => call == abi.sendmsg with
  | some index => (swapRemove calls index, true)
  | none => (calls, false)

/-- A foreign ABI passes. -/
def archTest (abi : Abi) : List SockFilter :=
  [bpfStmt .ldWAbs 4, bpfJump .jmpJeqK abi.auditArch 1 0,
    bpfStmt .retK seccompRetAllow, bpfStmt .ldWAbs 0]

/-- On x86_64 the x32 ABI passes. -/
def x32Test (abi : Abi) : List SockFilter :=
  if abi.x8664 then
    [bpfJump .jmpJgeK 0x40000000 0 1, bpfStmt .retK seccompRetAllow]
  else []

/-- The handover passes, and every other `sendmsg` is notified. -/
def handoverTest (abi : Abi) (handoverFd : UInt32) (handover : Bool) :
    List SockFilter :=
  if handover then
    [bpfJump .jmpJeqK abi.sendmsg 0 6, bpfStmt .ldWAbs 16,
      bpfJump .jmpJeqK handoverFd 0 3, bpfStmt .ldWAbs 32,
      bpfJump .jmpJeqK chaosInitHandoverFlags 0 1,
      bpfStmt .retK seccompRetAllow, bpfStmt .retK seccompRetUserNotif]
  else []

/-- The tests of the other calls, and the two returns behind them. -/
def callTests (calls : List UInt32) : List SockFilter :=
  (calls.mapIdx fun index call =>
    bpfJump .jmpJeqK call (.ofNat (calls.length - index)) 0) ++
      [bpfStmt .retK seccompRetAllow, bpfStmt .retK seccompRetUserNotif]

/-- `chaos_init_build_filter`: the program, empty when there is no room for it. -/
def chaosInitBuildFilter (abi : Abi) (libs handoverFd : UInt32)
    (capacity : Nat) : List SockFilter :=
  let taken := takeSendmsg abi (collectCalls abi libs)
  if capacity < taken.1.length + 16 then []
  else
    archTest abi ++ (x32Test abi ++
      (handoverTest abi handoverFd taken.2 ++ callTests taken.1))

/-! ## The routing -/

/-- The calls of the selected libraries. -/
def selectedCalls (libs : UInt32) : List SystemCall :=
  (if libs &&& chaosInitLibIo ≠ 0 then chaosInitIoCalls else []) ++
    (if libs &&& chaosInitLibNet ≠ 0 then chaosInitNetCalls else []) ++
      (if libs &&& chaosInitLibMemory ≠ 0 then chaosInitMemoryCalls else []) ++
        (if libs &&& chaosInitLibProcess ≠ 0 then chaosInitProcessCalls else [])

/-- The `sendmsg` that hands the listener over, while net is selected. -/
def Handover (abi : Abi) (libs handoverFd : UInt32) (data : SeccompData) : Prop :=
  libs &&& chaosInitLibNet ≠ 0 ∧ data.nr = abi.sendmsg ∧
    (data.args 0).toUInt32 = handoverFd ∧
      (data.args 2).toUInt32 = chaosInitHandoverFlags

/-- The system calls the supervisor is notified of. -/
def Routed (abi : Abi) (libs handoverFd : UInt32) (data : SeccompData) : Prop :=
  data.arch = abi.auditArch ∧
    (abi.x8664 = true → data.nr < 0x40000000) ∧
      (∃ call ∈ selectedCalls libs, abi.number call = some data.nr) ∧
        ¬ Handover abi libs handoverFd data

instance (abi : Abi) (libs handoverFd : UInt32) (data : SeccompData) :
    Decidable (Routed abi libs handoverFd data) :=
  inferInstanceAs (Decidable (_ ∧ _ ∧ _ ∧ ¬ (_ ∧ _ ∧ _ ∧ _)))

variable {abi : Abi} {libs handoverFd : UInt32} {data : SeccompData}

/-! ## The collected numbers -/

theorem mem_foldl_chaosInitAddSyscall
    {numbers calls : List UInt32} {nr : UInt32} :
    nr ∈ numbers.foldl chaosInitAddSyscall calls ↔ nr ∈ calls ∨ nr ∈ numbers := by
  induction numbers generalizing calls with
  | nil => rw [List.foldl_nil, or_iff_left List.not_mem_nil]
  | cons head rest induction =>
      rw [List.foldl_cons, induction, List.mem_cons]
      unfold chaosInitAddSyscall
      split
      · rename_i known
        constructor
        · rintro (before | later)
          · exact Or.inl before
          · exact Or.inr (Or.inr later)
        · rintro (before | rfl | later)
          · exact Or.inl before
          · exact Or.inl known
          · exact Or.inr later
      · rw [List.mem_append, List.mem_singleton, or_assoc]

theorem nodup_foldl_chaosInitAddSyscall
    {numbers calls : List UInt32} (distinct : calls.Nodup) :
    (numbers.foldl chaosInitAddSyscall calls).Nodup := by
  induction numbers generalizing calls with
  | nil => exact distinct
  | cons head rest induction =>
      apply induction
      unfold chaosInitAddSyscall
      split
      · exact distinct
      · rename_i new
        rw [List.nodup_append]
        refine ⟨distinct, List.nodup_singleton head, ?_⟩
        rintro call member _ here rfl
        rw [List.mem_singleton.mp here] at member
        exact new member

theorem length_foldl_chaosInitAddSyscall (numbers calls : List UInt32) :
    (numbers.foldl chaosInitAddSyscall calls).length ≤
      calls.length + numbers.length := by
  induction numbers generalizing calls with
  | nil => exact Nat.le_refl _
  | cons head rest induction =>
      have added : (chaosInitAddSyscall calls head).length ≤ calls.length + 1 := by
        unfold chaosInitAddSyscall
        split
        · exact Nat.le_succ _
        · exact Nat.le_of_eq List.length_append
      have others := induction (chaosInitAddSyscall calls head)
      rw [List.foldl_cons, List.length_cons]
      omega

section Tables

variable {lib : UInt32} {table : List SystemCall} {calls : List UInt32}

theorem mem_addTable {nr : UInt32} :
    nr ∈ addTable abi libs lib table calls ↔
      nr ∈ calls ∨
        ∃ call ∈ if libs &&& lib ≠ 0 then table else [],
          abi.number call = some nr := by
  unfold addTable
  split
  · rw [mem_foldl_chaosInitAddSyscall, List.mem_filterMap]
  · simp

theorem nodup_addTable (distinct : calls.Nodup) :
    (addTable abi libs lib table calls).Nodup := by
  unfold addTable
  split
  · exact nodup_foldl_chaosInitAddSyscall distinct
  · exact distinct

theorem length_addTable :
    (addTable abi libs lib table calls).length ≤ calls.length + table.length := by
  unfold addTable
  split
  · exact Nat.le_trans (length_foldl_chaosInitAddSyscall _ _)
      (Nat.add_le_add_left (List.length_filterMap_le _ _) _)
  · exact Nat.le_add_right _ _

end Tables

theorem mem_collectCalls {nr : UInt32} :
    nr ∈ collectCalls abi libs ↔
      ∃ call ∈ selectedCalls libs, abi.number call = some nr := by
  unfold collectCalls selectedCalls
  simp only [mem_addTable, List.mem_append, or_and_right, exists_or,
    List.not_mem_nil, false_or]

theorem nodup_collectCalls : (collectCalls abi libs).Nodup :=
  nodup_addTable (nodup_addTable (nodup_addTable (nodup_addTable
    List.nodup_nil)))

theorem length_collectCalls :
    (collectCalls abi libs).length + 16 ≤ chaosInitMaxFilter := by
  have io := @length_addTable abi libs chaosInitLibIo chaosInitIoCalls []
  have net := @length_addTable abi libs chaosInitLibNet chaosInitNetCalls
    (addTable abi libs chaosInitLibIo chaosInitIoCalls [])
  have memory := @length_addTable abi libs chaosInitLibMemory
    chaosInitMemoryCalls
    (addTable abi libs chaosInitLibNet chaosInitNetCalls
      (addTable abi libs chaosInitLibIo chaosInitIoCalls []))
  have process := @length_addTable abi libs chaosInitLibProcess
    chaosInitProcessCalls
    (addTable abi libs chaosInitLibMemory chaosInitMemoryCalls
      (addTable abi libs chaosInitLibNet chaosInitNetCalls
        (addTable abi libs chaosInitLibIo chaosInitIoCalls [])))
  change (collectCalls abi libs).length ≤ _ + 8 at process
  change _ ≤ _ + 4 at memory
  change _ ≤ _ + 26 at net
  change _ ≤ 0 + 28 at io
  show _ ≤ 128
  omega

/-- `sendmsg` is among the calls just when net is selected. -/
theorem sendmsg_mem_collectCalls :
    abi.sendmsg ∈ collectCalls abi libs ↔ libs &&& chaosInitLibNet ≠ 0 := by
  have elsewhere : ∀ table, SystemCall.sendmsg ∉ table → ∀ selected : Prop,
      [Decidable selected] →
      SystemCall.sendmsg ∉ if selected then table else [] := by
    intro table absent selected _ member
    split at member
    · exact absent member
    · cases member
  rw [mem_collectCalls]
  constructor
  · rintro ⟨call, member, same⟩
    cases abi.injective call .sendmsg abi.sendmsg same abi.number_sendmsg
    intro unselected
    have unselected := not_not_intro unselected
    unfold selectedCalls at member
    rw [if_neg unselected, List.append_nil] at member
    rcases List.mem_append.mp member with member | process
    · rcases List.mem_append.mp member with io | memory
      · exact elsewhere chaosInitIoCalls (by decide) _ io
      · exact elsewhere chaosInitMemoryCalls (by decide) _ memory
    · exact elsewhere chaosInitProcessCalls (by decide) _ process
  · intro selected
    refine ⟨.sendmsg, ?_, abi.number_sendmsg⟩
    unfold selectedCalls
    rw [if_pos selected]
    apply List.mem_append_left
    apply List.mem_append_left
    apply List.mem_append_right
    decide

/-- What is left after `sendmsg` was taken, and whether it was there. -/
theorem takeSendmsg_spec {calls : List UInt32} (distinct : calls.Nodup) :
    ((takeSendmsg abi calls).2 = true ↔ abi.sendmsg ∈ calls) ∧
      (∀ nr, nr ∈ (takeSendmsg abi calls).1 ↔ nr ∈ calls ∧ nr ≠ abi.sendmsg) ∧
        (takeSendmsg abi calls).1.length ≤ calls.length := by
  unfold takeSendmsg
  cases found : calls.findIdx? fun call => call == abi.sendmsg with
  | none =>
      have absent : abi.sendmsg ∉ calls := by
        intro member
        have other := List.findIdx?_eq_none_iff.mp found abi.sendmsg member
        rw [beq_self_eq_true] at other
        cases other
      refine ⟨iff_of_false Bool.false_ne_true absent, fun nr => ?_,
        Nat.le_refl _⟩
      refine (and_iff_left_of_imp ?_).symm
      rintro member rfl
      exact absent member
  | some index =>
      rcases List.findIdx?_eq_some_iff_getElem.mp found with ⟨inside, here, -⟩
      have here := beq_iff_eq.mp here
      have permuted := perm_swapRemove inside
      rw [here] at permuted
      have separate := List.nodup_cons.mp (permuted.nodup_iff.mp distinct)
      refine ⟨iff_of_true rfl ?_, fun nr => ?_, ?_⟩
      · rw [← here]
        exact List.getElem_mem inside
      · rw [permuted.mem_iff, List.mem_cons]
        constructor
        · intro member
          refine ⟨Or.inr member, ?_⟩
          rintro rfl
          exact separate.1 member
        · rintro ⟨same | member, different⟩
          · exact absurd same different
          · exact member
      · rw [permuted.length_eq]
        exact Nat.le_succ _

/-- The tests of the calls are a chain, each jumping behind the `ALLOW`. -/
theorem mapIdx_eq_chain (calls : List UInt32) :
    (calls.mapIdx fun index call =>
      bpfJump .jmpJeqK call (.ofNat (calls.length - index)) 0) =
        chain calls 1 := by
  induction calls with
  | nil => rfl
  | cons call rest induction =>
      rw [List.mapIdx_cons, List.length_cons]
      simp only [Nat.add_sub_add_right]
      rw [induction]
      rfl

/-! ## What the program returns -/

theorem load_args_zero : data.load 16 = some (data.args 0).toUInt32 :=
  rfl

theorem load_args_two : data.load 32 = some (data.args 2).toUInt32 :=
  rfl

theorem interpret_callTests
    {calls : List UInt32} (short : calls.length < 256) (nr : UInt32) :
    interpret data.load (callTests calls) 0 nr =
      some (if nr ∈ calls then seccompRetUserNotif else seccompRetAllow) := by
  unfold callTests
  rw [mapIdx_eq_chain, interpret_chain short]
  split
  · rfl
  · rfl

/-- The block of `sendmsg` lets any other call through to the tests behind it. -/
theorem interpret_handoverTest
    (handover : Bool) (rest : List SockFilter) :
    interpret data.load (handoverTest abi handoverFd handover ++ rest) 0
        data.nr =
      if handover = true ∧ data.nr = abi.sendmsg then
        some (if (data.args 0).toUInt32 = handoverFd ∧
            (data.args 2).toUInt32 = chaosInitHandoverFlags then
          seccompRetAllow
        else seccompRetUserNotif)
      else interpret data.load rest 0 data.nr := by
  cases handover with
  | false =>
      rw [if_neg fun both => Bool.false_ne_true both.1]
      rfl
  | true =>
      unfold handoverTest
      rw [if_pos rfl, List.cons_append, interpret_jeq]
      by_cases sendmsg : data.nr = abi.sendmsg
      · rw [if_pos sendmsg, if_pos ⟨rfl, sendmsg⟩]
        show interpret data.load (bpfStmt .ldWAbs 16 :: _) 0 _ = _
        rw [interpret_ld, load_args_zero, Option.bind_some]
        show interpret data.load (bpfJump .jmpJeqK handoverFd 0 3 :: _) 0 _ = _
        rw [interpret_jeq]
        by_cases descriptor : (data.args 0).toUInt32 = handoverFd
        · rw [if_pos descriptor]
          show interpret data.load (bpfStmt .ldWAbs 32 :: _) 0 _ = _
          rw [interpret_ld, load_args_two, Option.bind_some]
          show interpret data.load
            (bpfJump .jmpJeqK chaosInitHandoverFlags 0 1 :: _) 0 _ = _
          rw [interpret_jeq]
          by_cases flags : (data.args 2).toUInt32 = chaosInitHandoverFlags
          · rw [if_pos flags, if_pos ⟨descriptor, flags⟩]
            rfl
          · rw [if_neg flags, if_neg fun both => flags both.2]
            rfl
        · rw [if_neg descriptor, if_neg fun both => descriptor both.1]
          rfl
      · rw [if_neg sendmsg, if_neg fun both => sendmsg both.2]
        rfl

theorem interpret_x32Test (rest : List SockFilter) :
    interpret data.load (x32Test abi ++ rest) 0 data.nr =
      if abi.x8664 = true ∧ ¬ data.nr < 0x40000000 then some seccompRetAllow
      else interpret data.load rest 0 data.nr := by
  unfold x32Test
  cases abi.x8664 with
  | false =>
      rw [if_neg Bool.false_ne_true, if_neg fun both => Bool.false_ne_true both.1]
      rfl
  | true =>
      rw [if_pos rfl, List.cons_append, interpret_jge]
      by_cases native : data.nr < 0x40000000
      · rw [if_neg (UInt32.not_le.mpr native), if_neg fun both => both.2 native]
        rfl
      · rw [if_pos (UInt32.not_lt.mp native), if_pos ⟨rfl, native⟩]
        rfl

theorem interpret_archTest (rest : List SockFilter) (accumulator : UInt32) :
    interpret data.load (archTest abi ++ rest) 0 accumulator =
      if data.arch = abi.auditArch then interpret data.load rest 0 data.nr
      else some seccompRetAllow := by
  unfold archTest
  rw [List.cons_append, interpret_ld]
  show interpret data.load (bpfJump .jmpJeqK abi.auditArch 1 0 :: _) 0
    data.arch = _
  rw [interpret_jeq]
  by_cases native : data.arch = abi.auditArch
  · rw [if_pos native, if_pos native]
    rfl
  · rw [if_neg native, if_neg native]
    rfl

/-! ## No jump leaves it -/

theorem contained_callTests {calls : List UInt32} (short : calls.length < 256) :
    Contained (callTests calls) := by
  unfold callTests
  rw [mapIdx_eq_chain]
  exact contained_chain short ⟨trivial, trivial, trivial⟩ (Nat.lt_succ_self 1)

theorem two_le_length_callTests (calls : List UInt32) :
    2 ≤ (callTests calls).length := by
  unfold callTests
  rw [List.length_append]
  exact Nat.le_add_left _ _

theorem contained_handoverTest
    (handover : Bool) {rest : List SockFilter} (some' : 0 < rest.length)
    (contained : Contained rest) :
    Contained (handoverTest abi handoverFd handover ++ rest) := by
  cases handover with
  | false => exact contained
  | true =>
      refine ⟨⟨Nat.succ_pos _, ?_⟩, Nat.succ_pos _,
        ⟨Nat.succ_pos _, ?_⟩, Nat.succ_pos _, ⟨Nat.succ_pos _, ?_⟩, trivial,
        trivial, contained⟩
      · show 6 < rest.length + 6
        omega
      · show 3 < rest.length + 4
        omega
      · show 1 < rest.length + 2
        omega

theorem contained_x32Test
    {rest : List SockFilter} (some' : 0 < rest.length)
    (contained : Contained rest) : Contained (x32Test abi ++ rest) := by
  unfold x32Test
  split
  · refine ⟨⟨Nat.succ_pos _, ?_⟩, trivial, contained⟩
    show 1 < rest.length + 1
    omega
  · exact contained

theorem contained_archTest
    {rest : List SockFilter} (some' : 0 < rest.length)
    (contained : Contained rest) : Contained (archTest abi ++ rest) := by
  refine ⟨Nat.succ_pos _, ⟨?_, Nat.succ_pos _⟩, trivial, some', contained⟩
  show 1 < rest.length + 2
  omega

/-! ## The specification -/

/-- The returns, test by test, are those of the routing. -/
theorem returns_eq
    {calls : List UInt32} {handover : Bool}
    (taken : handover = true ↔ abi.sendmsg ∈ collectCalls abi libs)
    (left : ∀ nr, nr ∈ calls ↔ nr ∈ collectCalls abi libs ∧ nr ≠ abi.sendmsg) :
    (if data.arch = abi.auditArch then
        if abi.x8664 = true ∧ ¬ data.nr < 0x40000000 then some seccompRetAllow
        else if handover = true ∧ data.nr = abi.sendmsg then
          some (if (data.args 0).toUInt32 = handoverFd ∧
              (data.args 2).toUInt32 = chaosInitHandoverFlags then
            seccompRetAllow
          else seccompRetUserNotif)
        else some (if data.nr ∈ calls then seccompRetUserNotif
          else seccompRetAllow)
      else some seccompRetAllow) =
      some (if Routed abi libs handoverFd data then seccompRetUserNotif
        else seccompRetAllow) := by
  by_cases native : data.arch = abi.auditArch
  · rw [if_pos native]
    by_cases x32 : abi.x8664 = true ∧ ¬ data.nr < 0x40000000
    · have passes : ¬ Routed abi libs handoverFd data :=
        fun routed => x32.2 (routed.2.1 x32.1)
      rw [if_pos x32, if_neg passes]
    · have below : abi.x8664 = true → data.nr < 0x40000000 :=
        fun x8664 => by_contra fun above => x32 ⟨x8664, above⟩
      rw [if_neg x32]
      by_cases sendmsg : handover = true ∧ data.nr = abi.sendmsg
      · have collected := taken.mp sendmsg.1
        have selected := sendmsg_mem_collectCalls.mp collected
        have routed : Routed abi libs handoverFd data ↔
            ¬ ((data.args 0).toUInt32 = handoverFd ∧
              (data.args 2).toUInt32 = chaosInitHandoverFlags) := by
          constructor
          · exact fun routed same =>
              routed.2.2.2 ⟨selected, sendmsg.2, same⟩
          · intro other
            refine ⟨native, below, ?_, fun same => other same.2.2⟩
            rw [sendmsg.2]
            exact mem_collectCalls.mp collected
        rw [if_pos sendmsg]
        by_cases same : (data.args 0).toUInt32 = handoverFd ∧
            (data.args 2).toUInt32 = chaosInitHandoverFlags
        · rw [if_pos same, if_neg fun other => routed.mp other same]
        · rw [if_neg same, if_pos (routed.mpr same)]
      · -- It is no `sendmsg` that was collected.
        have other : data.nr ∈ collectCalls abi libs → data.nr ≠ abi.sendmsg := by
          intro member same
          rw [same] at member
          exact sendmsg ⟨taken.mpr member, same⟩
        have routed : Routed abi libs handoverFd data ↔ data.nr ∈ calls := by
          rw [left, mem_collectCalls]
          constructor
          · intro routed
            exact ⟨routed.2.2.1, other (mem_collectCalls.mpr routed.2.2.1)⟩
          · rintro ⟨member, different⟩
            exact ⟨native, below, member, fun same => different same.2.1⟩
        rw [if_neg sendmsg]
        simp only [routed]
  · have passes : ¬ Routed abi libs handoverFd data :=
      fun routed => native routed.1
    rw [if_neg native, if_neg passes]

/--
For every build, every set of libraries, every handover descriptor and every
`seccomp_data`: the program, which is empty only where there is less room than the
caller gives it, notifies the supervisor of the calls that are routed to it and lets
every other pass, and no jump leaves it.
-/
theorem interpret_chaosInitBuildFilter
    (abi : Abi) (libs handoverFd : UInt32) (capacity : Nat) (data : SeccompData) :
    (chaosInitBuildFilter abi libs handoverFd capacity = [] ∧
        capacity < chaosInitMaxFilter) ∨
      (Contained (chaosInitBuildFilter abi libs handoverFd capacity) ∧
        interpret data.load (chaosInitBuildFilter abi libs handoverFd capacity) 0
            0 =
          some (if Routed abi libs handoverFd data then seccompRetUserNotif
            else seccompRetAllow)) := by
  rcases @takeSendmsg_spec abi _ (@nodup_collectCalls abi libs) with
    ⟨handover, left, shorter⟩
  have room := @length_collectCalls abi libs
  unfold chaosInitMaxFilter at room ⊢
  unfold chaosInitBuildFilter
  generalize takeSendmsg abi (collectCalls abi libs) = taken
    at handover left shorter ⊢
  dsimp only
  split
  · rename_i small
    exact Or.inl ⟨rfl, by omega⟩
  · have short : taken.1.length < 256 := by omega
    have two := two_le_length_callTests taken.1
    refine Or.inr ⟨?_, ?_⟩
    · apply contained_archTest
      · simp only [List.length_append]
        omega
      · apply contained_x32Test
        · rw [List.length_append]
          omega
        · exact contained_handoverTest _ (by omega) (contained_callTests short)
    · rw [interpret_archTest, interpret_x32Test, interpret_handoverTest,
        interpret_callTests short]
      exact returns_eq handover left

/-- x86_64, of which only `sendmsg` is numbered. -/
def onlySendmsg : Abi where
  auditArch := 0xc000003e
  x8664 := true
  number := fun call => if call = .sendmsg then some 46 else none
  sendmsg := 46
  number_sendmsg := rfl
  injective := by
    intro one other nr first second
    split at first
    · split at second
      · rename_i one other
        exact one.trans other.symm
      · cases second
    · cases first

/-- The `sendmsg` of the handover on descriptor 4 passes, without its flags it does not. -/
example :
    interpret (SeccompData.load ⟨46, 0xc000003e, 0,
        fun index => if index = 0 then 4 else 0x40004000⟩)
        (chaosInitBuildFilter onlySendmsg chaosInitLibNet 4 128) 0 0 =
      some seccompRetAllow ∧
    interpret (SeccompData.load ⟨46, 0xc000003e, 0,
        fun index => if index = 0 then 4 else 0⟩)
        (chaosInitBuildFilter onlySendmsg chaosInitLibNet 4 128) 0 0 =
      some seccompRetUserNotif := by
  decide +kernel

end ChaosLibs.Init.SeccompFilter
