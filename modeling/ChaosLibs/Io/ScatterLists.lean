import ChaosLibs.Common.ScatterLists

/-!
# Torn and corrupted vectors of libchaos-io

TORN replaces the vector of a `writev` by one that covers its first bytes; the count is
drawn between 1 and the total less one, and a vector that cannot be torn so is written
whole.  CORRUPT flips a bit of what a `readv` delivered.
-/

namespace ChaosLibs.Io.ScatterLists

open ChaosLibs.Machine.ByteMemory
open ChaosLibs.Common.ScatterLists

/-- `SSIZE_MAX`. -/
def ssizeMax : Nat := 2 ^ 63 - 1

/-- `CHAOS_IO_TORN_MAX_IOV`. -/
def chaosIoTornMaxIov : Nat := 64

/-- A round of the sum; `none` when it does not fit a `ssize_t`. -/
def addLength (bytes : Nat) (entry : Iovec) : Option Nat :=
  if ssizeMax - bytes < entry.iovLen.toNat then none
  else some (bytes + entry.iovLen.toNat)

/-- `chaos_io_iovec_total_bytes`; `none` where it returns 0. -/
def chaosIoIovecTotalBytes : Option (List Iovec) → Option Nat
  | none => none
  | some [] => none
  | some entries => entries.foldlM addLength 0

/-- `chaos_io_trim_iovecs`; `none` where it returns 0. -/
def chaosIoTrimIovecs
    (source : Option (List Iovec)) (limit : Nat) : Option (List Iovec) :=
  match source with
  | none => none
  | some entries =>
      if limitIovecs entries limit = [] then none
      else some (limitIovecs entries limit)

/-- `chaos_io_torn_count_sample`. -/
def chaosIoTornCountSample (requested : Nat) (sample : UInt32) : Nat :=
  if requested = 0 then 0
  else if requested = 1 then 1
  else sample.toNat % (requested - 1) + 1

/-- `chaos_io_build_torn_iovecs` with the sample it draws. -/
def chaosIoBuildTornIovecs
    (source : Option (List Iovec)) (sample : UInt32) : Option (List Iovec) :=
  match chaosIoIovecTotalBytes source with
  | none => none
  | some total =>
      if total = 0 then none
      else if chaosIoTornCountSample total sample = 0 ∨
          total ≤ chaosIoTornCountSample total sample then none
      else chaosIoTrimIovecs source (chaosIoTornCountSample total sample)

/-- `chaos_io_read_iovecs`: an array that can be read is copied as it is. -/
structure VectorReader where
  read : List Iovec → Option (List Iovec)
  exact : ∀ entries copy, read entries = some copy → copy = entries

/-- `chaos_io_tear_iovecs`. -/
def chaosIoTearIovecs
    (reader : VectorReader) (iov : Option (List Iovec)) (sample : UInt32) :
    Option (List Iovec) :=
  match iov with
  | none => none
  | some entries =>
      if 0 < entries.length ∧ entries.length ≤ chaosIoTornMaxIov then
        match reader.read entries with
        | none => none
        | some copy => chaosIoBuildTornIovecs (some copy) sample
      else none

/-- `chaos_io_corrupt_buffer_sample`. -/
def chaosIoCorruptBufferSample :
    Memory → Nat → Nat → UInt32 → UInt32 → Memory :=
  corruptBufferSample

/-- `chaos_io_corrupt_iovecs` with the samples it draws. -/
def chaosIoCorruptIovecs :
    Memory → Option (List Iovec) → Nat → UInt32 → UInt32 → Memory :=
  corruptIovecs

/-- The CORRUPT of `readv` and `preadv`, behind a real call that returned
`rc`. -/
def chaosIoReadvCorrupt
    (memory : Memory) (iov : Option (List Iovec)) (rc : Int)
    (indexSample bitSample : UInt32) : Memory :=
  if 0 < rc then
    chaosIoCorruptIovecs memory iov rc.toNat indexSample bitSample
  else memory

/-! ## What is torn -/

theorem foldlM_addLength
    {entries : List Iovec} {bytes total : Nat}
    (sum : entries.foldlM addLength bytes = some total) :
    total = bytes + totalBytes entries := by
  induction entries generalizing bytes with
  | nil => exact (Option.some.inj sum).symm
  | cons entry rest induction =>
      rw [List.foldlM_cons, addLength] at sum
      split at sum
      · cases sum
      · have others := induction sum
        rw [others, totalBytes_cons, Nat.add_assoc]

/-- A known total is the sum of the lengths. -/
theorem total_of_known
    {entries : List Iovec} {total : Nat}
    (known : chaosIoIovecTotalBytes (some entries) = some total) :
    total = totalBytes entries := by
  cases entries with
  | nil => cases known
  | cons entry rest =>
      have sum := foldlM_addLength known
      rwa [Nat.zero_add] at sum

/-- The entries that a trim writes, none where it returns 0. -/
theorem getD_chaosIoTrimIovecs (entries : List Iovec) (limit : Nat) :
    (chaosIoTrimIovecs (some entries) limit).getD [] =
      limitIovecs entries limit := by
  show (if limitIovecs entries limit = [] then none
    else some (limitIovecs entries limit)).getD [] = _
  by_cases empty : limitIovecs entries limit = []
  · rw [if_pos empty, empty]
    rfl
  · rw [if_neg empty]
    rfl

/-- A torn vector holds the first bytes, at least one and not all. -/
structure TornAt (entries torn : List Iovec) (count : Nat) : Prop where
  least : 1 ≤ count
  most : count ≤ totalBytes entries - 1
  bytes : cells torn = (cells entries).take count
  fewer : totalBytes torn = count ∧ count < totalBytes entries
  room : torn.length ≤ entries.length

theorem torn_of_built
    {entries torn : List Iovec} {sample : UInt32}
    (built : chaosIoBuildTornIovecs (some entries) sample = some torn) :
    TornAt entries torn
      (chaosIoTornCountSample (totalBytes entries) sample) := by
  unfold chaosIoBuildTornIovecs at built
  cases known : chaosIoIovecTotalBytes (some entries) with
  | none =>
      rw [known] at built
      cases built
  | some total =>
      rw [known] at built
      have sum := total_of_known known
      subst sum
      simp only at built
      split at built
      · cases built
      split at built
      · cases built
      next real =>
        rw [not_or] at real
        have written : torn = limitIovecs entries
            (chaosIoTornCountSample (totalBytes entries) sample) := by
          rw [← getD_chaosIoTrimIovecs, built]
          rfl
        have bytes : cells torn = (cells entries).take
            (chaosIoTornCountSample (totalBytes entries) sample) := by
          rw [written, cells_limitIovecs]
        have fewer : totalBytes torn =
            chaosIoTornCountSample (totalBytes entries) sample := by
          rw [← length_cells, bytes, List.length_take, length_cells]
          omega
        exact
          { least := by omega
            most := by omega
            bytes := bytes
            fewer := ⟨fewer, by omega⟩
            room := by
              rw [written]
              exact length_limitIovecs_le _ _ }

/-- A reported tear is one of the caller's own vector. -/
theorem torn_of_reported
    {reader : VectorReader} {entries torn : List Iovec} {sample : UInt32}
    (reported :
      chaosIoTearIovecs reader (some entries) sample = some torn) :
    TornAt entries torn
      (chaosIoTornCountSample (totalBytes entries) sample) := by
  unfold chaosIoTearIovecs at reported
  simp only at reported
  split at reported
  · cases copied : reader.read entries with
    | none =>
        rw [copied] at reported
        cases reported
    | some copy =>
        rw [copied] at reported
        have same := reader.exact entries copy copied
        subst same
        exact torn_of_built reported
  · cases reported

end ChaosLibs.Io.ScatterLists
