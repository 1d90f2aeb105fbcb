import ChaosLibs.Io.SupervisorMatch

/-!
# The byte count of a vectored call

Both modes add up the lengths of an array of `struct iovec` in rounds of 64.
Over their sums lies the total of all lengths: the wrapper counts it while it
fits `ssize_t`, the supervisor as a 64-bit word.
-/

namespace ChaosLibs.Io.CallSizes

open ChaosLibs.Common.CString
open ChaosLibs.Io.Rule
open ChaosLibs.Io.CallingProcess
open ChaosLibs.Io.PreloadMatch
open ChaosLibs.Io.SupervisorMatch

/-- Add the lengths of a round's entries to a total, without a bound. -/
def addRound (caller : Caller) (iov : UInt64) (total : Nat)
    (round : Nat × Nat) : Option Nat :=
  (caller.vectors (entryAddress iov round.1) round.2).map fun chunk =>
    total + (chunk.map UInt64.toNat).sum

/-- All lengths of a vector, added up; `none` when it cannot be read. -/
def vectorTotal (caller : Caller) (iov : UInt64) (count : Nat) : Option Nat :=
  (rounds count).foldlM (addRound caller iov) 0

theorem le_of_addRounds
    {caller : Caller} {iov : UInt64} {list : List (Nat × Nat)}
    {start total : Nat}
    (added : list.foldlM (addRound caller iov) start = some total) :
    start ≤ total := by
  induction list generalizing start with
  | nil =>
      cases added
      exact Nat.le_refl _
  | cons round rest induction =>
      rw [List.foldlM_cons] at added
      rcases Option.bind_eq_some_iff.mp added with ⟨next, first, later⟩
      rcases Option.map_eq_some_iff.mp first with ⟨chunk, -, rfl⟩
      exact Nat.le_trans (Nat.le_add_right _ _) (induction later)

theorem chaosIoIovecTotalBytes_eq (lengths : List UInt64) :
    chaosIoIovecTotalBytes lengths =
      (some (lengths.map UInt64.toNat).sum).filter fun total =>
        decide (total ≤ ssizeMax) := by
  have general : ∀ start ≤ ssizeMax,
      lengths.foldlM
        (fun bytes length =>
          if ssizeMax - bytes < length.toNat then none
          else some (bytes + length.toNat)) start =
      (some (start + (lengths.map UInt64.toNat).sum)).filter fun total =>
        decide (total ≤ ssizeMax) := by
    induction lengths with
    | nil =>
        intro start within
        rw [List.map_nil, List.sum_nil, Nat.add_zero, Option.filter_some,
          if_pos (decide_eq_true within)]
        rfl
    | cons length rest induction =>
        intro start within
        rw [List.foldlM_cons, List.map_cons, List.sum_cons]
        by_cases tooMuch : ssizeMax - start < length.toNat
        · rw [if_pos tooMuch, Option.filter_some, if_neg]
          · rfl
          · rw [decide_eq_true_eq]
            omega
        · rw [if_neg tooMuch]
          have next := induction (start + length.toNat) (by omega)
          rw [Nat.add_assoc] at next
          exact next
  have whole := general 0 (Nat.zero_le _)
  rw [Nat.zero_add] at whole
  exact whole

/-- The wrapper counts a vector whose total fits `ssize_t`. -/
theorem foldlM_iovecSizeRound (caller : Caller) (iov : UInt64)
    (list : List (Nat × Nat)) {start : Nat} (within : start ≤ ssizeMax) :
    list.foldlM (iovecSizeRound caller iov) start =
      (list.foldlM (addRound caller iov) start).filter fun total =>
        decide (total ≤ ssizeMax) := by
  induction list generalizing start with
  | nil =>
      rw [List.foldlM_nil, List.foldlM_nil]
      exact (if_pos (decide_eq_true within)).symm
  | cons round rest induction =>
      rw [List.foldlM_cons, List.foldlM_cons, iovecSizeRound, addRound]
      cases caller.vectors (entryAddress iov round.1) round.2 with
      | none => rfl
      | some chunk =>
          rw [Option.bind_some, Option.map_some,
            chaosIoIovecTotalBytes_eq, Option.filter_some]
          generalize (chunk.map UInt64.toNat).sum = part
          by_cases fits : start + part ≤ ssizeMax
          · have partFits : part ≤ ssizeMax := by omega
            rw [if_pos (decide_eq_true partFits), Option.bind_some,
              if_neg (by omega)]
            exact induction fits
          · have dropped :
                ((rest.foldlM (addRound caller iov) (start + part)).filter
                  fun total => decide (total ≤ ssizeMax)) = none := by
              rw [Option.filter_eq_none_iff]
              intro total added kept
              have larger := le_of_addRounds added
              have fitsTotal := of_decide_eq_true kept
              omega
            have refused :
                ((if decide (part ≤ ssizeMax) = true then some part
                    else none).bind fun part =>
                  if ssizeMax - start < part then none
                  else some (start + part)) = none := by
              split
              · rw [Option.bind_some, if_pos (by omega)]
              · rfl
            rw [refused]
            exact dropped.symm

theorem foldl_add_lengths (lengths : List UInt64) (start : Nat) :
    lengths.foldl (fun total length => total + length) (UInt64.ofNat start) =
      UInt64.ofNat (start + (lengths.map UInt64.toNat).sum) := by
  induction lengths generalizing start with
  | nil => rfl
  | cons length rest induction =>
      rw [List.foldl_cons, List.map_cons, List.sum_cons, ← Nat.add_assoc,
        ← induction, UInt64.ofNat_add, UInt64.ofNat_toNat]

/-- The supervisor counts the total as a 64-bit word. -/
theorem foldlM_iovSizeRound (caller : Caller) (iov : UInt64)
    (list : List (Nat × Nat)) (start : Nat) :
    list.foldlM (iovSizeRound caller iov) (UInt64.ofNat start) =
      (list.foldlM (addRound caller iov) start).map UInt64.ofNat := by
  induction list generalizing start with
  | nil => rfl
  | cons round rest induction =>
      rw [List.foldlM_cons, List.foldlM_cons, iovSizeRound, addRound]
      cases caller.vectors (entryAddress iov round.1) round.2 with
      | none => rfl
      | some chunk =>
          rw [Option.map_some, Option.map_some, foldl_add_lengths]
          exact induction _

/--
A vector of no more than `IOV_MAX` entries has to lie at an address, unless it
has entries and so cannot be read; and its total has to fit `ssize_t`, or wrap
around to no size.
-/
def VectorAlike (caller : Caller) (iov : UInt64) (iovcnt : Int) : Prop :=
  iovcnt < 0 ∨ iovMax < iovcnt ∨
    if iov = 0 then 0 < iovcnt
    else ∀ total, vectorTotal caller iov iovcnt.toNat = some total →
      total ≤ ssizeMax ∨ total % 2 ^ 64 = chaosPolicyNoSize

theorem toNat_ofInt_of_nonneg {value : Int} (nonneg : 0 ≤ value)
    (small : value < 2 ^ 31) : (UInt64.ofInt value).toNat = value.toNat := by
  rw [UInt64.ofInt, UInt64.toNat_ofNat']
  omega

theorem toNat_ofInt_of_neg {value : Int} (negative : value < 0)
    (small : -2 ^ 31 ≤ value) : 1024 < (UInt64.ofInt value).toNat := by
  rw [UInt64.ofInt, UInt64.toNat_ofNat']
  omega

theorem rounds_of_pos {count : Nat} (positive : 0 < count) :
    ∃ rest, rounds count = (0, min 64 count) :: rest := by
  have some : (count + 63) / 64 = (count + 63) / 64 - 1 + 1 := by omega
  rw [rounds, some, List.range_succ_eq_map, List.map_cons]
  exact ⟨_, rfl⟩

/-- A vector at no address that has entries cannot be read. -/
theorem vectorTotal_null (caller : Caller) {count : Nat} (positive : 0 < count) :
    vectorTotal caller 0 count = none := by
  rcases rounds_of_pos positive with ⟨rest, shape⟩
  have entries : 0 < min 64 count := by omega
  have address : entryAddress 0 0 = 0 := rfl
  have unread : addRound caller 0 0 (0, min 64 count) = none := by
    rw [addRound, address, caller.nullVector _ entries]
    rfl
  rw [vectorTotal, shape, List.foldlM_cons, unread]
  rfl

theorem chaosIoIovecSize_eq (caller : Caller) {iov : UInt64} {iovcnt : Int}
    (nonneg : 0 ≤ iovcnt) (few : iovcnt ≤ iovMax) (there : iov ≠ 0) :
    chaosIoIovecSize caller iov iovcnt =
      ((vectorTotal caller iov iovcnt.toNat).filter fun total =>
        decide (total ≤ ssizeMax)).getD chaosPolicyNoSize := by
  have read : ¬ (iov = 0 ∨ iovcnt < 0 ∨ (iovMax : Int) < iovcnt) := by
    rintro (null | negative | many)
    · exact there null
    · exact absurd nonneg (not_le.mpr negative)
    · exact absurd few (not_le.mpr many)
  rw [chaosIoIovecSize, if_neg read,
    foldlM_iovecSizeRound caller iov _ (Nat.zero_le _)]
  rfl

theorem chaosInitIoIovSize_eq (caller : Caller) (iov : UInt64) {iovcnt : Int}
    (nonneg : 0 ≤ iovcnt) (few : iovcnt ≤ iovMax) :
    chaosInitIoIovSize caller iov (UInt64.ofInt iovcnt) =
      ((vectorTotal caller iov iovcnt.toNat).map fun total =>
        total % 2 ^ 64).getD chaosPolicyNoSize := by
  have bound : (iovMax : Int) = 1024 := rfl
  have count := toNat_ofInt_of_nonneg nonneg (by omega)
  rw [chaosInitIoIovSize, count, if_neg (by omega)]
  have folded := foldlM_iovSizeRound caller iov (rounds iovcnt.toNat) 0
  change _ = (vectorTotal caller iov iovcnt.toNat).map UInt64.ofNat at folded
  change (((rounds iovcnt.toNat).foldlM (iovSizeRound caller iov)
    (UInt64.ofNat 0)).map UInt64.toNat).getD chaosPolicyNoSize = _
  rw [folded, Option.map_map]
  have word : UInt64.toNat ∘ UInt64.ofNat = fun total => total % 2 ^ 64 := by
    funext total
    exact UInt64.toNat_ofNat'
  rw [word]

/-- Both modes take the same count from a vector exactly when they measure it alike. -/
theorem iovecSize_eq_iff (caller : Caller) (iov : UInt64) {iovcnt : Int}
    (low : -2 ^ 31 ≤ iovcnt) (high : iovcnt < 2 ^ 31) :
    chaosIoIovecSize caller iov iovcnt =
        chaosInitIoIovSize caller iov (UInt64.ofInt iovcnt) ↔
      VectorAlike caller iov iovcnt := by
  have bound : (iovMax : Int) = 1024 := rfl
  by_cases negative : iovcnt < 0
  · have refused : chaosIoIovecSize caller iov iovcnt = chaosPolicyNoSize := by
      rw [chaosIoIovecSize, if_pos (Or.inr (Or.inl negative))]
    have many := toNat_ofInt_of_neg negative low
    rw [refused, chaosInitIoIovSize, if_pos many]
    exact iff_of_true rfl (Or.inl negative)
  · have nonneg : 0 ≤ iovcnt := not_lt.mp negative
    by_cases long : (iovMax : Int) < iovcnt
    · have refused : chaosIoIovecSize caller iov iovcnt = chaosPolicyNoSize := by
        rw [chaosIoIovecSize, if_pos (Or.inr (Or.inr long))]
      have many : 1024 < (UInt64.ofInt iovcnt).toNat := by
        rw [toNat_ofInt_of_nonneg nonneg high]
        omega
      rw [refused, chaosInitIoIovSize, if_pos many]
      exact iff_of_true rfl (Or.inr (Or.inl long))
    · have few : iovcnt ≤ iovMax := not_lt.mp long
      have reduced : VectorAlike caller iov iovcnt ↔
          if iov = 0 then 0 < iovcnt
          else ∀ total, vectorTotal caller iov iovcnt.toNat = some total →
            total ≤ ssizeMax ∨ total % 2 ^ 64 = chaosPolicyNoSize := by
        unfold VectorAlike
        rw [or_iff_right negative, or_iff_right long]
      rw [reduced, chaosInitIoIovSize_eq caller iov nonneg few]
      by_cases null : iov = 0
      · have refused : chaosIoIovecSize caller iov iovcnt = chaosPolicyNoSize := by
          rw [chaosIoIovecSize, if_pos (Or.inl null)]
        rw [refused, if_pos null, null]
        by_cases entries : 0 < iovcnt
        · rw [vectorTotal_null caller (by omega)]
          exact iff_of_true rfl entries
        · have none : iovcnt.toNat = 0 := by omega
          have counted : vectorTotal caller 0 0 = some 0 := rfl
          rw [none, counted]
          exact iff_of_false (by decide) entries
      · rw [chaosIoIovecSize_eq caller nonneg few null, if_neg null]
        cases vectorTotal caller iov iovcnt.toNat with
        | none => exact iff_of_true rfl (fun total read => nomatch read)
        | some total =>
            rw [Option.filter_some, Option.map_some, Option.getD_some]
            have word : ssizeMax = 2 ^ 63 - 1 := rfl
            have single :
                (∀ other, some total = some other →
                  other ≤ ssizeMax ∨ other % 2 ^ 64 = chaosPolicyNoSize) ↔
                total ≤ ssizeMax ∨ total % 2 ^ 64 = chaosPolicyNoSize := by
              constructor
              · intro each
                exact each total rfl
              · rintro fits other same
                cases same
                exact fits
            rw [single]
            by_cases fits : total ≤ ssizeMax
            · rw [if_pos (decide_eq_true fits), Option.getD_some]
              exact iff_of_true (by omega) (Or.inl fits)
            · rw [if_neg (by rw [decide_eq_true_eq]; exact fits),
                Option.getD_none, or_iff_right fits]
              exact eq_comm

end ChaosLibs.Io.CallSizes
