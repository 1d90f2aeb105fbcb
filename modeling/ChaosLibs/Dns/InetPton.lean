import ChaosLibs.Common.CString

/-!
# inet_pton

The address texts that `inet_pton` accepts, for `AF_INET` and `AF_INET6`, and the
address it makes of them.
-/

namespace ChaosLibs.Dns.InetPton

open ChaosLibs.Common.CString

/-- The parts of a text between the `stop` bytes. -/
def splitOnByte (stop : UInt8) : Bytes → List Bytes
  | [] => [[]]
  | ch :: rest =>
      if ch == stop then [] :: splitOnByte stop rest
      else
        match splitOnByte stop rest with
        | [] => [[ch]]
        | part :: parts => (ch :: part) :: parts

/-! ## IPv4 -/

/-- One number of a dotted quad: decimal, at most 255, without leading zeros. -/
def quadByte (part : Bytes) : Option UInt8 :=
  if part ≠ [] ∧ part.all isDigit ∧
      (part.length = 1 ∨ part.head? ≠ some (byte '0')) ∧ decimal part ≤ 255 then
    some (UInt8.ofNat (decimal part))
  else none

/-- `inet_pton(AF_INET, text, address)`. -/
def inetPton4 (text : Bytes) : Option Bytes :=
  match splitOnByte (byte '.') text with
  | [first, second, third, fourth] =>
      [first, second, third, fourth].mapM quadByte
  | _ => none

/-! ## IPv6 -/

/-- A hexadecimal digit. -/
def isHexDigit (ch : UInt8) : Bool :=
  isDigit ch || byte 'a' ≤ ch && ch ≤ byte 'f' || byte 'A' ≤ ch && ch ≤ byte 'F'

/-- The value of a hexadecimal digit. -/
def hexValue (ch : UInt8) : Nat :=
  if isDigit ch then digitValue ch
  else if ch ≤ byte 'F' then ch.toNat - (byte 'A').toNat + 10
  else ch.toNat - (byte 'a').toNat + 10

/-- One group of an IPv6 address: one to four hexadecimal digits, as two bytes. -/
def hexGroup (part : Bytes) : Option Bytes :=
  if part ≠ [] ∧ part.length ≤ 4 ∧ part.all isHexDigit then
    let value := part.foldl (fun value ch => value * 16 + hexValue ch) 0
    some [UInt8.ofNat (value / 256), UInt8.ofNat value]
  else none

/-- The bytes of groups; the last may be a dotted quad when `quad` is set. -/
def groupBytes (quad : Bool) : List Bytes → Option Bytes
  | [] => some []
  | [part] =>
      if quad && part.contains (byte '.') then inetPton4 part else hexGroup part
  | part :: rest =>
      (hexGroup part).bind fun group =>
        (groupBytes quad rest).map fun address => group ++ address

/-- The groups on one side of a `::`, of which there may be none. -/
def sideBytes (quad : Bool) (text : Bytes) : Option Bytes :=
  if text = [] then some [] else groupBytes quad (splitOnByte (byte ':') text)

/-- A text split at its first `::`. -/
def splitAtGap : Bytes → Option (Bytes × Bytes)
  | [] => none
  | ch :: rest =>
      if ch == byte ':' && rest.head? == some (byte ':') then some ([], rest.tail)
      else (splitAtGap rest).map fun sides => (ch :: sides.1, sides.2)

/-- `inet_pton(AF_INET6, text, address)`. -/
def inetPton6 (text : Bytes) : Option Bytes :=
  match splitAtGap text with
  | none =>
      (sideBytes true text).bind fun address =>
        if address.length = 16 then some address else none
  | some (left, right) =>
      (sideBytes false left).bind fun before =>
        (sideBytes true right).bind fun after =>
          -- A `::` stands for at least one group.
          if before.length + after.length ≤ 14 then
            some
              (before ++ List.replicate (16 - (before.length + after.length)) 0 ++
                after)
          else none

example : inetPton4 (bytes "192.168.1.1") = some [192, 168, 1, 1] := by decide

example : inetPton6 (bytes "::1") = some (List.replicate 15 0 ++ [1]) := by decide

/-! ## The bytes of an address text -/

/-- The bytes that an accepted text may have. -/
def isAddressByte (ch : UInt8) : Bool :=
  isHexDigit ch || ch == byte '.' || ch == byte ':'

theorem mem_splitOnByte
    {stop ch : UInt8} {text : Bytes} (member : ch ∈ text) :
    ch = stop ∨ ∃ part ∈ splitOnByte stop text, ch ∈ part := by
  induction text with
  | nil => cases member
  | cons head rest induction =>
      by_cases stops : head = stop
      · rcases List.mem_cons.mp member with rfl | later
        · exact Or.inl stops
        · rcases induction later with same | ⟨part, inside, found⟩
          · exact Or.inl same
          · refine Or.inr ⟨part, ?_, found⟩
            simp only [splitOnByte, beq_iff_eq, if_pos stops]
            exact List.mem_cons_of_mem _ inside
      · have split : splitOnByte stop (head :: rest) =
            match splitOnByte stop rest with
            | [] => [[head]]
            | part :: parts => (head :: part) :: parts := by
          simp only [splitOnByte, beq_iff_eq, if_neg stops]
        rw [split]
        rcases List.mem_cons.mp member with rfl | later
        · cases splitOnByte stop rest with
          | nil => exact Or.inr ⟨[ch], List.mem_cons_self, List.mem_cons_self⟩
          | cons part parts =>
              exact Or.inr ⟨ch :: part, List.mem_cons_self, List.mem_cons_self⟩
        · rcases induction later with same | ⟨part, inside, found⟩
          · exact Or.inl same
          · cases parts : splitOnByte stop rest with
            | nil =>
                rw [parts] at inside
                cases inside
            | cons first others =>
                rw [parts] at inside
                rcases List.mem_cons.mp inside with rfl | inOthers
                · exact Or.inr
                    ⟨head :: part, List.mem_cons_self,
                      List.mem_cons_of_mem _ found⟩
                · exact Or.inr
                    ⟨part, List.mem_cons_of_mem _ inOthers, found⟩

theorem isAddressByte_of_isHexDigit {ch : UInt8} (hex : isHexDigit ch = true) :
    isAddressByte ch = true := by
  simp [isAddressByte, hex]

theorem isAddressByte_of_quadByte
    {part : Bytes} {value : UInt8} (accepted : quadByte part = some value)
    {ch : UInt8} (member : ch ∈ part) : isAddressByte ch = true := by
  dsimp only [quadByte] at accepted
  split at accepted
  · rename_i valid
    have digit := List.all_eq_true.mp valid.2.1 ch member
    exact isAddressByte_of_isHexDigit (by simp [isHexDigit, digit])
  · cases accepted

theorem isAddressByte_of_hexGroup
    {part group : Bytes} (accepted : hexGroup part = some group)
    {ch : UInt8} (member : ch ∈ part) : isAddressByte ch = true := by
  dsimp only [hexGroup] at accepted
  split at accepted
  · rename_i valid
    exact isAddressByte_of_isHexDigit (List.all_eq_true.mp valid.2.2 ch member)
  · cases accepted

/-- A part of a list that `mapM` goes through is accepted. -/
theorem exists_of_mapM_eq_some
    {check : Bytes → Option UInt8} {parts : List Bytes} {values : Bytes}
    (accepted : parts.mapM check = some values)
    {part : Bytes} (member : part ∈ parts) : ∃ value, check part = some value := by
  induction parts generalizing values with
  | nil => cases member
  | cons head rest induction =>
      rw [List.mapM_cons] at accepted
      rcases Option.bind_eq_some_iff.mp accepted with ⟨value, here, later⟩
      rcases Option.bind_eq_some_iff.mp later with ⟨others, there, -⟩
      rcases List.mem_cons.mp member with rfl | inRest
      · exact ⟨value, here⟩
      · exact induction there inRest

theorem isAddressByte_of_inetPton4
    {text address : Bytes} (accepted : inetPton4 text = some address)
    {ch : UInt8} (member : ch ∈ text) : isAddressByte ch = true := by
  rcases @mem_splitOnByte (byte '.') ch text member with rfl | ⟨part, inside, found⟩
  · decide
  · dsimp only [inetPton4] at accepted
    split at accepted
    · rename_i first second third fourth parts
      rw [parts] at inside
      rcases exists_of_mapM_eq_some accepted inside with ⟨value, valid⟩
      exact isAddressByte_of_quadByte valid found
    · cases accepted

theorem isAddressByte_of_groupBytes
    {quad : Bool} {parts : List Bytes} {address : Bytes}
    (accepted : groupBytes quad parts = some address)
    {part : Bytes} (inside : part ∈ parts)
    {ch : UInt8} (member : ch ∈ part) : isAddressByte ch = true := by
  induction parts generalizing address with
  | nil => cases inside
  | cons head rest induction =>
      cases rest with
      | nil =>
          cases List.mem_singleton.mp inside
          dsimp only [groupBytes] at accepted
          split at accepted
          · exact isAddressByte_of_inetPton4 accepted member
          · exact isAddressByte_of_hexGroup accepted member
      | cons second others =>
          rcases Option.bind_eq_some_iff.mp accepted with ⟨group, here, later⟩
          rcases Option.map_eq_some_iff.mp later with ⟨bytesLater, there, -⟩
          rcases List.mem_cons.mp inside with rfl | inRest
          · exact isAddressByte_of_hexGroup here member
          · exact induction there inRest

theorem isAddressByte_of_sideBytes
    {quad : Bool} {text address : Bytes}
    (accepted : sideBytes quad text = some address)
    {ch : UInt8} (member : ch ∈ text) : isAddressByte ch = true := by
  dsimp only [sideBytes] at accepted
  split at accepted
  · rename_i empty
    rw [empty] at member
    cases member
  · rcases @mem_splitOnByte (byte ':') ch text member with
      rfl | ⟨part, inside, found⟩
    · decide
    · exact isAddressByte_of_groupBytes accepted inside found

theorem mem_splitAtGap
    {text left right : Bytes} (split : splitAtGap text = some (left, right))
    {ch : UInt8} (member : ch ∈ text) :
    ch ∈ left ∨ ch = byte ':' ∨ ch ∈ right := by
  induction text generalizing left with
  | nil => cases member
  | cons head rest induction =>
      dsimp only [splitAtGap] at split
      split at split
      · rename_i gap
        rw [Bool.and_eq_true, beq_iff_eq, beq_iff_eq] at gap
        cases split
        rcases List.mem_cons.mp member with rfl | later
        · exact Or.inr (Or.inl gap.1)
        · cases rest with
          | nil => cases later
          | cons second others =>
              rcases List.mem_cons.mp later with rfl | inOthers
              · exact Or.inr (Or.inl (Option.some.inj gap.2))
              · exact Or.inr (Or.inr inOthers)
      · rcases Option.map_eq_some_iff.mp split with ⟨sides, inner, same⟩
        cases same
        rcases List.mem_cons.mp member with rfl | later
        · exact Or.inl List.mem_cons_self
        · rcases induction inner later with inLeft | other
          · exact Or.inl (List.mem_cons_of_mem _ inLeft)
          · exact Or.inr other

theorem isAddressByte_of_inetPton6
    {text address : Bytes} (accepted : inetPton6 text = some address)
    {ch : UInt8} (member : ch ∈ text) : isAddressByte ch = true := by
  dsimp only [inetPton6] at accepted
  split at accepted
  · rcases Option.bind_eq_some_iff.mp accepted with ⟨whole, sides, -⟩
    exact isAddressByte_of_sideBytes sides member
  · rename_i left right gap
    rcases Option.bind_eq_some_iff.mp accepted with ⟨before, leftBytes, later⟩
    rcases Option.bind_eq_some_iff.mp later with ⟨after, rightBytes, -⟩
    rcases mem_splitAtGap gap member with inLeft | rfl | inRight
    · exact isAddressByte_of_sideBytes leftBytes inLeft
    · decide
    · exact isAddressByte_of_sideBytes rightBytes inRight

end ChaosLibs.Dns.InetPton
