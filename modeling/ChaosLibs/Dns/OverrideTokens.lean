import ChaosLibs.Dns.ConfigParser

/-!
# The two readings of an OVERRIDE value

The lookup splits the value of a rule once more, with other trimming than the
validator of the parser: it removes the blanks before a literal, and not the ones
after it.
-/

namespace ChaosLibs.Dns.OverrideTokens

open ChaosLibs.Common.CString
open ChaosLibs.Dns.ConfigParser
open ChaosLibs.Dns.InetPton

/-- `CHAOS_DNS_MAX_OVERRIDE`. -/
def chaosDnsMaxOverride : Nat := 32

/-- `chaos_dns_strip_ipv6_brackets`. -/
def chaosDnsStripIpv6Brackets (token : Bytes) (hostSize : Nat) : Option Bytes :=
  if token = [] then none
  else if hostSize ≤ (stripBrackets token).length then none
  else some (stripBrackets token)

/-- `chaos_dns_literal_family`. -/
def chaosDnsLiteralFamily (host : Bytes) : Int :=
  if (inetPton4 host).isSome then afInet
  else if (inetPton6 host).isSome then afInet6
  else 0

/-- The host that the lookup makes of a token. -/
def lookupHost (token : Bytes) : Option Bytes :=
  chaosDnsStripIpv6Brackets (token.dropWhile chaosDnsIsBlankChar) chaosDnsMaxText

/-- The literal that a token of the rule is. -/
def literal (token : Bytes) : Bytes :=
  stripBrackets (chaosDnsTrim token)

/-- The literals that a rule lists. -/
def overrideLiterals (text : Bytes) : List Bytes :=
  (commaTokens text).map literal

/-- No literal is followed by a blank. -/
def Unpadded (text : Bytes) : Prop :=
  ∀ token ∈ commaTokens text, ∀ ch ∈ token.getLast?, chaosDnsIsBlankChar ch = false

variable {token host : Bytes}

/-- A trimmed text is the text without the blanks before it, if none are after it. -/
theorem chaosDnsTrim_of_unpadded
    (unpadded : ∀ ch ∈ token.getLast?, chaosDnsIsBlankChar ch = false) :
    chaosDnsTrim token = token.dropWhile chaosDnsIsBlankChar := by
  dsimp only [chaosDnsTrim]
  have same : (token.dropWhile chaosDnsIsBlankChar).reverse.dropWhile
      chaosDnsIsBlankChar = (token.dropWhile chaosDnsIsBlankChar).reverse := by
    cases reversed : (token.dropWhile chaosDnsIsBlankChar).reverse with
    | nil => rfl
    | cons last others =>
        have suffix : token.dropWhile chaosDnsIsBlankChar <:+ token :=
          List.dropWhile_suffix _
        have ends : token.getLast? = some last := by
          rw [← List.head?_reverse]
          rcases suffix with ⟨blanks, split⟩
          rw [← split, List.reverse_append, reversed]
          rfl
        have keeps := unpadded last ends
        rw [List.dropWhile_cons_of_neg (by rw [keeps]; exact Bool.false_ne_true)]
  rw [same, List.reverse_reverse]

/-- What the validator says of a token. -/
theorem of_tokenValid (valid : chaosDnsOverrideTokenValid token = true) :
    token ≠ [] ∧ token.length < inet6Addrstrlen ∧
      chaosDnsLiteralFamily (stripBrackets token) ≠ 0 := by
  dsimp only [chaosDnsOverrideTokenValid] at valid
  split at valid
  · cases valid
  · rename_i fits
    rcases not_or.mp fits with ⟨notEmpty, short⟩
    refine ⟨notEmpty, Nat.lt_of_not_le short, ?_⟩
    rcases (Bool.or_eq_true _ _).mp valid with inet | inet6
    · dsimp only [chaosDnsLiteralFamily]
      rw [if_pos inet]
      decide
    · dsimp only [chaosDnsLiteralFamily]
      rw [if_pos inet6]
      split <;> decide

theorem length_stripBrackets (token : Bytes) :
    (stripBrackets token).length ≤ token.length := by
  dsimp only [stripBrackets]
  split
  · rw [List.length_take]
    exact (min_le_left _ _).trans (Nat.sub_le _ _)
  · exact Nat.le_refl _

/-- The lookup reads the literal of a token that no blank follows. -/
theorem lookupHost_of_unpadded
    (valid : chaosDnsOverrideTokenValid (chaosDnsTrim token) = true)
    (unpadded : ∀ ch ∈ token.getLast?, chaosDnsIsBlankChar ch = false) :
    lookupHost token = some (literal token) := by
  rcases of_tokenValid valid with ⟨notEmpty, short, -⟩
  have fits : ¬ chaosDnsMaxText ≤ (stripBrackets (chaosDnsTrim token)).length := by
    refine Nat.not_le.mpr ((length_stripBrackets _).trans_lt (short.trans ?_))
    decide
  dsimp only [lookupHost, literal]
  rw [← chaosDnsTrim_of_unpadded unpadded]
  dsimp only [chaosDnsStripIpv6Brackets]
  rw [if_neg notEmpty, if_neg fits]

theorem isAddressByte_of_blank {ch : UInt8} (blank : chaosDnsIsBlankChar ch = true) :
    isAddressByte ch = false := by
  simp only [chaosDnsIsBlankChar, Bool.or_eq_true, beq_iff_eq] at blank
  rcases blank with ((rfl | rfl) | rfl) | rfl <;> decide

/-- A text with a blank is no literal. -/
theorem chaosDnsLiteralFamily_of_blank
    {ch : UInt8} (member : ch ∈ host) (blank : chaosDnsIsBlankChar ch = true) :
    chaosDnsLiteralFamily host = 0 := by
  have notByte := isAddressByte_of_blank blank
  have none4 : ¬ (inetPton4 host).isSome := by
    intro accepted
    rcases Option.isSome_iff_exists.mp accepted with ⟨address, found⟩
    have isByte := isAddressByte_of_inetPton4 found member
    rw [notByte] at isByte
    cases isByte
  have none6 : ¬ (inetPton6 host).isSome := by
    intro accepted
    rcases Option.isSome_iff_exists.mp accepted with ⟨address, found⟩
    have isByte := isAddressByte_of_inetPton6 found member
    rw [notByte] at isByte
    cases isByte
  dsimp only [chaosDnsLiteralFamily]
  rw [if_neg none4, if_neg none6]

/-- What the lookup reads of a token that a blank follows is no literal. -/
theorem lookupHost_of_padded
    {ch : UInt8} (padded : token.getLast? = some ch)
    (blank : chaosDnsIsBlankChar ch = true) (found : lookupHost token = some host) :
    chaosDnsLiteralFamily host = 0 := by
  dsimp only [lookupHost, chaosDnsStripIpv6Brackets] at found
  split at found
  · cases found
  · rename_i notEmpty
    split at found
    · cases found
    · cases found
      have ends : (token.dropWhile chaosDnsIsBlankChar).getLast? = some ch := by
        rcases List.dropWhile_suffix (p := chaosDnsIsBlankChar) (l := token) with
          ⟨blanks, split⟩
        rw [← split, List.getLast?_append_of_ne_nil _ notEmpty] at padded
        exact padded
      have notBracket : ch ≠ byte ']' := by
        rintro rfl
        cases blank
      have kept : stripBrackets (token.dropWhile chaosDnsIsBlankChar) =
          token.dropWhile chaosDnsIsBlankChar := by
        refine if_neg fun bracketed => notBracket ?_
        exact Option.some.inj (ends.symm.trans bracketed.2.2)
      rw [kept]
      exact chaosDnsLiteralFamily_of_blank (List.mem_of_getLast? ends) blank

end ChaosLibs.Dns.OverrideTokens
