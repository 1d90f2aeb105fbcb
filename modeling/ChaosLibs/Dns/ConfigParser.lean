import ChaosLibs.Common.RulePolicy
import ChaosLibs.Dns.InetPton

/-!
# The rule lines of libchaos-dns

`chaos_dns_config_parse_line` with all its effects.  Strings are passed by value:
where the source cuts a line in place, the function receives the cut line.  The texts
of reverse selectors are made by `inet_ntop`, which the definitions take as a
parameter.
-/

namespace ChaosLibs.Dns.ConfigParser

open ChaosLibs.Common.CString
open ChaosLibs.Common.RulePolicy
open ChaosLibs.Dns.InetPton

/-! ## Rules -/

/-- `CHAOS_DNS_MAX_TEXT`. -/
def chaosDnsMaxText : Nat := 256

/-- `CHAOS_DNS_MAX_VALUE`. -/
def chaosDnsMaxValue : Nat := 512

/-- `INET6_ADDRSTRLEN`. -/
def inet6Addrstrlen : Nat := 46

/-- `AF_UNSPEC`, `AF_INET` and `AF_INET6`. -/
def afUnspec : Int := 0
def afInet : Int := 2
def afInet6 : Int := 10

/-- The `EAI_*` values of the C library that the sources name. -/
def eaiNoname : Int := -2
def eaiAgain : Int := -3
def eaiFail : Int := -4
def eaiMemory : Int := -10
def eaiSystem : Int := -11

/-- `chaos_dns_selector_kind_t`. -/
inductive ChaosDnsSelectorKind where
  | any
  | exact
  | suffix
deriving DecidableEq, Repr

/-- `chaos_dns_selector_domain_t`. -/
inductive ChaosDnsSelectorDomain where
  | lookup
  | reverse
deriving DecidableEq, Repr

/-- `chaos_dns_effect_t`. -/
inductive ChaosDnsEffect where
  | gai
  | latency
  | rewrite
  | service
  | override
  | filterFamily
  | limit
  | shuffle
deriving DecidableEq, Repr

/-- `chaos_dns_family_filter_t`. -/
inductive ChaosDnsFamilyFilter where
  | any
  | inet4
  | inet6
deriving DecidableEq, Repr

/-- `chaos_dns_selector_t`. -/
structure ChaosDnsSelector where
  kind : ChaosDnsSelectorKind
  domain : ChaosDnsSelectorDomain
  selectorLen : Nat
  text : Bytes
deriving DecidableEq, Repr

/-- The fields of `chaos_dns_rule_t` that a line determines. -/
structure ChaosDnsRule where
  selector : ChaosDnsSelector
  effect : ChaosDnsEffect
  gaiError : Int := 0
  probability : Probability := ⟨0, 1⟩
  latencyMs : Nat := 0
  limit : Nat := 0
  family : ChaosDnsFamilyFilter := .any
  text : Bytes := []
deriving DecidableEq, Repr

/-! ## Texts -/

/-- `chaos_dns_is_blank_char`. -/
def chaosDnsIsBlankChar (ch : UInt8) : Bool :=
  ch == byte ' ' || ch == byte '\t' || ch == byte '\r' || ch == byte '\n'

/-- `chaos_dns_trim`. -/
def chaosDnsTrim (text : Bytes) : Bytes :=
  (((text.dropWhile chaosDnsIsBlankChar).reverse).dropWhile
    chaosDnsIsBlankChar).reverse

/-- `chaos_dns_strip_comment`. -/
def chaosDnsStripComment (line : Bytes) : Bytes :=
  cutAt (byte '#') line

/-- `chaos_dns_copy_text_value`. -/
def chaosDnsCopyTextValue (text : Bytes) (targetSize : Nat) : Option Bytes :=
  if text = [] ∨ targetSize ≤ text.length then none else some text

/-- A text split at its first `stop` byte (`strchr`); `none` when it has none. -/
def splitAtByte (stop : UInt8) (text : Bytes) : Option (Bytes × Bytes) :=
  match text.dropWhile fun ch => ch != stop with
  | [] => none
  | _ :: rest => some (cutAt stop text, rest)

/-- A text split at its last `stop` byte (`strrchr`). -/
def splitAtLastByte (stop : UInt8) (text : Bytes) : Option (Bytes × Bytes) :=
  (splitAtByte stop text.reverse).map fun (after, before) =>
    (before.reverse, after.reverse)

/--
A text without the brackets around it: `[::1]` is `::1`.  Other texts, and `[]`, stay
as they are.
-/
def stripBrackets (token : Bytes) : Bytes :=
  if token.head? = some (byte '[') ∧ 2 < token.length ∧
      token.getLast? = some (byte ']') then
    (token.drop 1).take (token.length - 2)
  else token

/-- The tokens that a loop over `strchr(cursor, ',')` finds up to the end of a text. -/
def commaTokens : Bytes → List Bytes
  | [] => []
  | ch :: rest =>
      if ch = byte ',' then [] :: commaTokens rest
      else
        match commaTokens rest with
        | [] => [[ch]]
        | token :: others => (ch :: token) :: others

/-! ## Selectors -/

/-- The `inet_ntop` texts of the two families. -/
structure InetNtop where
  inet : Bytes → Bytes
  inet6 : Bytes → Bytes

/-- The literal of `chaos_dns_parse_reverse_selector_body`, once it has no brackets. -/
def reverseLiteral (inetNtop : InetNtop) (source : Bytes) : Option Bytes :=
  match inetPton4 source with
  | some address => some (inetNtop.inet address)
  | none => (inetPton6 source).map inetNtop.inet6

/-- `chaos_dns_parse_reverse_selector_body`: the kind and the text. -/
def chaosDnsParseReverseSelectorBody (inetNtop : InetNtop) (body : Bytes) :
    Option (ChaosDnsSelectorKind × Bytes) :=
  if body = [] then none
  else if body = bytes "*" then some (.any, [])
  else if body.head? = some (byte '[') then
    if body.length ≤ 2 ∨ body.getLast? ≠ some (byte ']') then none
    else if inet6Addrstrlen ≤ body.length - 2 then none
    else
      (reverseLiteral inetNtop (stripBrackets body)).map fun text => (.exact, text)
  else if inet6Addrstrlen ≤ body.length then none
  else (reverseLiteral inetNtop body).map fun text => (.exact, text)

/-- `chaos_dns_selector_parse`. -/
def chaosDnsSelectorParse (inetNtop : InetNtop) (text : Bytes) :
    Option ChaosDnsSelector :=
  if text = [] then none
  else if text = bytes "*" then some ⟨.any, .lookup, text.length, []⟩
  else if startsWith (bytes "dns://") text then
    let body := text.drop 6
    if body = [] then none
    else if body = bytes "*" then some ⟨.any, .lookup, text.length, []⟩
    else
      let suffix := startsWith (bytes "*.") body
      let name := if suffix then body.drop 2 else body
      if name = [] ∨ chaosDnsMaxText ≤ name.length ∨ name.contains (byte '*') then
        none
      else
        some ⟨if suffix then .suffix else .exact, .lookup, text.length, name⟩
  else if startsWith (bytes "rdns://") text then
    (chaosDnsParseReverseSelectorBody inetNtop (text.drop 7)).map
      fun (kind, name) => ⟨kind, .reverse, text.length, name⟩
  else none

/-! ## Values -/

/-- `chaos_dns_parse_latency`. -/
def chaosDnsParseLatency (text : Bytes) : Option Nat :=
  match strtoul text with
  | none => none
  | some (value, stop) =>
      if chaosDnsTrim stop ≠ [] ∨ 0xffffffff < value then none else some value

/-- `chaos_dns_parse_limit`. -/
def chaosDnsParseLimit (text : Bytes) : Option Nat :=
  match strtoul text with
  | none => none
  | some (value, stop) =>
      if chaosDnsTrim stop ≠ [] ∨ value = 0 ∨ 0xffffffff < value then none
      else some value

/-- `chaos_dns_effect_allowed`. -/
def chaosDnsEffectAllowed (selector : ChaosDnsSelector) (effect : ChaosDnsEffect) :
    Bool :=
  match selector.domain with
  | .lookup => true
  | .reverse =>
      effect == .gai || effect == .latency || effect == .rewrite ||
        effect == .service

/-- `chaos_dns_parse_family_filter`. -/
def chaosDnsParseFamilyFilter (text : Bytes) : Option ChaosDnsFamilyFilter :=
  if text = bytes "inet4" ∨ text = bytes "ipv4" then some .inet4
  else if text = bytes "inet6" ∨ text = bytes "ipv6" then some .inet6
  else if text = bytes "any" then some .any
  else none

/-- The names that `chaos_dns_parse_gai_name` knows. -/
def gaiNames : List (String × Int) :=
  [("EAI_AGAIN", eaiAgain), ("EAI_FAIL", eaiFail), ("EAI_NONAME", eaiNoname),
    ("EAI_MEMORY", eaiMemory), ("EAI_SYSTEM", eaiSystem)]

/-- `chaos_dns_parse_gai_name`. -/
def chaosDnsParseGaiName (text : Bytes) : Option Int :=
  (gaiNames.find? fun entry => bytes entry.1 == text).map Prod.snd

/-- `chaos_dns_parse_payload_probability`, with a payload buffer of `MAX_VALUE`. -/
def chaosDnsParsePayloadProbability (text : Bytes) : Option (Bytes × Probability) :=
  match splitAtLastByte (byte '@') text with
  | none =>
      (chaosDnsCopyTextValue text chaosDnsMaxValue).map fun payload =>
        (payload, ⟨1, 1⟩)
  | some (before, after) =>
      if before = [] ∨ chaosDnsMaxValue ≤ before.length then none
      else
        (chaosDnsCopyTextValue (chaosDnsTrim before) chaosDnsMaxValue).bind
          fun payload =>
            (chaosDnsCopyTextValue after 64).bind fun probabilityText =>
              (chaosPolicyParseProbability probabilityText).map fun probability =>
                (payload, probability)

/-- `chaos_dns_override_token_valid`. -/
def chaosDnsOverrideTokenValid (token : Bytes) : Bool :=
  if token = [] ∨ inet6Addrstrlen ≤ token.length then false
  else
    let host := stripBrackets token
    (inetPton4 host).isSome || (inetPton6 host).isSome

/-- `chaos_dns_validate_override_value`. -/
def chaosDnsValidateOverrideValue (text : Bytes) : Bool :=
  match chaosDnsCopyTextValue text chaosDnsMaxValue with
  | none => false
  | some buffer =>
      -- `found`: the loop has seen a token.
      !(commaTokens buffer).isEmpty &&
        (commaTokens buffer).all fun token =>
          chaosDnsOverrideTokenValid (chaosDnsTrim token)

/-! ## Lines -/

/-- `chaos_dns_split_rule_fields` up to the end of the selector: it and the rest. -/
def splitSelector (line : Bytes) : Option (Bytes × Bytes) :=
  if startsWith (bytes "*:") line then some (bytes "*", line.drop 2)
  else if startsWith (bytes "dns://") line then
    (splitAtByte (byte ':') (line.drop 6)).map fun (body, rest) =>
      (line.take 6 ++ body, rest)
  else if startsWith (bytes "rdns://[") line then
    (splitAtByte (byte ']') (line.drop 8)).bind fun (body, rest) =>
      if rest.head? = some (byte ':') then
        some (line.take 8 ++ body ++ bytes "]", rest.tail)
      else none
  else if startsWith (bytes "rdns://") line then
    (splitAtByte (byte ':') (line.drop 7)).map fun (body, rest) =>
      (line.take 7 ++ body, rest)
  else none

/-- `chaos_dns_split_rule_fields`. -/
def chaosDnsSplitRuleFields (line : Bytes) : Option (Bytes × Bytes × Bytes) :=
  (splitSelector line).bind fun (selector, rest) =>
    (splitAtByte (byte ':') rest).map fun (effect, value) =>
      (chaosDnsTrim selector, chaosDnsTrim effect, chaosDnsTrim value)

/-- The effect branches of `chaos_dns_config_parse_line`. -/
def parseEffect (selector : ChaosDnsSelector) (effect value : Bytes) :
    Option ChaosDnsRule :=
  match chaosDnsParseGaiName effect with
  | some gaiError =>
      (chaosPolicyParseProbability value).map fun probability =>
        { selector, effect := .gai, gaiError, probability }
  | none =>
      if effect = bytes "LATENCY" then
        (chaosDnsParsePayloadProbability value).bind fun (payload, probability) =>
          (chaosDnsParseLatency payload).map fun latencyMs =>
            { selector, effect := .latency, probability, latencyMs }
      else if effect = bytes "REWRITE" then
        (chaosDnsParsePayloadProbability value).bind fun (payload, probability) =>
          (chaosDnsCopyTextValue payload chaosDnsMaxValue).map fun text =>
            { selector, effect := .rewrite, probability, text }
      else if effect = bytes "SERVICE" then
        (chaosDnsParsePayloadProbability value).bind fun (payload, probability) =>
          (chaosDnsCopyTextValue payload chaosDnsMaxValue).map fun text =>
            { selector, effect := .service, probability, text }
      else if effect = bytes "OVERRIDE" then
        if chaosDnsEffectAllowed selector .override then
          (chaosDnsParsePayloadProbability value).bind fun (payload, probability) =>
            if chaosDnsValidateOverrideValue payload then
              (chaosDnsCopyTextValue payload chaosDnsMaxValue).map fun text =>
                { selector, effect := .override, probability, text }
            else none
        else none
      else if effect = bytes "FILTER_FAMILY" then
        if chaosDnsEffectAllowed selector .filterFamily then
          (chaosDnsParsePayloadProbability value).bind fun (payload, probability) =>
            (chaosDnsParseFamilyFilter payload).map fun family =>
              { selector, effect := .filterFamily, probability, family }
        else none
      else if effect = bytes "LIMIT" then
        if chaosDnsEffectAllowed selector .limit then
          (chaosDnsParsePayloadProbability value).bind fun (payload, probability) =>
            (chaosDnsParseLimit payload).map fun limit =>
              { selector, effect := .limit, probability, limit }
        else none
      else if effect = bytes "SHUFFLE" then
        if chaosDnsEffectAllowed selector .shuffle then
          (chaosPolicyParseProbability value).map fun probability =>
            { selector, effect := .shuffle, probability }
        else none
      else none

/-- The results of `chaos_dns_config_parse_line`: -1, 0 and 1 with a rule. -/
inductive ParsedLine where
  | invalid
  | blank
  | rule (rule : ChaosDnsRule)
deriving DecidableEq, Repr

/-- `chaos_dns_config_parse_line`. -/
def chaosDnsConfigParseLine (inetNtop : InetNtop) (line : Bytes) : ParsedLine :=
  let cursor := chaosDnsTrim (chaosDnsStripComment line)
  if cursor = [] then .blank
  else
    match chaosDnsSplitRuleFields cursor with
    | none => .invalid
    | some (selectorText, effectText, valueText) =>
        if selectorText = [] ∨ effectText = [] ∨ valueText = [] then .invalid
        else
          match chaosDnsSelectorParse inetNtop selectorText with
          | none => .invalid
          | some selector =>
              match parseEffect selector effectText valueText with
              | none => .invalid
              | some rule => .rule rule

end ChaosLibs.Dns.ConfigParser
