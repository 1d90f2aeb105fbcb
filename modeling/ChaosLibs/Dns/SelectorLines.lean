import ChaosLibs.Dns.EffectValues
import ChaosLibs.Dns.OverrideTokens

/-!
# Selectors in rule lines

A line is cut at a `:` that depends on the scheme of its selector, before the selector
is parsed.  The forms of the selectors that `chaos_dns_selector_parse` accepts, and
which of them the cut of `chaos_dns_split_rule_fields` leaves whole.
-/

namespace ChaosLibs.Dns.SelectorLines

open ChaosLibs.Common.CString
open ChaosLibs.Common.RulePolicy
open ChaosLibs.Dns.ConfigParser
open ChaosLibs.Dns.EffectValues
open ChaosLibs.Dns.InetPton
open ChaosLibs.Dns.OverrideTokens

/-! ## Texts -/

/-- A text that a field of a line can be: no comment in it and no blanks around it. -/
structure IsField (text : Bytes) : Prop where
  noComment : byte '#' ∉ text
  unindented : ∀ ch ∈ text.head?, chaosDnsIsBlankChar ch = false
  unpadded : ∀ ch ∈ text.getLast?, chaosDnsIsBlankChar ch = false

theorem startsWith_append (literal rest : Bytes) :
    startsWith literal (literal ++ rest) = true :=
  List.isPrefixOf_iff_prefix.mpr (List.prefix_append literal rest)

theorem exists_of_startsWith
    {literal text : Bytes} (starts : startsWith literal text = true) :
    ∃ rest, text = literal ++ rest := by
  rcases List.isPrefixOf_iff_prefix.mp starts with ⟨rest, same⟩
  exact ⟨rest, same.symm⟩

/-- A text is cut at its first `stop` byte. -/
theorem splitAtByte_append
    {stop : UInt8} {before : Bytes} (clean : stop ∉ before) (after : Bytes) :
    splitAtByte stop (before ++ stop :: after) = some (before, after) := by
  have passes : ∀ ch ∈ before, (ch != stop) = true := by
    intro ch member
    exact bne_iff_ne.mpr fun same => clean (same ▸ member)
  have stops : (stop != stop) = false := bne_self_eq_false' stop
  have rest : (before ++ stop :: after).dropWhile (fun ch => ch != stop) =
      stop :: after := by
    rw [List.dropWhile_append_of_pos passes, List.dropWhile_cons_of_neg (by simp)]
  have first : cutAt stop (before ++ stop :: after) = before := by
    rw [cutAt, List.takeWhile_append_of_pos passes,
      List.takeWhile_cons_of_neg (by simp), List.append_nil]
  rw [splitAtByte, rest, first]

theorem chaosDnsTrim_of_field
    {text : Bytes}
    (unindented : ∀ ch ∈ text.head?, chaosDnsIsBlankChar ch = false)
    (unpadded : ∀ ch ∈ text.getLast?, chaosDnsIsBlankChar ch = false) :
    chaosDnsTrim text = text := by
  rw [chaosDnsTrim_of_unpadded unpadded]
  cases text with
  | nil => rfl
  | cons first rest =>
      have keeps := unindented first rfl
      rw [List.dropWhile_cons_of_neg (by rw [keeps]; exact Bool.false_ne_true)]

theorem IsField.trim {text : Bytes} (field : IsField text) :
    chaosDnsTrim text = text :=
  chaosDnsTrim_of_field field.unindented field.unpadded

/-- Fields with a `:` between them make a field. -/
theorem IsField.join
    {left right : Bytes} (first : IsField left) (second : IsField right)
    (leftNotEmpty : left ≠ []) (rightNotEmpty : right ≠ []) :
    IsField (left ++ byte ':' :: right) where
  noComment member := by
    rcases List.mem_append.mp member with inLeft | inRight
    · exact first.noComment inLeft
    · rcases List.mem_cons.mp inRight with colon | later
      · exact absurd colon (by decide)
      · exact second.noComment later
  unindented ch member := by
    rw [List.head?_append_of_ne_nil _ leftNotEmpty] at member
    exact first.unindented ch member
  unpadded ch member := by
    rw [List.getLast?_append_of_ne_nil _ (List.cons_ne_nil _ _),
      List.getLast?_cons_of_ne_nil rightNotEmpty] at member
    exact second.unpadded ch member

theorem isField_of_clean
    {text : Bytes}
    (clean : ∀ ch ∈ text, ch ≠ byte '#' ∧ chaosDnsIsBlankChar ch = false) :
    IsField text where
  noComment member := (clean _ member).1 rfl
  unindented ch member := (clean ch (List.mem_of_mem_head? member)).2
  unpadded ch member := (clean ch (List.mem_of_getLast? member)).2

/-! ## Forms of selectors -/

/-- The bytes of a literal. -/
def IsLiteral (host : Bytes) : Prop :=
  host ≠ [] ∧ ∀ ch ∈ host, isAddressByte ch = true

/-- The forms of an accepted selector text. -/
inductive SelectorForm : Bytes → Prop where
  | star : SelectorForm (bytes "*")
  | name (name : Bytes) : SelectorForm (bytes "dns://" ++ name)
  | reverseAny : SelectorForm (bytes "rdns://*")
  | bracketed {host : Bytes} (literal : IsLiteral host) :
      SelectorForm (bytes "rdns://[" ++ (host ++ [byte ']']))
  | bare {host : Bytes} (literal : IsLiteral host) :
      SelectorForm (bytes "rdns://" ++ host)

/-- A `dns://` name as documented: none of its bytes ends a field or is cut off. -/
def DocumentedName (text : Bytes) : Prop :=
  ∀ name, text = bytes "dns://" ++ name →
    ∀ ch ∈ name, ch ≠ byte ':' ∧ ch ≠ byte '#' ∧ chaosDnsIsBlankChar ch = false

/-- A reverse selector whose literal has a `:` and no brackets. -/
def bareIpv6 (text : Bytes) : Bool :=
  startsWith (bytes "rdns://") text && !startsWith (bytes "rdns://[") text &&
    (text.drop 7).contains (byte ':')

theorem isLiteral_of_reverseLiteral
    {inetNtop : InetNtop} {source text : Bytes}
    (accepted : reverseLiteral inetNtop source = some text) : IsLiteral source := by
  constructor
  · rintro rfl
    cases accepted
  · intro ch member
    unfold reverseLiteral at accepted
    split at accepted
    · rename_i address found
      exact isAddressByte_of_inetPton4 found member
    · rcases Option.map_eq_some_iff.mp accepted with ⟨address, found, -⟩
      exact isAddressByte_of_inetPton6 found member

/-- A bracketed text is its literal with the brackets around it. -/
theorem eq_of_brackets
    {body : Bytes} (opens : body.head? = some (byte '[')) (long : 2 < body.length)
    (closes : body.getLast? = some (byte ']')) :
    body = byte '[' :: (stripBrackets body ++ [byte ']']) := by
  rcases List.head?_eq_some_iff.mp opens with ⟨rest, rfl⟩
  have restNotEmpty : rest ≠ [] := by
    rintro rfl
    simp at long
  rw [List.getLast?_cons_of_ne_nil restNotEmpty] at closes
  rcases List.getLast?_eq_some_iff.mp closes with ⟨host, rfl⟩
  have inner : stripBrackets (byte '[' :: (host ++ [byte ']'])) = host := by
    rw [stripBrackets, if_pos]
    · have size : (byte '[' :: (host ++ [byte ']'])).length - 2 = host.length := by
        simp
      rw [size, List.drop_one, List.tail_cons, List.take_left]
    · refine ⟨rfl, long, ?_⟩
      rw [List.getLast?_cons_of_ne_nil restNotEmpty]
      exact closes
  rw [inner]

theorem selectorForm_of_parse
    {inetNtop : InetNtop} {text : Bytes} {selector : ChaosDnsSelector}
    (accepted : chaosDnsSelectorParse inetNtop text = some selector) :
    SelectorForm text := by
  unfold chaosDnsSelectorParse at accepted
  split at accepted
  · cases accepted
  · split at accepted
    · rename_i star
      rw [star]
      exact .star
    · split at accepted
      · rename_i scheme
        rcases exists_of_startsWith scheme with ⟨name, rfl⟩
        exact .name name
      · split at accepted
        · rename_i scheme
          rcases exists_of_startsWith scheme with ⟨body, rfl⟩
          rcases Option.map_eq_some_iff.mp accepted with ⟨parsed, reverse, -⟩
          rw [List.drop_left' (by decide)] at reverse
          unfold chaosDnsParseReverseSelectorBody at reverse
          split at reverse
          · cases reverse
          · split at reverse
            · rename_i star
              rw [star]
              exact .reverseAny
            · split at reverse
              · rename_i opens
                split at reverse
                · cases reverse
                · rename_i closed
                  rcases not_or.mp closed with ⟨long, closes⟩
                  split at reverse
                  · cases reverse
                  · rcases Option.map_eq_some_iff.mp reverse with ⟨host, found, -⟩
                    rw [eq_of_brackets opens (by omega) (not_not.mp closes)]
                    exact .bracketed (isLiteral_of_reverseLiteral found)
              · split at reverse
                · cases reverse
                · rcases Option.map_eq_some_iff.mp reverse with ⟨host, found, -⟩
                  exact .bare (isLiteral_of_reverseLiteral found)
        · cases accepted

theorem selectorLen_of_parse
    {inetNtop : InetNtop} {text : Bytes} {selector : ChaosDnsSelector}
    (accepted : chaosDnsSelectorParse inetNtop text = some selector) :
    selector.selectorLen = text.length := by
  unfold chaosDnsSelectorParse at accepted
  split at accepted
  · cases accepted
  · split at accepted
    · cases accepted
      rfl
    · split at accepted
      · dsimp only at accepted
        split at accepted
        · cases accepted
        · split at accepted
          · cases accepted
            rfl
          · generalize (if startsWith (bytes "*.") (text.drop 6) = true
              then (text.drop 6).drop 2 else text.drop 6) = name at accepted
            split at accepted
            · cases accepted
            · cases accepted
              rfl
      · split at accepted
        · rcases Option.map_eq_some_iff.mp accepted with ⟨parsed, -, rfl⟩
          rfl
        · cases accepted

/-! ## The cut -/

/-- What the brackets decide of a text that starts with the scheme. -/
theorem startsWith_bracket (ch : UInt8) (rest : Bytes) :
    startsWith (bytes "rdns://[") (bytes "rdns://" ++ ch :: rest) = (byte '[' == ch) := by
  have scheme : startsWith (bytes "rdns://[") (bytes "rdns://" ++ ch :: rest) =
      ((byte '[' == ch) && true) := rfl
  rw [scheme, Bool.and_true]

theorem ne_bracket_of_isAddressByte {ch : UInt8} (valid : isAddressByte ch = true) :
    (byte '[' == ch) = false ∧ ch ≠ byte ']' := by
  constructor
  · refine beq_eq_false_iff_ne.mpr ?_
    rintro rfl
    exact absurd valid (by decide)
  · rintro rfl
    exact absurd valid (by decide)

/-- A literal without brackets is cut at its first `:`, or after it. -/
theorem splitSelector_bare
    {host : Bytes} (literal : IsLiteral host) {before after : Bytes} {rest : Bytes}
    (first : host ++ byte ':' :: rest = before ++ byte ':' :: after)
    (clean : byte ':' ∉ before) :
    splitSelector (bytes "rdns://" ++ host ++ byte ':' :: rest) =
      some (bytes "rdns://" ++ before, after) := by
  have noBracket :
      startsWith (bytes "rdns://[") (bytes "rdns://" ++ (host ++ byte ':' :: rest)) =
        false := by
    rcases List.exists_cons_of_ne_nil literal.1 with ⟨ch, others, rfl⟩
    rw [List.cons_append, startsWith_bracket]
    exact (ne_bracket_of_isAddressByte (literal.2 ch List.mem_cons_self)).1
  rw [List.append_assoc, splitSelector, if_neg (by simp [startsWith, bytes]),
    if_neg (by simp [startsWith, bytes]), noBracket,
    if_neg Bool.false_ne_true, startsWith_append, if_pos rfl,
    List.drop_left' (by decide), List.take_left' (by decide), first,
    splitAtByte_append clean]
  rfl

/-- The cut leaves every accepted selector whole that is no bare IPv6 literal. -/
theorem splitSelector_of_form
    {text : Bytes} (form : SelectorForm text) (documented : DocumentedName text)
    (bracketed : bareIpv6 text = false) (rest : Bytes) :
    splitSelector (text ++ byte ':' :: rest) = some (text, rest) := by
  cases form with
  | star => rfl
  | name name =>
      have clean : byte ':' ∉ name := fun member => (documented name rfl _ member).1 rfl
      rw [List.append_assoc, splitSelector, if_neg (by simp [startsWith, bytes]),
        startsWith_append, if_pos rfl, List.drop_left' (by decide),
        List.take_left' (by decide), splitAtByte_append clean]
      rfl
  | reverseAny => rfl
  | @bracketed host literal =>
      have clean : byte ']' ∉ host := fun member =>
        (ne_bracket_of_isAddressByte (literal.2 _ member)).2 rfl
      have line : bytes "rdns://[" ++ (host ++ [byte ']']) ++ byte ':' :: rest =
          bytes "rdns://[" ++ (host ++ byte ']' :: byte ':' :: rest) := by
        simp
      rw [line, splitSelector, if_neg (by simp [startsWith, bytes]),
        if_neg (by simp [startsWith, bytes]), startsWith_append, if_pos rfl,
        List.drop_left' (by decide), List.take_left' (by decide),
        splitAtByte_append clean, Option.bind_some]
      dsimp only
      rw [List.head?_cons, if_pos rfl, List.append_assoc]
      rfl
  | @bare host literal =>
      have clean : byte ':' ∉ host := by
        intro member
        rcases List.exists_cons_of_ne_nil literal.1 with ⟨ch, others, rfl⟩
        have noBracket := (ne_bracket_of_isAddressByte (literal.2 ch List.mem_cons_self)).1
        rw [bareIpv6, startsWith_append, startsWith_bracket, noBracket,
          List.drop_left' (by decide), List.contains_iff_mem.mpr member] at bracketed
        cases bracketed
      exact splitSelector_bare literal rfl clean

/-- A bare IPv6 literal loses everything from its first `:` on. -/
theorem splitSelector_of_bareIpv6
    {text : Bytes} (form : SelectorForm text) (unbracketed : bareIpv6 text = true)
    (rest : Bytes) :
    ∃ short after, splitSelector (text ++ byte ':' :: rest) = some (short, after) ∧
      short.length < text.length := by
  simp only [bareIpv6, Bool.and_eq_true, Bool.not_eq_true'] at unbracketed
  rcases unbracketed with ⟨⟨scheme, noBracket⟩, colon⟩
  cases form with
  | star => cases scheme
  | name name => exact absurd scheme (by simp [startsWith, bytes])
  | reverseAny => exact absurd colon (by decide)
  | bracketed literal =>
      rw [startsWith_append] at noBracket
      cases noBracket
  | @bare host literal =>
      rw [List.drop_left' (by decide)] at colon
      rcases List.eq_append_cons_of_mem (List.contains_iff_mem.mp colon) with
        ⟨before, after, split, clean⟩
      refine ⟨bytes "rdns://" ++ before, after ++ byte ':' :: rest,
        splitSelector_bare literal ?_ clean, ?_⟩
      · rw [split, List.append_assoc, List.cons_append]
      · rw [split]
        simp

/-! ## Fields -/

theorem clean_of_isAddressByte {ch : UInt8} (valid : isAddressByte ch = true) :
    ch ≠ byte '#' ∧ chaosDnsIsBlankChar ch = false := by
  constructor
  · rintro rfl
    exact absurd valid (by decide)
  · refine Bool.eq_false_iff.mpr fun blank => ?_
    rw [isAddressByte_of_blank blank] at valid
    cases valid

theorem clean_append
    {scheme rest : Bytes}
    (first : ∀ ch ∈ scheme, ch ≠ byte '#' ∧ chaosDnsIsBlankChar ch = false)
    (second : ∀ ch ∈ rest, ch ≠ byte '#' ∧ chaosDnsIsBlankChar ch = false) :
    ∀ ch ∈ scheme ++ rest, ch ≠ byte '#' ∧ chaosDnsIsBlankChar ch = false := by
  intro ch member
  rcases List.mem_append.mp member with inScheme | inRest
  · exact first ch inScheme
  · exact second ch inRest

/-- An accepted selector is a field of a line. -/
theorem isField_of_form
    {text : Bytes} (form : SelectorForm text) (documented : DocumentedName text) :
    IsField text := by
  apply isField_of_clean
  cases form with
  | star => decide +kernel
  | name name =>
      refine clean_append (by decide +kernel) ?_
      exact fun ch member => (documented name rfl ch member).2
  | reverseAny => decide +kernel
  | bracketed literal =>
      refine clean_append (by decide +kernel) (clean_append ?_ (by decide +kernel))
      exact fun ch inHost => clean_of_isAddressByte (literal.2 ch inHost)
  | bare literal =>
      refine clean_append (by decide +kernel) ?_
      exact fun ch inHost => clean_of_isAddressByte (literal.2 ch inHost)

theorem ne_nil_of_form {text : Bytes} (form : SelectorForm text) : text ≠ [] := by
  cases form <;> exact List.cons_ne_nil _ _

section Effects

variable {selector : ChaosDnsSelector} {effect value : Bytes} {rule : ChaosDnsRule}

/-- The keyword of an effect is a field without a `:`. -/
theorem isField_of_denotes (denoted : Denotes selector effect value rule) :
    IsField effect ∧ effect ≠ [] ∧ byte ':' ∉ effect := by
  have keyword : ∀ literal ∈ ["EAI_AGAIN", "EAI_FAIL", "EAI_NONAME", "EAI_MEMORY",
      "EAI_SYSTEM", "LATENCY", "REWRITE", "SERVICE", "OVERRIDE", "FILTER_FAMILY",
      "LIMIT", "SHUFFLE"],
      (∀ ch ∈ bytes literal, ch ≠ byte '#' ∧ chaosDnsIsBlankChar ch = false) ∧
        bytes literal ≠ [] ∧ byte ':' ∉ bytes literal := by
    decide +kernel
  have field : ∃ literal ∈ ["EAI_AGAIN", "EAI_FAIL", "EAI_NONAME", "EAI_MEMORY",
      "EAI_SYSTEM", "LATENCY", "REWRITE", "SERVICE", "OVERRIDE", "FILTER_FAMILY",
      "LIMIT", "SHUFFLE"], effect = bytes literal := by
    cases denoted with
    | gai known =>
        simp only [gaiNames, List.mem_cons, List.not_mem_nil, or_false, Prod.mk.injEq]
          at known
        rcases known with ⟨rfl, -⟩ | ⟨rfl, -⟩ | ⟨rfl, -⟩ | ⟨rfl, -⟩ | ⟨rfl, -⟩ <;>
          exact ⟨_, by decide, rfl⟩
    | _ => exact ⟨_, by decide, rfl⟩
  rcases field with ⟨literal, known, rfl⟩
  rcases keyword literal known with ⟨clean, notEmpty, noColon⟩
  exact ⟨isField_of_clean clean, notEmpty, noColon⟩

/-- No effect has an empty value. -/
theorem value_ne_nil_of_denotes (denoted : Denotes selector effect value rule) :
    value ≠ [] := by
  rintro rfl
  cases denoted with
  | gai _ chance | shuffle chance => cases chance
  | rewrite parts | service parts => cases parts
  | latency parts | override parts | filterFamily parts | limit parts => cases parts

end Effects

/-! ## Lines -/

/-- The line of a rule. -/
def ruleLine (text effect value : Bytes) : Bytes :=
  text ++ byte ':' :: (effect ++ byte ':' :: value)

theorem length_chaosDnsTrim_le (text : Bytes) :
    (chaosDnsTrim text).length ≤ text.length := by
  rw [chaosDnsTrim, List.length_reverse]
  refine (List.dropWhile_suffix _).length_le.trans ?_
  rw [List.length_reverse]
  exact (List.dropWhile_suffix _).length_le

/-- What a rule tells of the cut of its line. -/
theorem split_of_parseLine
    {inetNtop : InetNtop} {line : Bytes} {rule : ChaosDnsRule}
    (parsed : chaosDnsConfigParseLine inetNtop line = .rule rule) :
    ∃ selector rest,
      splitSelector (chaosDnsTrim (chaosDnsStripComment line)) = some (selector, rest) ∧
        rule.selector.selectorLen ≤ selector.length := by
  dsimp only [chaosDnsConfigParseLine] at parsed
  split at parsed
  · cases parsed
  · split at parsed
    · cases parsed
    · rename_i fields
      split at parsed
      · cases parsed
      · split at parsed
        · cases parsed
        · rename_i selector accepted
          split at parsed
          · cases parsed
          · rename_i denoted
            cases parsed
            rcases Option.bind_eq_some_iff.mp fields with ⟨⟨text, rest⟩, cut, later⟩
            rcases Option.map_eq_some_iff.mp later with ⟨⟨effect, value⟩, -, same⟩
            cases same
            refine ⟨text, rest, cut, ?_⟩
            rw [selector_of_denotes (denotes_of_parseEffect denoted),
              selectorLen_of_parse accepted]
            exact length_chaosDnsTrim_le text

/--
A line of a documented selector, of an effect that its domain allows and of a value of
this effect makes the rule of these three exactly when the selector is no bare IPv6
literal.
-/
theorem ruleLine_parsed_iff
    (inetNtop : InetNtop) (text effect value : Bytes) (selector : ChaosDnsSelector)
    (rule : ChaosDnsRule)
    (accepted : chaosDnsSelectorParse inetNtop text = some selector)
    (documented : DocumentedName text)
    (allowed : chaosDnsEffectAllowed selector rule.effect = true)
    (field : IsField value) (denoted : Denotes selector effect value rule) :
    chaosDnsConfigParseLine inetNtop (ruleLine text effect value) = .rule rule ↔
      bareIpv6 text = false := by
  have form := selectorForm_of_parse accepted
  have textField := isField_of_form form documented
  have textNotEmpty := ne_nil_of_form form
  rcases isField_of_denotes denoted with ⟨effectField, effectNotEmpty, noColon⟩
  have valueNotEmpty := value_ne_nil_of_denotes denoted
  have lineField : IsField (ruleLine text effect value) :=
    textField.join (effectField.join field effectNotEmpty valueNotEmpty) textNotEmpty
      (List.append_ne_nil_of_left_ne_nil effectNotEmpty _)
  have cursor : chaosDnsTrim (chaosDnsStripComment (ruleLine text effect value)) =
      ruleLine text effect value := by
    rw [chaosDnsStripComment, cutAt_of_not_mem lineField.noComment, lineField.trim]
  constructor
  · intro parsed
    refine Bool.eq_false_iff.mpr fun unbracketed => ?_
    rcases split_of_parseLine parsed with ⟨cut, after, found, bound⟩
    rcases splitSelector_of_bareIpv6 form unbracketed (effect ++ byte ':' :: value) with
      ⟨short, rest, cutShort, shorter⟩
    rw [cursor, ruleLine, cutShort] at found
    cases found
    rw [selector_of_denotes denoted, selectorLen_of_parse accepted] at bound
    omega
  · intro bracketed
    have fields : chaosDnsSplitRuleFields (ruleLine text effect value) =
        some (text, effect, value) := by
      rw [chaosDnsSplitRuleFields, ruleLine,
        splitSelector_of_form form documented bracketed, Option.bind_some]
      dsimp only
      rw [splitAtByte_append noColon, Option.map_some, textField.trim, effectField.trim,
        field.trim]
    have lineNotEmpty : ruleLine text effect value ≠ [] :=
      List.append_ne_nil_of_left_ne_nil textNotEmpty _
    rw [chaosDnsConfigParseLine, cursor]
    rw [if_neg lineNotEmpty, fields]
    dsimp only
    rw [if_neg (by simp [textNotEmpty, effectNotEmpty, valueNotEmpty]), accepted]
    dsimp only
    rw [parseEffect_of_denotes allowed denoted]

/-- `inet_ntop` of the loopback addresses. -/
def loopbackNtop : InetNtop :=
  ⟨fun _ => bytes "127.0.0.1", fun _ => bytes "::1"⟩

/-- A lookup of a name with IPv6 literals, and a reverse lookup of a bracketed one. -/
theorem ruleLine_parsed_ipv6 :
    chaosDnsConfigParseLine loopbackNtop
        (ruleLine (bytes "dns://db.test") (bytes "OVERRIDE") (bytes "::1,[2001:db8::7]")) =
      .rule
        { selector := ⟨.exact, .lookup, 13, bytes "db.test"⟩
          effect := .override
          probability := ⟨1, 1⟩
          text := bytes "::1,[2001:db8::7]" } ∧
    chaosDnsConfigParseLine loopbackNtop
        (ruleLine (bytes "rdns://[::1]") (bytes "LATENCY") (bytes "20")) =
      .rule
        { selector := ⟨.exact, .reverse, 12, bytes "::1"⟩
          effect := .latency
          probability := ⟨1, 1⟩
          latencyMs := 20 } := by
  have scheme : ∀ name, bytes "rdns://[::1]" ≠ bytes "dns://" ++ name := by
    intro name same
    cases same
  have documented : DocumentedName (bytes "dns://db.test") := by
    intro name same
    have named : bytes "db.test" = name :=
      List.append_cancel_left (show bytes "dns://" ++ bytes "db.test" = _ from same)
    rw [← named]
    decide +kernel
  constructor
  · exact (ruleLine_parsed_iff loopbackNtop (bytes "dns://db.test") _ _ _ _
      (by decide +kernel) documented rfl (isField_of_clean (by decide +kernel))
      (.override (by decide +kernel) (by decide +kernel))).mpr (by decide +kernel)
  · have denoted := @Denotes.latency ⟨.exact, .reverse, 12, bytes "::1"⟩ (bytes "20")
      (bytes "20") ⟨1, 1⟩ 20 (by decide +kernel) (by decide +kernel)
    exact (ruleLine_parsed_iff loopbackNtop (bytes "rdns://[::1]") _ _ _ _
      (by decide +kernel) (fun name same => absurd same (scheme name)) rfl
      (isField_of_clean (by decide +kernel)) denoted).mpr (by decide +kernel)

/--
A selector of a bare IPv6 literal is accepted and its line is rejected; a value with a
`#` or with a blank before it is cut.
-/
theorem ruleLine_not_parsed :
    (chaosDnsSelectorParse loopbackNtop (bytes "rdns://::1") =
        some ⟨.exact, .reverse, 10, bytes "::1"⟩ ∧
      chaosDnsConfigParseLine loopbackNtop
        (ruleLine (bytes "rdns://::1") (bytes "EAI_AGAIN") (bytes "1")) = .invalid) ∧
    (∀ selector,
      Denotes selector (bytes "REWRITE") (bytes "a#b")
          { selector
            effect := .rewrite
            probability := ⟨1, 1⟩
            text := bytes "a#b" } ∧
        Denotes selector (bytes "REWRITE") (bytes " a")
          { selector
            effect := .rewrite
            probability := ⟨1, 1⟩
            text := bytes " a" }) ∧
    (∀ value ∈ [bytes "a#b", bytes " a"],
      chaosDnsConfigParseLine loopbackNtop
          (ruleLine (bytes "*") (bytes "REWRITE") value) =
        .rule
          { selector := ⟨.any, .lookup, 1, []⟩
            effect := .rewrite
            probability := ⟨1, 1⟩
            text := bytes "a" }) := by
  refine ⟨⟨by decide +kernel, by decide +kernel⟩, fun selector => ⟨?_, ?_⟩,
    by decide +kernel⟩
  · exact .rewrite (by decide +kernel)
  · exact .rewrite (by decide +kernel)

end ChaosLibs.Dns.SelectorLines
