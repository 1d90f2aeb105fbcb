import ChaosLibs.Dns.ConfigParser

/-!
# Effects and their values

What the effect and the value of a rule line say, effect by effect, and that
`chaos_dns_config_parse_line` reads exactly this where the selector allows the effect.
-/

namespace ChaosLibs.Dns.EffectValues

open ChaosLibs.Common.CString
open ChaosLibs.Common.RulePolicy
open ChaosLibs.Dns.ConfigParser

/-- The rule that the effect and the value of a line make with a selector. -/
inductive Denotes (selector : ChaosDnsSelector) :
    Bytes → Bytes → ChaosDnsRule → Prop where
  | gai {name : String} {gaiError : Int} {value : Bytes} {probability : Probability}
      (known : (name, gaiError) ∈ gaiNames)
      (chance : chaosPolicyParseProbability value = some probability) :
      Denotes selector (bytes name) value
        { selector, effect := .gai, gaiError, probability }
  | latency {value payload : Bytes} {probability : Probability} {latencyMs : Nat}
      (parts : chaosDnsParsePayloadProbability value = some (payload, probability))
      (number : chaosDnsParseLatency payload = some latencyMs) :
      Denotes selector (bytes "LATENCY") value
        { selector, effect := .latency, probability, latencyMs }
  | rewrite {value text : Bytes} {probability : Probability}
      (parts : chaosDnsParsePayloadProbability value = some (text, probability)) :
      Denotes selector (bytes "REWRITE") value
        { selector, effect := .rewrite, probability, text }
  | service {value text : Bytes} {probability : Probability}
      (parts : chaosDnsParsePayloadProbability value = some (text, probability)) :
      Denotes selector (bytes "SERVICE") value
        { selector, effect := .service, probability, text }
  | override {value text : Bytes} {probability : Probability}
      (parts : chaosDnsParsePayloadProbability value = some (text, probability))
      (literals : chaosDnsValidateOverrideValue text = true) :
      Denotes selector (bytes "OVERRIDE") value
        { selector, effect := .override, probability, text }
  | filterFamily {value payload : Bytes} {probability : Probability}
      {family : ChaosDnsFamilyFilter}
      (parts : chaosDnsParsePayloadProbability value = some (payload, probability))
      (known : chaosDnsParseFamilyFilter payload = some family) :
      Denotes selector (bytes "FILTER_FAMILY") value
        { selector, effect := .filterFamily, probability, family }
  | limit {value payload : Bytes} {probability : Probability} {limit : Nat}
      (parts : chaosDnsParsePayloadProbability value = some (payload, probability))
      (number : chaosDnsParseLimit payload = some limit) :
      Denotes selector (bytes "LIMIT") value
        { selector, effect := .limit, probability, limit }
  | shuffle {value : Bytes} {probability : Probability}
      (chance : chaosPolicyParseProbability value = some probability) :
      Denotes selector (bytes "SHUFFLE") value { selector, effect := .shuffle, probability }

/-! ## Payloads -/

theorem chaosDnsCopyTextValue_eq_some
    {text copied : Bytes} {size : Nat}
    (found : chaosDnsCopyTextValue text size = some copied) :
    copied = text ∧ text ≠ [] ∧ text.length < size := by
  dsimp only [chaosDnsCopyTextValue] at found
  split at found
  · cases found
  · rename_i fits
    cases found
    rcases not_or.mp fits with ⟨notEmpty, short⟩
    exact ⟨rfl, notEmpty, Nat.lt_of_not_le short⟩

/-- A payload fits the text of a rule. -/
theorem copy_of_payload
    {value payload : Bytes} {probability : Probability}
    (parts : chaosDnsParsePayloadProbability value = some (payload, probability)) :
    chaosDnsCopyTextValue payload chaosDnsMaxValue = some payload := by
  unfold chaosDnsParsePayloadProbability at parts
  split at parts
  · rcases Option.map_eq_some_iff.mp parts with ⟨copied, found, same⟩
    cases same
    exact (chaosDnsCopyTextValue_eq_some found).1 ▸ found
  · split at parts
    · cases parts
    · rcases Option.bind_eq_some_iff.mp parts with ⟨copied, found, later⟩
      rcases Option.bind_eq_some_iff.mp later with ⟨text, -, last⟩
      rcases Option.map_eq_some_iff.mp last with ⟨chance, -, same⟩
      cases same
      exact (chaosDnsCopyTextValue_eq_some found).1 ▸ found

/-! ## The effect branches -/

variable {selector : ChaosDnsSelector} {effect value : Bytes} {rule : ChaosDnsRule}

theorem selector_of_denotes (denoted : Denotes selector effect value rule) :
    rule.selector = selector := by
  cases denoted <;> rfl

theorem denotes_of_parseEffect (parsed : parseEffect selector effect value = some rule) :
    Denotes selector effect value rule := by
  unfold parseEffect at parsed
  split at parsed
  · rename_i gaiError found
    rcases Option.map_eq_some_iff.mp found with ⟨entry, known, rfl⟩
    rcases Option.map_eq_some_iff.mp parsed with ⟨probability, chance, rfl⟩
    have named : bytes entry.1 = effect := by
      simpa using List.find?_some known
    rw [← named]
    exact .gai (List.mem_of_find?_eq_some known) chance
  · split at parsed
    · rename_i named
      rcases Option.bind_eq_some_iff.mp parsed with
        ⟨⟨payload, probability⟩, parts, rest⟩
      rcases Option.map_eq_some_iff.mp rest with ⟨latencyMs, number, rfl⟩
      rw [named]
      exact .latency parts number
    · split at parsed
      · rename_i named
        rcases Option.bind_eq_some_iff.mp parsed with
          ⟨⟨payload, probability⟩, parts, rest⟩
        rcases Option.map_eq_some_iff.mp rest with ⟨text, copied, rfl⟩
        rw [named, (chaosDnsCopyTextValue_eq_some copied).1]
        exact .rewrite parts
      · split at parsed
        · rename_i named
          rcases Option.bind_eq_some_iff.mp parsed with
            ⟨⟨payload, probability⟩, parts, rest⟩
          rcases Option.map_eq_some_iff.mp rest with ⟨text, copied, rfl⟩
          rw [named, (chaosDnsCopyTextValue_eq_some copied).1]
          exact .service parts
        · split at parsed
          · rename_i named
            split at parsed
            · rcases Option.bind_eq_some_iff.mp parsed with
                ⟨⟨payload, probability⟩, parts, rest⟩
              dsimp only at rest
              split at rest
              · rename_i literals
                rcases Option.map_eq_some_iff.mp rest with ⟨text, copied, rfl⟩
                rw [named, (chaosDnsCopyTextValue_eq_some copied).1]
                exact .override parts literals
              · cases rest
            · cases parsed
          · split at parsed
            · rename_i named
              split at parsed
              · rcases Option.bind_eq_some_iff.mp parsed with
                  ⟨⟨payload, probability⟩, parts, rest⟩
                rcases Option.map_eq_some_iff.mp rest with ⟨family, known, rfl⟩
                rw [named]
                exact .filterFamily parts known
              · cases parsed
            · split at parsed
              · rename_i named
                split at parsed
                · rcases Option.bind_eq_some_iff.mp parsed with
                    ⟨⟨payload, probability⟩, parts, rest⟩
                  rcases Option.map_eq_some_iff.mp rest with ⟨limit, number, rfl⟩
                  rw [named]
                  exact .limit parts number
                · cases parsed
              · split at parsed
                · rename_i named
                  split at parsed
                  · rcases Option.map_eq_some_iff.mp parsed with
                      ⟨probability, chance, rfl⟩
                    rw [named]
                    exact .shuffle chance
                  · cases parsed
                · cases parsed

/-- A keyword that is no `EAI_*` name, and where its branch is. -/
theorem parseEffect_of_denotes
    (allowed : chaosDnsEffectAllowed selector rule.effect = true)
    (denoted : Denotes selector effect value rule) :
    parseEffect selector effect value = some rule := by
  cases denoted with
  | @gai name gaiError _ probability known chance =>
      have code : chaosDnsParseGaiName (bytes name) = some gaiError := by
        simp only [gaiNames, List.mem_cons, List.not_mem_nil, or_false, Prod.mk.injEq]
          at known
        rcases known with ⟨rfl, rfl⟩ | ⟨rfl, rfl⟩ | ⟨rfl, rfl⟩ | ⟨rfl, rfl⟩ | ⟨rfl, rfl⟩ <;>
          decide +kernel
      rw [parseEffect, code]
      dsimp only
      rw [chance]
      rfl
  | latency parts number =>
      have keyword : chaosDnsParseGaiName (bytes "LATENCY") = none := by decide +kernel
      rw [parseEffect, keyword]
      dsimp only
      rw [if_pos rfl, parts, Option.bind_some, number]
      rfl
  | rewrite parts =>
      have keyword : chaosDnsParseGaiName (bytes "REWRITE") = none := by decide +kernel
      rw [parseEffect, keyword]
      dsimp only
      rw [if_neg (by decide +kernel), if_pos rfl, parts, Option.bind_some,
        copy_of_payload parts]
      rfl
  | service parts =>
      have keyword : chaosDnsParseGaiName (bytes "SERVICE") = none := by decide +kernel
      rw [parseEffect, keyword]
      dsimp only
      rw [if_neg (by decide +kernel), if_neg (by decide +kernel), if_pos rfl, parts,
        Option.bind_some, copy_of_payload parts]
      rfl
  | override parts literals =>
      have keyword : chaosDnsParseGaiName (bytes "OVERRIDE") = none := by decide +kernel
      rw [parseEffect, keyword]
      dsimp only
      rw [if_neg (by decide +kernel), if_neg (by decide +kernel),
        if_neg (by decide +kernel), if_pos rfl, if_pos allowed, parts, Option.bind_some]
      dsimp only
      rw [if_pos literals, copy_of_payload parts]
      rfl
  | filterFamily parts known =>
      have keyword : chaosDnsParseGaiName (bytes "FILTER_FAMILY") = none := by
        decide +kernel
      rw [parseEffect, keyword]
      dsimp only
      rw [if_neg (by decide +kernel), if_neg (by decide +kernel),
        if_neg (by decide +kernel), if_neg (by decide +kernel), if_pos rfl,
        if_pos allowed, parts, Option.bind_some, known]
      rfl
  | limit parts number =>
      have keyword : chaosDnsParseGaiName (bytes "LIMIT") = none := by decide +kernel
      rw [parseEffect, keyword]
      dsimp only
      rw [if_neg (by decide +kernel), if_neg (by decide +kernel),
        if_neg (by decide +kernel), if_neg (by decide +kernel),
        if_neg (by decide +kernel), if_pos rfl, if_pos allowed, parts, Option.bind_some,
        number]
      rfl
  | shuffle chance =>
      have keyword : chaosDnsParseGaiName (bytes "SHUFFLE") = none := by decide +kernel
      rw [parseEffect, keyword]
      dsimp only
      rw [if_neg (by decide +kernel), if_neg (by decide +kernel),
        if_neg (by decide +kernel), if_neg (by decide +kernel),
        if_neg (by decide +kernel), if_neg (by decide +kernel), if_pos rfl,
        if_pos allowed, chance]
      rfl

end ChaosLibs.Dns.EffectValues
