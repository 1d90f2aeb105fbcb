import ChaosLibs.Common.CountTexts
import ChaosLibs.Common.ProbabilityText

/-!
# The rule-line parser of libchaos-net

`chaos_net_config_parse_line` with the functions that cut a line into its four fields.
Strings are passed by value: where the source cuts a line in place, the function receives
the cut line.
-/

namespace ChaosLibs.Net.ConfigParser

open ChaosLibs.Common.CString
open ChaosLibs.Common.CountTexts
open ChaosLibs.Common.RulePolicy
open ChaosLibs.Net.LoadedRules
open ChaosLibs.Net.Rule
open ChaosLibs.Net.Selectors

/-! ## Texts and names -/

/-- `chaos_net_trim`. -/
def chaosNetTrim (text : Bytes) : Bytes :=
  trim text

/-- `chaos_net_strip_comment`. -/
def chaosNetStripComment (line : Bytes) : Bytes :=
  cutAt (byte '#') line

/-- The names `chaos_net_parse_operation` knows. -/
def operationNames : List (String × ChaosNetOperation) :=
  [("bind", .bind), ("listen", .listen), ("connect", .connect), ("accept", .accept),
    ("socket", .socket), ("shutdown", .shutdown), ("poll", .poll), ("send", .send),
    ("recv", .recv), ("close", .close)]

/-- `chaos_net_parse_operation`. -/
def chaosNetParseOperation (text : Bytes) : Option ChaosNetOperation :=
  (operationNames.find? fun entry => bytes entry.1 == text).map Prod.snd

/-- The names `chaos_net_parse_errno_name` knows, with their values on Linux. -/
def errnoNames : List (String × Nat) :=
  [("ECONNREFUSED", 111), ("ETIMEDOUT", 110), ("ECONNRESET", 104), ("EHOSTUNREACH", 113),
    ("ENETUNREACH", 101), ("EADDRINUSE", 98), ("EADDRNOTAVAIL", 99), ("EAFNOSUPPORT", 97),
    ("EPROTONOSUPPORT", 93), ("EPIPE", 32), ("ENOTCONN", 107), ("EOPNOTSUPP", 95),
    ("EINVAL", 22), ("EINTR", 4), ("ENOMEM", 12), ("ENOBUFS", 105), ("EMFILE", 24),
    ("ENFILE", 23), ("EAGAIN", 11)]

/-- `chaos_net_parse_errno_name`. -/
def chaosNetParseErrnoName (text : Bytes) : Option Nat :=
  (errnoNames.find? fun entry => bytes entry.1 == text).map Prod.snd

/-- `chaos_net_parse_probability`. -/
def chaosNetParseProbability (text : Bytes) : Option Probability :=
  chaosPolicyParseProbability text

/-! ## Fields -/

/-- The four fields of a rule line. -/
structure RuleFields where
  selector : Bytes
  operation : Bytes
  effect : Bytes
  value : Bytes
deriving DecidableEq, Repr

/-- `chaos_net_split_rule_fields`. -/
def chaosNetSplitRuleFields (line : Bytes) : Option RuleFields :=
  (splitAtLast (byte ':') line).bind fun (line, value) =>
    (splitAtLast (byte ':') line).bind fun (line, effect) =>
      (splitAtLast (byte ':') line).map fun (line, operation) =>
        { selector := chaosNetTrim line
          operation := chaosNetTrim operation
          effect := chaosNetTrim effect
          value := chaosNetTrim value }

/-- What the effect and value fields of a rule say. -/
structure EffectFields where
  effect : ChaosNetEffect
  errnum : Nat := 0
  probability : Probability := ⟨0, 1⟩
  latencyMs : Nat := 0
  chunkBytes : Nat := 0
deriving DecidableEq

/-- The effect branches of `chaos_net_config_parse_line`. -/
def parseEffect (effect value : Bytes) : Option EffectFields :=
  match chaosNetParseErrnoName effect with
  | some errnum =>
      (chaosNetParseProbability value).map fun probability =>
        { effect := .errno, errnum, probability }
  | none =>
      if effect = bytes "LATENCY" then
        (chaosNetParseLatency value).map fun latencyMs => { effect := .latency, latencyMs }
      else if effect = bytes "CORRUPT" then
        (chaosNetParseProbability value).map fun probability =>
          { effect := .corrupt, probability }
      else if effect = bytes "TIMEOUT" then
        (chaosNetParseProbability value).map fun probability =>
          { effect := .timeout, probability }
      else if effect = bytes "TRICKLE" then
        (chaosNetParseLatency value).bind fun chunkBytes =>
          if chunkBytes = 0 then none
          else some { effect := .trickle, probability := ⟨1, 1⟩, chunkBytes }
      else if effect = bytes "DUP" then
        (chaosNetParseProbability value).map fun probability =>
          { effect := .dup, probability }
      else if effect = bytes "RESET" then
        (chaosNetParseProbability value).map fun probability =>
          { effect := .reset, probability }
      else none

/-! ## Lines -/

/-- A rule with what its fields say and everything else zero. -/
def ruleOfFields (selector : ChaosNetEndpoint) (operation : ChaosNetOperation)
    (fields : EffectFields) : ChaosNetRule where
  selector := selector
  operation := operation
  effect := fields.effect
  errnum := fields.errnum
  probability := fields.probability
  latencyMs := fields.latencyMs
  chunkBytes := fields.chunkBytes
  policy := {}
  callSize := 0
  hit := none
  hitGeneration := 0

/-- The results of `chaos_net_config_parse_line`: -1, 0 and 1 with a rule. -/
inductive ParsedLine where
  | invalid
  | blank
  | rule (rule : ChaosNetRule)
deriving DecidableEq

/-- `chaos_net_config_parse_line` from the point where it has four fields. -/
def parseFields (fields : RuleFields) : Option ChaosNetRule :=
  if fields.selector = [] ∨ fields.operation = [] ∨ fields.effect = [] ∨
      fields.value = [] then
    none
  else
    (chaosNetEndpointParseSelector fields.selector).bind fun selector =>
      (chaosNetParseOperation fields.operation).bind fun operation =>
        if chaosNetSelectorAllowed operation selector then
          (parseEffect fields.effect fields.value).bind fun effectFields =>
            if chaosNetEffectAllowed operation effectFields.effect then
              some (ruleOfFields selector operation effectFields)
            else none
        else none

/-- `chaos_net_config_parse_line`. -/
def chaosNetConfigParseLine (line : Bytes) : ParsedLine :=
  let cursor := chaosNetTrim (chaosNetStripComment line)
  if cursor = [] then .blank
  else
    match (chaosNetSplitRuleFields cursor).bind parseFields with
    | none => .invalid
    | some rule => .rule rule

/-! ## The cut at the last mark -/

theorem splitAtLast_append {stop : UInt8} {after : Bytes} (clean : stop ∉ after)
    (before : Bytes) :
    splitAtLast stop (before ++ stop :: after) = some (before, after) := by
  have passes : ∀ ch ∈ after.reverse, (ch != stop) = true := by
    intro ch member
    exact bne_iff_ne.mpr fun same => clean (same ▸ List.mem_reverse.mp member)
  have backwards : (before ++ stop :: after).reverse =
      after.reverse ++ stop :: before.reverse := by
    rw [List.reverse_append, List.reverse_cons, List.append_assoc, List.singleton_append]
  have stops : ¬ (stop != stop) = true := by
    rw [bne_self_eq_false']
    exact Bool.false_ne_true
  rw [splitAtLast, if_pos (List.mem_append_right _ List.mem_cons_self), backwards,
    List.dropWhile_append_of_pos passes, List.takeWhile_append_of_pos passes,
    List.dropWhile_cons_of_neg (p := fun ch => ch != stop) stops,
    List.takeWhile_cons_of_neg (p := fun ch => ch != stop) stops, List.tail_cons,
    List.append_nil, List.reverse_reverse, List.reverse_reverse]

theorem eq_append_of_splitAtLast {stop : UInt8} {text before after : Bytes}
    (cut : splitAtLast stop text = some (before, after)) :
    text = before ++ stop :: after := by
  have member : stop ∈ text := by
    by_contra absent
    rw [splitAtLast, if_neg absent] at cut
    cases cut
  rcases List.eq_append_cons_of_mem (List.mem_reverse.mpr member) with
    ⟨back, front, whole, clean⟩
  have split : text = front.reverse ++ stop :: back.reverse := by
    rw [← List.reverse_reverse text, whole, List.reverse_append, List.reverse_cons,
      List.append_assoc, List.singleton_append]
  rw [split, splitAtLast_append (fun inBack => clean (List.mem_reverse.mp inBack))] at cut
  cases cut
  exact split

end ChaosLibs.Net.ConfigParser
