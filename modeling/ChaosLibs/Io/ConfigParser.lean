import ChaosLibs.Common.StatusText
import ChaosLibs.Common.SlotMachine
import ChaosLibs.Io.Rule

/-!
# The rule-file parser of libchaos-io

`chaos_io_config_parse_line` and `chaos_io_config_parse_buffer`, and what a
reload makes of the bytes it has read.  Strings are passed by value: where the
source cuts a line in place, the function receives the cut line.
-/

namespace ChaosLibs.Io.ConfigParser

open ChaosLibs.Common.CString
open ChaosLibs.Common.StatusText
open ChaosLibs.Common.RulePolicy
open ChaosLibs.Common.SlotMachine
open ChaosLibs.Io.Rule

/-! ## Fields -/

/-- `chaos_io_is_blank_char`. -/
def chaosIoIsBlankChar (ch : UInt8) : Bool :=
  ch == byte ' ' || ch == byte '\t' || ch == byte '\r' || ch == byte '\n'

/-- `chaos_io_trim`. -/
def chaosIoTrim (text : Bytes) : Bytes :=
  (((text.dropWhile chaosIoIsBlankChar).reverse).dropWhile
    chaosIoIsBlankChar).reverse

/-- `chaos_io_strip_comment`. -/
def chaosIoStripComment (line : Bytes) : Bytes :=
  cutAt (byte '#') line

/-- The names `chaos_io_parse_operation` knows. -/
def operationNames : List (String × ChaosIoOperation) :=
  [("read", .read), ("write", .write), ("open", .open), ("close", .close),
    ("fsync", .fsync), ("fdatasync", .fdatasync), ("pread", .pread),
    ("pwrite", .pwrite), ("truncate", .truncate), ("allocate", .allocate),
    ("unlink", .unlink), ("rename_from", .renameFrom),
    ("rename_to", .renameTo)]

/-- `chaos_io_parse_operation`. -/
def chaosIoParseOperation (text : Bytes) : Option ChaosIoOperation :=
  (operationNames.find? fun entry => bytes entry.1 == text).map Prod.snd

/-- The names `chaos_io_parse_errno_name` knows, with their values on Linux. -/
def errnoNames : List (String × Nat) :=
  [("EIO", 5), ("ENOSPC", 28), ("EDQUOT", 122), ("EROFS", 30),
    ("EACCES", 13), ("EMFILE", 24), ("ENFILE", 23), ("ENOENT", 2)]

/-- `chaos_io_parse_errno_name`. -/
def chaosIoParseErrnoName (text : Bytes) : Option Nat :=
  (errnoNames.find? fun entry => bytes entry.1 == text).map Prod.snd

/-- `chaos_io_parse_latency`. -/
def chaosIoParseLatency (text : Bytes) : Option Nat :=
  match strtoul text with
  | none => none
  | some (value, stop) =>
      if chaosIoTrim stop ≠ [] then none
      else if 0xffffffff < value then none
      else some value

/-- Split a text at its first `:`; `none` when it has none. -/
def splitAtColon (text : Bytes) : Option (Bytes × Bytes) :=
  match text.dropWhile fun ch => ch != byte ':' with
  | [] => none
  | _ :: rest => some (cutAt (byte ':') text, rest)

/-- The four fields of a rule: the text split at its first three `:`. -/
def splitFields (text : Bytes) : Option (Bytes × Bytes × Bytes × Bytes) :=
  (splitAtColon text).bind fun (path, afterPath) =>
    (splitAtColon afterPath).bind fun (operation, afterOperation) =>
      (splitAtColon afterOperation).map fun (effect, parameter) =>
        (path, operation, effect, parameter)

/-! ## Lines -/

/-- What the effect and parameter fields of a rule say. -/
structure EffectFields where
  effect : ChaosIoEffect
  errnum : Nat := 0
  probability : Probability := ⟨0, 1⟩
  latencyMs : Nat := 0

/-- The effect branches of `chaos_io_config_parse_line`. -/
def parseEffect (effect parameter : Bytes) : Option EffectFields :=
  match chaosIoParseErrnoName effect with
  | some errnum =>
      (chaosPolicyParseProbability parameter).map fun probability =>
        { effect := .errno, errnum := errnum, probability := probability }
  | none =>
      if effect == bytes "LATENCY" then
        (chaosIoParseLatency parameter).map fun latencyMs =>
          { effect := .latency, latencyMs := latencyMs }
      else if effect == bytes "TORN" then
        (chaosPolicyParseProbability parameter).map fun probability =>
          { effect := .torn, probability := probability }
      else if effect == bytes "CORRUPT" then
        (chaosPolicyParseProbability parameter).map fun probability =>
          { effect := .corrupt, probability := probability }
      else
        none

/-- The results of `chaos_io_config_parse_line`: -1, 0 and 1 with a rule. -/
inductive ParsedLine where
  | invalid
  | blank
  | rule (rule : ChaosIoRule)
deriving DecidableEq, Repr

/-- A rule with its four fields and everything else zero. -/
def ruleOfFields
    (path : Bytes) (operation : ChaosIoOperation) (fields : EffectFields) :
    ChaosIoRule where
  pathPrefix := path
  pathLen := path.length
  resolvedPrefix := none
  resolvedLen := 0
  operation := operation
  effect := fields.effect
  errnum := fields.errnum
  probability := fields.probability
  latencyMs := fields.latencyMs
  policy := {}
  callSize := 0
  hit := none
  hitGeneration := 0

/-- `chaos_io_config_parse_line`. -/
def chaosIoConfigParseLine (line : Bytes) : ParsedLine :=
  let cursor := chaosIoTrim (chaosIoStripComment line)
  if cursor = [] then
    .blank
  else
    match splitFields cursor with
    | none => .invalid
    | some (first, second, third, fourth) =>
        let path := chaosIoTrim first
        let operation := chaosIoTrim second
        let effect := chaosIoTrim third
        let parameter := chaosIoTrim fourth
        if path = [] ∨ operation = [] ∨ effect = [] ∨ parameter = [] then
          .invalid
        else if chaosIoMaxRulePath ≤ path.length then
          .invalid
        else
          match chaosIoParseOperation operation, parseEffect effect parameter with
          | some operation, some fields =>
              if chaosIoEffectAllowed operation fields.effect then
                .rule (ruleOfFields path operation fields)
              else
                .invalid
          | _, _ => .invalid

/-- `CHAOS_IO_RULE_SUPPORTED` as libchaos-io defines it. -/
def chaosIoRuleSupported (_ : ChaosIoRule) : Bool :=
  true

/-! ## Buffers -/

/-- A rule and its entry in `g_chaos_io_config_texts`. -/
structure ParsedRule where
  text : Bytes
  rule : ChaosIoRule
deriving DecidableEq, Repr

/-- The lines of a buffer; a final line without LF is a line like any other. -/
def splitLines : Bytes → List Bytes
  | [] => []
  | ch :: rest =>
      if ch == byte '\n' then
        [] :: splitLines rest
      else
        match splitLines rest with
        | [] => [[ch]]
        | line :: more => (ch :: line) :: more

/-- The loop of `chaos_io_config_parse_buffer`, `number` lines and `rules` in. -/
def parseLines :
    List Bytes → Nat → List ParsedRule →
      Except ChaosStatusError (List ParsedRule)
  | [], _, rules => .ok rules
  | line :: rest, number, rules =>
      let kept := chaosStatusKeepLine (number + 1) line
      match chaosPolicyExtract line with
      | (_, none) => .error (chaosStatusReject kept .invalid)
      | (left, some policy) =>
          match chaosIoConfigParseLine left with
          | .invalid => .error (chaosStatusReject kept .invalid)
          | .blank =>
              if chaosPolicyIsEmpty policy then
                parseLines rest (number + 1) rules
              else
                .error (chaosStatusReject kept .invalid)
          | .rule parsed =>
              let rule :=
                { parsed with policy := policy, callSize := chaosPolicyNoSize }
              if chaosIoMaxRules ≤ rules.length then
                .error (chaosStatusReject kept .tooMany)
              else if !chaosIoRuleSupported rule then
                .error (chaosStatusReject kept .unsupported)
              else
                parseLines rest (number + 1) (rules ++ [⟨kept.text, rule⟩])

/-- `chaos_io_config_parse_buffer`: the rules, or the error record. -/
def chaosIoConfigParseBuffer (buffer : Bytes) :
    Except ChaosStatusError (List ParsedRule) :=
  parseLines (splitLines buffer) 0 []

/-! ## Loads -/

/--
What a reload makes of the bytes of a readable rule file: `chaos_io_config_read_file`
(the size limit) and the NUL test and the parse of `chaos_io_config_reload`.
-/
def chaosIoConfigLoad (file : Bytes) :
    Except ChaosStatusError (List ParsedRule) :=
  if chaosIoMaxConfigBytes ≤ file.length then
    .error (chaosStatusReject chaosStatusClear .tooLarge)
  else if file.contains 0 then
    .error (chaosStatusReject chaosStatusClear .nul)
  else
    chaosIoConfigParseBuffer file

/-- An accepted file is one whose lines parse. -/
theorem parseLines_of_accepted
    {file : Bytes} {entries : List ParsedRule}
    (accepted : chaosIoConfigLoad file = .ok entries) :
    parseLines (splitLines file) 0 [] = .ok entries := by
  unfold chaosIoConfigLoad at accepted
  split at accepted
  · cases accepted
  · split at accepted
    · cases accepted
    · exact accepted

end ChaosLibs.Io.ConfigParser
