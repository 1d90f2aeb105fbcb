import ChaosLibs.Common.SlotInheritance
import ChaosLibs.Io.ConfigParser

/-!
# Rule identity in libchaos-io

A rule of a loaded file is identified by the text the parser keeps of its
line: the first 200 bytes, control characters as spaces.  Rules whose kept
texts differ hold different slots, and a reload hands count, claims and effect
state on only between rules with one kept text.  Two lines that differ after
the 200th byte are one rule to the slots.
-/

namespace ChaosLibs.Io.SlotIdentity

open ChaosLibs.Machine
open ChaosLibs.Common.CString
open ChaosLibs.Common.StatusText
open ChaosLibs.Common.RulePolicy
open ChaosLibs.Common.HitSlots
open ChaosLibs.Common.SlotMachine
open ChaosLibs.Common.SlotInvariant
open ChaosLibs.Common.SlotSharing
open ChaosLibs.Common.SlotInheritance
open ChaosLibs.Io.Rule
open ChaosLibs.Io.ConfigParser

/-! ## From files to rules -/

/-- A parsed rule as `chaos_io_config_attach_hits` hands it to the slot pool. -/
def hitRule (parsed : ParsedRule) : HitRule :=
  ⟨parsed.text, parsed.rule.policy.first⟩

/-- The line holds a rule; it is neither blank nor invalid. -/
def isRuleLine (line : Bytes) : Bool :=
  match chaosIoConfigParseLine (chaosPolicyExtract line).1 with
  | .rule _ => true
  | _ => false

/-- The written lines of a file that hold a rule, in order. -/
def ruleLines (file : Bytes) : List Bytes :=
  (splitLines file).filter isRuleLine

theorem parseLines_ok
    {lines : List Bytes} {number : Nat} {rules parsed : List ParsedRule}
    (bounded : rules.length ≤ chaosIoMaxRules)
    (accepted : parseLines lines number rules = .ok parsed) :
    parsed.length ≤ chaosIoMaxRules ∧
      parsed.map ParsedRule.text =
        rules.map ParsedRule.text ++ (lines.filter isRuleLine).map keptText := by
  induction lines generalizing number rules with
  | nil =>
      simp only [parseLines, Except.ok.injEq] at accepted
      subst accepted
      exact ⟨bounded, by simp⟩
  | cons line rest induction =>
      rw [parseLines] at accepted
      split at accepted
      · simp at accepted
      · rename_i left policy extracted
        split at accepted
        · simp at accepted
        · rename_i blank
          split at accepted
          · have skipped : isRuleLine line = false := by
              simp [isRuleLine, extracted, blank]
            rw [List.filter_cons_of_neg (by simp [skipped])]
            exact induction bounded accepted
          · simp at accepted
        · rename_i rule found
          split at accepted
          · simp at accepted
          · rename_i room
            simp only [chaosIoRuleSupported, Bool.not_true] at accepted
            split at accepted
            · simp at accepted
            · have counted : isRuleLine line = true := by
                simp [isRuleLine, extracted, found]
              have longer := induction
                (by simp only [List.length_append, List.length_singleton]; omega)
                accepted
              rw [List.filter_cons_of_pos counted]
              refine ⟨longer.1, ?_⟩
              rw [longer.2]
              simp [chaosStatusKeepLine]

/-- An accepted file yields at most 256 rules, whose texts are the kept rule lines. -/
theorem chaosIoConfigLoad_ok
    {file : Bytes} {parsed : List ParsedRule}
    (accepted : chaosIoConfigLoad file = .ok parsed) :
    parsed.length ≤ chaosIoMaxRules ∧
      parsed.map ParsedRule.text = (ruleLines file).map keptText :=
  parseLines_ok (Nat.zero_le _) (parseLines_of_accepted accepted)

/-- What a claimed reload of a readable file comes to. -/
def loadOutcome (file : Bytes) : Outcome chaosIoMaxRules :=
  match loaded : chaosIoConfigLoad file with
  | .ok parsed =>
      .accepted
        ⟨parsed.map hitRule, by
          rw [List.length_map]
          exact (chaosIoConfigLoad_ok loaded).1⟩
  | .error _ => .rejected

theorem published_loadOutcome
    {file : Bytes} {parsed : List ParsedRule}
    (accepted : chaosIoConfigLoad file = .ok parsed) :
    (loadOutcome file).published = some (parsed.map hitRule) := by
  unfold loadOutcome
  split
  · rename_i other loaded
    rw [accepted, Except.ok.injEq] at loaded
    simp [Outcome.published, loaded]
  · rename_i error loaded
    simp [accepted] at loaded

/-- The steps of one reload of a file, run without a call in between. -/
def reloadOf (file : Bytes) (steps : Nat) : List (Action chaosIoMaxRules) :=
  .reload (loadOutcome file) :: List.replicate steps .owner

/-- A file with one rule. -/
def oneRuleFile : Bytes :=
  bytes "/a:open:EIO:1.0"

theorem oneRuleFile_accepted :
    chaosIoConfigLoad oneRuleFile =
      .ok
        [⟨oneRuleFile,
          { ruleOfFields (bytes "/a") .open
              { effect := .errno, errnum := 5, probability := ⟨1, 1⟩ } with
            callSize := chaosPolicyNoSize }⟩] := by
  decide +kernel

theorem oneRuleFile_runs :
    (run step (initial chaosIoMaxRules)
      (reloadOf oneRuleFile 522)).isSome = true := by
  decide +kernel

/-- The process after its first load of that file. -/
def oneRuleLoaded : State chaosIoMaxRules :=
  (run step (initial chaosIoMaxRules) (reloadOf oneRuleFile 522)).get
    oneRuleFile_runs

/-- A rule line whose qualifier begins after the 200th byte. -/
def longLine (first : String) : Bytes :=
  bytes "/" ++ List.replicate 200 (byte 'a') ++
    bytes ":open:EIO:1.0 @first=" ++ bytes first

/-- The line with an allowance of one. -/
def shortFile : Bytes :=
  longLine "1"

/-- The same line, and below it the line with an allowance of two. -/
def longerFile : Bytes :=
  longLine "1" ++ bytes "\n" ++ longLine "2"

end ChaosLibs.Io.SlotIdentity
