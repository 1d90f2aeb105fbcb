import ChaosLibs.Io.LoadedRules
import ChaosLibs.Io.ParseBuffer

/-!
# Rules for descriptors without a file

The names that the kernel gives pipes, sockets, anonymous inodes and memfds, and which
of them a rule can cover.
-/

namespace ChaosLibs.Io.DescriptorNames

open ChaosLibs.Common.CString
open ChaosLibs.Io.ConfigParser
open ChaosLibs.Io.LoadedRules
open ChaosLibs.Io.MatchLoaded
open ChaosLibs.Io.ParseBuffer
open ChaosLibs.Io.PathText
open ChaosLibs.Io.Rule

/-- A descriptor without a file. -/
inductive Descriptor where
  | pipe (number : Nat)
  | socket (number : Nat)
  | anonInode (kind : Bytes)
  | memfd (name : Bytes)

/-- The name in `/proc/self/fd`. -/
def Descriptor.name : Descriptor → Bytes
  | .pipe number => bytes "pipe:[" ++ bytes (toString number) ++ bytes "]"
  | .socket number => bytes "socket:[" ++ bytes (toString number) ++ bytes "]"
  | .anonInode kind => bytes "anon_inode:[" ++ kind ++ bytes "]"
  | .memfd name => bytes "/memfd:" ++ name ++ bytes " (deleted)"

/--
A rule of a file that the parser accepts covers the name; `found` is what `realpath`
answered for each rule.
-/
def Nameable (name : Bytes) : Prop :=
  ∃ buffer index entry, ∃ found : Nat → Option RealName,
    (parseBuffer chaosIoRuleSupported buffer).rc = 0 ∧
      (parseBuffer chaosIoRuleSupported buffer).stored[index]? = some entry ∧
        chaosIoRulePrefixMatches
          (resolvedText
            ((parseBuffer chaosIoRuleSupported buffer).stored.map ParsedRule.rule) found)
          (resolvedRule index entry.rule (found index)) name = true

variable {buffer name : Bytes} {entry : ParsedRule}

theorem parsed_of_parseBuffer
    (accepted : (parseBuffer chaosIoRuleSupported buffer).rc = 0)
    (member : entry ∈ (parseBuffer chaosIoRuleSupported buffer).stored) :
    Parsed entry.rule := by
  have parse : parseLines (splitLines (cutAt 0 buffer)) 0 [] =
      .ok (parseBuffer chaosIoRuleSupported buffer).stored :=
    (parseLines_eq _ _ _).trans (if_pos accepted)
  exact (parsed_of_parseLines parse nofun entry member).1

/-- No rule covers a name with a `:` before any `/`: a rule's path ends at its `:`. -/
theorem not_nameable_of_isPseudoName (pseudo : IsPseudoName name) : ¬ Nameable name := by
  rintro ⟨buffer, index, entry, found, accepted, there, covers⟩
  have parsed := parsed_of_parseBuffer accepted (List.mem_of_getElem? there)
  have rule : ((parseBuffer chaosIoRuleSupported buffer).stored.map
      ParsedRule.rule)[index]? = some entry.rule := by
    rw [List.getElem?_map, there]
    rfl
  rw [(measured_resolvedRule rule parsed).not_prefixMatches pseudo] at covers
  cases covers

/-- The rule on `/` covers every absolute name. -/
theorem nameable_of_isAbsolute (absolute : IsAbsolute name) : Nameable name := by
  refine ⟨bytes "/:read:EIO:1", 0, ⟨bytes "/:read:EIO:1",
    { pathPrefix := bytes "/", pathLen := 1, resolvedPrefix := none, resolvedLen := 0,
      operation := .read, effect := .errno, errnum := 5, probability := ⟨1, 1⟩,
      latencyMs := 0, policy := {}, callSize := chaosPolicyNoSize, hit := none,
      hitGeneration := 0 }⟩, fun _ => none, by decide +kernel, by decide +kernel, ?_⟩
  have notStar : bytes "/" ≠ bytes "*" := by decide
  exact (if_neg notStar).trans
    (Bool.or_eq_true_iff.mpr (Or.inl (prefixCovers_root absolute)))

theorem isPseudoName_of_not_isAbsolute
    {descriptor : Descriptor} (relative : ¬ IsAbsolute descriptor.name) :
    IsPseudoName descriptor.name := by
  cases descriptor with
  | pipe number =>
      exact ⟨bytes "pipe", bytes "[" ++ bytes (toString number) ++ bytes "]", rfl,
        by decide, by decide⟩
  | socket number =>
      exact ⟨bytes "socket", bytes "[" ++ bytes (toString number) ++ bytes "]", rfl,
        by decide, by decide⟩
  | anonInode kind =>
      exact ⟨bytes "anon_inode", bytes "[" ++ kind ++ bytes "]", rfl, by decide,
        by decide⟩
  | memfd name => exact absurd rfl relative

/-- A rule can cover the name of a descriptor exactly when it begins with `/`. -/
theorem nameable_iff_isAbsolute (descriptor : Descriptor) :
    Nameable descriptor.name ↔ IsAbsolute descriptor.name := by
  constructor
  · intro nameable
    by_contra relative
    exact not_nameable_of_isPseudoName (isPseudoName_of_not_isAbsolute relative) nameable
  · exact nameable_of_isAbsolute

/-- No rule names a pipe. -/
theorem pipe_not_nameable : ¬ Nameable (Descriptor.pipe 4).name :=
  not_nameable_of_isPseudoName
    (isPseudoName_of_not_isAbsolute (by decide +kernel))

end ChaosLibs.Io.DescriptorNames
