/-!
# Index types of fixed sizes

A literal of `Fin size` needs that the size is not zero.  The sizes that the sources
fix have a named instance, which every module that writes such a literal uses.
-/

namespace ChaosLibs.Machine.Indices

/-- The arguments of a system call. -/
instance neZeroArguments : @NeZero Nat Zero.ofOfNat0 6 :=
  ⟨by decide⟩

/-- The slots of a library with 256 rules. -/
instance neZeroSlots : @NeZero Nat Zero.ofOfNat0 (2 * 256) :=
  ⟨by decide⟩

/-- The slots of a library with one rule. -/
instance neZeroSlotsOfOne : @NeZero Nat Zero.ofOfNat0 (2 * 1) :=
  ⟨by decide⟩

/-- The process table of the supervisor. -/
instance neZeroTracees : @NeZero Nat Zero.ofOfNat0 128 :=
  ⟨by decide⟩

end ChaosLibs.Machine.Indices
