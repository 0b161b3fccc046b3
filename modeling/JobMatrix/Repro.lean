import JobMatrix.NameSet

/-!
A repro definition: its name, the platforms it supports and the limits set on where it runs.
Platform names are in lower case, labels as written.
-/
namespace JobMatrix

/-- Restrictions on platforms and labels. An empty set restricts nothing. -/
structure Limits where
  /-- Whether a definition gave restrictions at all, be it none that count. -/
  given : Bool
  includePlatforms : NameSet
  includeLabels : NameSet
  excludePlatforms : NameSet
  excludeLabels : NameSet
  deriving DecidableEq

def Limits.none : Limits := ⟨false, ∅, ∅, ∅, ∅⟩

structure Repro where
  name : String
  supports : NameSet
  limits : Limits
  deriving DecidableEq

/-- The supported platform that means all of them. -/
def anyPlatform : String := "any"

def Repro.supportsAny (repro : Repro) : Bool :=
  repro.supports.isEmpty || anyPlatform ∈ repro.supports

theorem Repro.supportsAny_iff {repro : Repro} :
    repro.supportsAny = true ↔ repro.supports = ∅ ∨ "any" ∈ repro.supports := by
  rw [supportsAny, Bool.or_eq_true, NameSet.isEmpty_iff, decide_eq_true_eq, anyPlatform]

end JobMatrix
