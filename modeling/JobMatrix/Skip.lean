import JobMatrix.NameSet
import JobMatrix.Text.Quoted

/-!
Repros that no runner takes, and why. A skip is shown as one line, the reason in brackets after
the name.
-/
namespace JobMatrix

structure Unknowns where
  platforms : NameSet
  labels : NameSet
  deriving DecidableEq

namespace Unknowns

def none : Unknowns := ⟨∅, ∅⟩

def withPlatform (unknown : Unknowns) (name : String) : Unknowns :=
  { unknown with platforms := unknown.platforms.insert name }

def withLabel (unknown : Unknowns) (name : String) : Unknowns :=
  { unknown with labels := unknown.labels.insert name }

end Unknowns

structure SkipCause where
  supports : NameSet
  limited : Bool
  unknown : Unknowns
  deriving DecidableEq

namespace SkipCause

def namedList (title : String) (names : NameSet) : List String :=
  if names.isEmpty then [] else [title ++ "=" ++ Text.quoteList names.toList]

def segments (cause : SkipCause) : List String :=
  namedList "supports" cause.supports
    ++ (if cause.limited then ["os constraints applied"] else [])
    ++ namedList "unknown platforms" cause.unknown.platforms
    ++ namedList "unknown labels" cause.unknown.labels

def text (cause : SkipCause) : String :=
  if cause.segments.isEmpty then "no matching runners"
  else "; ".intercalate cause.segments

end SkipCause

structure Skip where
  name : String
  cause : SkipCause
  deriving DecidableEq

def Skip.line (skip : Skip) : String := skip.name ++ " (" ++ skip.cause.text ++ ")"

end JobMatrix
