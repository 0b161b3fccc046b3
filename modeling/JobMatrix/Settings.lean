/-!
Where a run reads its documents and where it appends its results. Paths are kept as given; an
empty path is no path.
-/
namespace JobMatrix

/-- A relative path below a directory. Nothing parts them if the directory is empty or already
ends in a slash. -/
def pathBelow (directory relative : String) : String :=
  if directory.isEmpty || directory.toList.getLast? == some '/' then directory ++ relative
  else directory ++ "/" ++ relative

structure Settings where
  workspace : String
  platformMap : String
  repros : String
  stepSummary : Option String
  output : Option String
  /-- Whether a label declared under two platforms spoils the run. -/
  strictLabels : Bool
  deriving DecidableEq

namespace Settings

def platformMapPlace : String := ".github/os-matrix.json"
def reprosPlace : String := "repros.json"

def ofWorkspace (workspace : String) : Settings where
  workspace
  platformMap := pathBelow workspace platformMapPlace
  repros := pathBelow workspace reprosPlace
  stepSummary := none
  output := none
  strictLabels := false

def nonEmpty (path : Option String) : Option String := path.filter fun path => !path.isEmpty

def withPlatformMap (settings : Settings) (path : Option String) : Settings :=
  { settings with platformMap := (nonEmpty path).getD settings.platformMap }

def withRepros (settings : Settings) (path : Option String) : Settings :=
  { settings with repros := (nonEmpty path).getD settings.repros }

def withStepSummary (settings : Settings) (path : Option String) : Settings :=
  { settings with stepSummary := nonEmpty path }

def withOutput (settings : Settings) (path : Option String) : Settings :=
  { settings with output := nonEmpty path }

def withStrictLabels (settings : Settings) (strict : Bool) : Settings :=
  { settings with strictLabels := strict }

end Settings
end JobMatrix
