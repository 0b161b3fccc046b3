import JobMatrix.NameSet
import JobMatrix.Table
import JobMatrix.Text.Lowercase

/-!
The platforms that a workspace knows and the runner labels declared under each. Platform names
are compared in lower case, labels exactly as written. Later declarations win: a repeated platform
gets a new label list, and a label belongs to the platform that declared it last. Labels of a
replaced list stay known.
-/
namespace JobMatrix

structure Reassignment where
  label : String
  previous : String
  current : String
  deriving DecidableEq

structure Catalog where
  platforms : Table (List String)
  owners : Table String
  reassignments : List Reassignment
  deriving DecidableEq

namespace Catalog

def empty : Catalog := ⟨[], [], []⟩

/-- Gives a label to a platform, whose name is already in lower case. -/
def assign (platform : String) (catalog : Catalog) (label : String) : Catalog :=
  let found :=
    match catalog.owners.get? label with
    | none => []
    | some previous => if previous = platform then [] else [⟨label, previous, platform⟩]
  { catalog with
    owners := catalog.owners.put label platform
    reassignments := catalog.reassignments ++ found }

def declare (catalog : Catalog) (platform : String) (labels : List String) : Catalog :=
  let name := Text.lowercase platform
  let owned := labels.foldl (assign name) catalog
  { owned with platforms := owned.platforms.put name labels }

def ofDeclarations (declarations : List (String × List String)) : Catalog :=
  declarations.foldl (fun catalog entry => catalog.declare entry.1 entry.2) empty

def labelsOf? (catalog : Catalog) (platform : String) : Option (List String) :=
  catalog.platforms.get? platform

def ownerOf? (catalog : Catalog) (label : String) : Option String := catalog.owners.get? label

def hasPlatform (catalog : Catalog) (platform : String) : Bool :=
  (catalog.labelsOf? platform).isSome

def hasLabel (catalog : Catalog) (label : String) : Bool := (catalog.ownerOf? label).isSome

/-- Every label ever declared. -/
def labels (catalog : Catalog) : NameSet := NameSet.ofList catalog.owners.names

theorem mem_labels {catalog : Catalog} {label : String} :
    label ∈ catalog.labels ↔ catalog.hasLabel label = true := by
  rw [labels, NameSet.mem_ofList]
  exact Table.mem_names_iff

def platformCount (catalog : Catalog) : Nat := catalog.platforms.length
def labelCount (catalog : Catalog) : Nat := catalog.owners.length

/-- A strict catalog refuses the first label that was declared under a second platform. -/
def build (strict : Bool) (declarations : List (String × List String)) :
    Except Reassignment Catalog :=
  let catalog := ofDeclarations declarations
  match strict, catalog.reassignments with
  | true, first :: _ => .error first
  | _, _ => .ok catalog

end Catalog
end JobMatrix
