import JobMatrix.Catalog
import JobMatrix.Ledger
import JobMatrix.Repro

/-!
Where one repro runs. Starting from the labels of the supported platforms, each limit in turn
narrows the choice; what is left is one job a label, or a skip. Names the catalog does not have
narrow like an empty platform or label. Each is noted where it is met, once for the repro, whose
skip tells it, and once in the ledger of the run.
-/
namespace JobMatrix

/-- The unknown names of one repro, and the ledger of the run it belongs to. -/
structure Notebook where
  unknown : Unknowns
  ledger : Ledger
  deriving DecidableEq

def Notebook.note (add : Unknowns → String → Unknowns) (notes : Notebook) (name : String) :
    Notebook :=
  ⟨add notes.unknown name, notes.ledger.note add name⟩

/-- Looks names up one after another. The labels that a name stands for are added to those found,
a name that stands for nothing is noted. -/
def gather (meant? : String → Option (List String)) (add : Unknowns → String → Unknowns)
    (found : NameSet) (notes : Notebook) : List String → NameSet × Notebook
  | [] => (found, notes)
  | name :: rest =>
    match meant? name with
    | some labels => gather meant? add (found.addAll labels) notes rest
    | none => gather meant? add found (notes.note add name) rest

namespace Catalog

def collectLabels (catalog : Catalog) (platforms : NameSet) (notes : Notebook) :
    NameSet × Notebook :=
  gather catalog.labelsOf? Unknowns.withPlatform ∅ notes platforms.toList

def partitionLabels (catalog : Catalog) (labels : NameSet) (notes : Notebook) :
    NameSet × Notebook :=
  gather (fun label => if catalog.hasLabel label then some [label] else none)
    Unknowns.withLabel ∅ notes labels.toList

end Catalog

structure Selection where
  labels : NameSet
  notes : Notebook
  deriving DecidableEq

namespace Selection

def start (catalog : Catalog) (repro : Repro) (ledger : Ledger) : Selection :=
  let notes : Notebook := ⟨Unknowns.none, ledger⟩
  if repro.supportsAny then ⟨catalog.labels, notes⟩
  else
    let (labels, notes) := catalog.collectLabels repro.supports notes
    ⟨labels, notes⟩

/-- Combines the labels in question with those that some names stand for. Without names, nothing is
looked up. -/
def narrow (lookUp : NameSet → Notebook → NameSet × Notebook)
    (combine : NameSet → NameSet → NameSet) (names : NameSet) (selection : Selection) :
    Selection :=
  if names.isEmpty then selection
  else
    let (found, notes) := lookUp names selection.notes
    ⟨combine selection.labels found, notes⟩

def keepDeclared (catalog : Catalog) (selection : Selection) : Selection :=
  { selection with labels := selection.labels ∩ catalog.labels }

def limit (catalog : Catalog) (limits : Limits) (selection : Selection) : Selection :=
  selection
    |>.narrow catalog.collectLabels (· ∩ ·) limits.includePlatforms
    |>.narrow catalog.partitionLabels (· ∩ ·) limits.includeLabels
    |>.narrow catalog.collectLabels (· \ ·) limits.excludePlatforms
    |>.narrow catalog.partitionLabels (· \ ·) limits.excludeLabels
    |>.keepDeclared catalog

end Selection

namespace Catalog

def select (catalog : Catalog) (repro : Repro) (ledger : Ledger) : Selection :=
  (Selection.start catalog repro ledger).limit catalog repro.limits

def jobsOn (catalog : Catalog) (repro : String) (labels : NameSet) : List Job :=
  labels.toList.filterMap fun label =>
    (catalog.ownerOf? label).map fun platform => ⟨label, repro, platform⟩

end Catalog

/-- The outcome is not recorded, but the unknown names are in the ledger already. -/
def Ledger.resolve (catalog : Catalog) (repro : Repro) (ledger : Ledger) : Outcome × Ledger :=
  let selection := catalog.select repro ledger
  let outcome :=
    if selection.labels.isEmpty then
      .skipped ⟨repro.name, repro.supports, repro.limits.given, selection.notes.unknown⟩
    else .scheduled (catalog.jobsOn repro.name selection.labels)
  (outcome, selection.notes.ledger)

end JobMatrix
