import JobMatrix.Proofs.Resolution.Noting

/-!
Which labels a resolution leaves, step by step, and which jobs they become. Each step of a selection
is described by the labels it lets through, and the jobs of an outcome by their labels.
-/
namespace JobMatrix

namespace Selection

variable {catalog : Catalog} {selection : Selection} {label : String}

theorem mem_start {repro : Repro} {ledger : Ledger} :
    label ∈ (start catalog repro ledger).labels ↔
      if repro.supportsAny then catalog.hasLabel label = true
      else label ∈ catalog.labelsOn repro.supports := by
  unfold start
  dsimp only
  split
  · exact Catalog.mem_labels
  · rw [catalog.collectLabels_looksUp.eq]

section Narrowing

variable {lookUp : NameSet → Notebook → NameSet × Notebook} {found : NameSet → NameSet}
  {unknown : NameSet → Unknowns} {names : NameSet}

theorem mem_narrow_inter (looks : Catalog.LooksUp lookUp found unknown) :
    label ∈ (selection.narrow lookUp (· ∩ ·) names).labels ↔
      label ∈ selection.labels ∧ (names ≠ ∅ → label ∈ found names) := by
  unfold narrow
  split
  · rename_i none
    rw [NameSet.isEmpty_iff] at none
    simp [none]
  · rename_i some
    rw [NameSet.isEmpty_iff] at some
    rw [looks.eq, NameSet.mem_inter, forall_prop_of_true some]

/-- Taking away what no name stands for takes away nothing. -/
theorem mem_narrow_sdiff (looks : Catalog.LooksUp lookUp found unknown) :
    label ∈ (selection.narrow lookUp (· \ ·) names).labels ↔
      label ∈ selection.labels ∧ label ∉ found names := by
  unfold narrow
  split
  · rename_i none
    rw [NameSet.isEmpty_iff.mp none, looks.found_empty,
      and_iff_left (NameSet.not_mem_empty label)]
  · rw [looks.eq, NameSet.mem_sdiff]

/-- An empty list has nothing to note, so a limit that it switches off notes what it would have. -/
theorem notes_narrow (looks : Catalog.LooksUp lookUp found unknown)
    {combine : NameSet → NameSet → NameSet} :
    (selection.narrow lookUp combine names).notes = selection.notes.noting (unknown names) := by
  unfold narrow
  split
  · rename_i none
    rw [NameSet.isEmpty_iff.mp none, looks.unknown_empty, Notebook.noting_none]
  · rw [looks.eq]

end Narrowing

theorem mem_keepDeclared : label ∈ (selection.keepDeclared catalog).labels ↔
    label ∈ selection.labels ∧ catalog.hasLabel label = true := by
  rw [keepDeclared, NameSet.mem_inter, Catalog.mem_labels]

/-- What every limit asks of a label that is left. -/
theorem mem_limit {limits : Limits} : label ∈ (selection.limit catalog limits).labels ↔
    ((((label ∈ selection.labels ∧
      (limits.includePlatforms ≠ ∅ → label ∈ catalog.labelsOn limits.includePlatforms)) ∧
      (limits.includeLabels ≠ ∅ → label ∈ catalog.knownLabels limits.includeLabels)) ∧
      label ∉ catalog.labelsOn limits.excludePlatforms) ∧
      label ∉ catalog.knownLabels limits.excludeLabels) ∧ catalog.hasLabel label = true := by
  rw [limit, mem_keepDeclared, mem_narrow_sdiff catalog.partitionLabels_looksUp,
    mem_narrow_sdiff catalog.collectLabels_looksUp,
    mem_narrow_inter catalog.partitionLabels_looksUp,
    mem_narrow_inter catalog.collectLabels_looksUp]

end Selection

namespace Outcome

def jobs : Outcome → List Job
  | .scheduled jobs => jobs
  | .skipped _ => []

def skip? : Outcome → Option Skip
  | .scheduled _ => none
  | .skipped skip => some skip

end Outcome

structure Resolution where
  outcome : Outcome
  unknown : Unknowns
  deriving DecidableEq

namespace Catalog

/-- A repro resolved in a ledger of its own. -/
def alone (catalog : Catalog) (repro : Repro) : Outcome × Ledger :=
  Ledger.empty.resolve catalog repro

def resolve (catalog : Catalog) (repro : Repro) : Resolution :=
  ⟨(catalog.alone repro).1, (catalog.alone repro).2.findings.unknown⟩

def remaining (catalog : Catalog) (repro : Repro) : NameSet :=
  (catalog.select repro Ledger.empty).labels

variable {catalog : Catalog} {repro : Repro} {label : String}

theorem select_labels (ledger : Ledger) :
    (catalog.select repro ledger).labels = catalog.remaining repro := by
  apply NameSet.ext
  intro label
  simp only [remaining, select, Selection.mem_limit, Selection.mem_start]

theorem mem_remaining : label ∈ catalog.remaining repro ↔
    (((((if repro.supportsAny then catalog.hasLabel label = true
        else label ∈ catalog.labelsOn repro.supports) ∧
      (repro.limits.includePlatforms ≠ ∅ →
        label ∈ catalog.labelsOn repro.limits.includePlatforms)) ∧
      (repro.limits.includeLabels ≠ ∅ → label ∈ catalog.knownLabels repro.limits.includeLabels)) ∧
      label ∉ catalog.labelsOn repro.limits.excludePlatforms) ∧
      label ∉ catalog.knownLabels repro.limits.excludeLabels) ∧ catalog.hasLabel label = true := by
  rw [remaining, select, Selection.mem_limit, Selection.mem_start]

theorem mem_jobsOn {name : String} {labels : NameSet} {job : Job} :
    job ∈ catalog.jobsOn name labels ↔
      job.label ∈ labels ∧ catalog.ownerOf? job.label = some job.platform ∧ job.repro = name := by
  simp only [jobsOn, List.mem_filterMap, Option.map_eq_some_iff, NameSet.mem_toList]
  constructor
  · rintro ⟨label, member, platform, owner, rfl⟩
    exact ⟨member, owner, rfl⟩
  · rintro ⟨member, owner, rfl⟩
    exact ⟨job.label, member, job.platform, owner, rfl⟩

/-- Jobs are listed by ascending label. -/
theorem jobsOn_ascending (name : String) (labels : NameSet) :
    (catalog.jobsOn name labels).Pairwise fun a b => a.label < b.label := by
  refine List.Pairwise.filterMap _ ?_ labels.ascending
  intro label other below job found other' found'
  obtain ⟨platform, _, rfl⟩ := Option.map_eq_some_iff.mp found
  obtain ⟨platform', _, rfl⟩ := Option.map_eq_some_iff.mp found'
  exact below

theorem resolve_jobs :
    (catalog.resolve repro).outcome.jobs = catalog.jobsOn repro.name (catalog.remaining repro) := by
  unfold resolve alone Ledger.resolve
  dsimp only
  rw [select_labels]
  split
  · rename_i none
    rw [NameSet.isEmpty_iff.mp none]
    rfl
  · rfl

theorem mem_resolve_jobs {job : Job} : job ∈ (catalog.resolve repro).outcome.jobs ↔
    job.label ∈ catalog.remaining repro ∧
      catalog.ownerOf? job.label = some job.platform ∧ job.repro = repro.name := by
  rw [resolve_jobs, mem_jobsOn]

end Catalog
end JobMatrix
