import JobMatrix.Proofs.Catalog.Settled
import JobMatrix.Proofs.Resolution.Selection

/-!
Excluded platforms. Excluding a platform takes away the labels that it has now, so a job can run on
an excluded platform only if its label was in a list of the platform that a later declaration has
replaced, and each such label does run when nothing else keeps it out.
-/
namespace JobMatrix.Catalog

theorem missing_of_excluded {catalog : Catalog} {repro : Repro} {job : Job}
    (member : job ∈ (catalog.resolve repro).outcome.jobs)
    (excluded : job.platform ∈ repro.limits.excludePlatforms) :
    job.label ∉ (catalog.labelsOf? job.platform).getD [] := by
  intro listed
  have left := mem_remaining.mp (mem_resolve_jobs.mp member).1
  exact left.1.1.2 (mem_labelsOn.mpr ⟨job.platform, excluded, listed⟩)

def without (name platform : String) : Repro :=
  ⟨name, ∅, true, ∅, ∅, NameSet.ofList [platform], ∅⟩

theorem job_of_missing {catalog : Catalog} {label platform : String} (name : String)
    (owner : catalog.ownerOf? label = some platform)
    (missing : label ∉ (catalog.labelsOf? platform).getD []) :
    ⟨label, name, platform⟩ ∈ (catalog.resolve (without name platform)).outcome.jobs := by
  have known : catalog.hasLabel label = true := by rw [hasLabel, owner, Option.isSome_some]
  have free : label ∉ catalog.labelsOn (NameSet.ofList [platform]) := by
    intro inside
    obtain ⟨other, among, listed⟩ := mem_labelsOn.mp inside
    rw [NameSet.mem_ofList, List.mem_singleton] at among
    exact missing (among ▸ listed)
  have unnamed : label ∉ catalog.knownLabels ∅ := fun inside =>
    NameSet.not_mem_empty label (mem_knownLabels.mp inside).1
  refine mem_resolve_jobs.mpr ⟨mem_remaining.mpr ?_, owner, rfl⟩
  exact ⟨⟨⟨⟨⟨known, fun some => absurd rfl some⟩, fun some => absurd rfl some⟩, free⟩, unnamed⟩,
    known⟩

def redeclared : Declarations := [("Linux", ["old"]), ("linux", ["new"])]

theorem excluded_platform_runs :
    ¬∀ (strict : Bool) (declarations : Declarations) (catalog : Catalog) (repro : Repro),
      build strict declarations = .ok catalog →
      ∀ job ∈ (catalog.resolve repro).outcome.jobs,
        job.platform ∉ repro.limits.excludePlatforms := by
  intro never
  have scheduled : ⟨"old", "t", "linux"⟩ ∈
      ((ofDeclarations redeclared).resolve (without "t" "linux")).outcome.jobs := by decide
  exact never true redeclared _ (without "t" "linux") rfl _ scheduled (by decide)

/-- Only labels of replaced lists run on an excluded platform, and all of them can. -/
theorem excluded_platform_job_replaced {strict : Bool} {declarations : Declarations}
    {catalog : Catalog} (built : build strict declarations = .ok catalog) :
    (∀ repro : Repro, ∀ job ∈ (catalog.resolve repro).outcome.jobs,
      job.platform ∈ repro.limits.excludePlatforms →
        Replaced declarations job.platform job.label) ∧
    ∀ name label platform, catalog.ownerOf? label = some platform →
      Replaced declarations platform label →
        ⟨label, name, platform⟩ ∈ (catalog.resolve (without name platform)).outcome.jobs := by
  obtain rfl := build_ok built
  constructor
  · intro repro job member excluded
    have owner := (mem_resolve_jobs.mp member).2.1
    exact replaced_of_owner owner (missing_of_excluded member excluded)
  · intro name label platform owner replaced
    exact job_of_missing name owner (missing_of_replaced replaced)

theorem old_linux_label_replaced :
    build true redeclared = .ok (ofDeclarations redeclared) ∧
    ⟨"old", "t", "linux"⟩ ∈
      ((ofDeclarations redeclared).resolve (without "t" "linux")).outcome.jobs ∧
    "linux" ∈ (without "t" "linux").limits.excludePlatforms ∧
    Replaced redeclared "linux" "old" := by
  have built : build true redeclared = .ok (ofDeclarations redeclared) := rfl
  have scheduled : ⟨"old", "t", "linux"⟩ ∈
      ((ofDeclarations redeclared).resolve (without "t" "linux")).outcome.jobs := by decide
  have excluded : "linux" ∈ (without "t" "linux").limits.excludePlatforms := by decide
  exact ⟨built, scheduled, excluded,
    (excluded_platform_job_replaced built).1 (without "t" "linux") _ scheduled excluded⟩

end JobMatrix.Catalog
