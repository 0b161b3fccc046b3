import JobMatrix.Proofs.Catalog.Settled
import JobMatrix.Proofs.Resolution.Selection

/-!
The platforms a repro asks for. Labels are chosen by the lists of the platforms, but a job runs on
the owner of its label. In a catalog that strict runs accept the two agree, so jobs stay on the
platforms that were asked for.
-/
namespace JobMatrix.Catalog

variable {declarations : Declarations}

/-- A label chosen by the lists of some platforms is owned by one of them. -/
theorem owner_mem_of_mem_labelsOn (settled : Settled declarations) {platforms : NameSet}
    {label owner : String} (owned : (ofDeclarations declarations).ownerOf? label = some owner)
    (chosen : label ∈ (ofDeclarations declarations).labelsOn platforms) : owner ∈ platforms := by
  obtain ⟨platform, asked, listed⟩ := mem_labelsOn.mp chosen
  have same := owner_of_listed settled listed
  rw [owned, Option.some.injEq] at same
  exact same ▸ asked

theorem supports_of_remaining {catalog : Catalog} {repro : Repro} {label : String}
    (remaining : label ∈ catalog.remaining repro) :
    repro.supports = ∅ ∨ "any" ∈ repro.supports ∨
      label ∈ catalog.labelsOn repro.supports := by
  have started := (mem_remaining.mp remaining).1.1.1.1.1
  split at started
  · rename_i every
    rcases Repro.supportsAny_iff.mp every with none | any
    · exact .inl none
    · exact .inr (.inl any)
  · exact .inr (.inr started)

theorem included_of_remaining {catalog : Catalog} {repro : Repro} {label : String}
    (remaining : label ∈ catalog.remaining repro) :
    repro.limits.includePlatforms = ∅ ∨
      label ∈ catalog.labelsOn repro.limits.includePlatforms := by
  have included := (mem_remaining.mp remaining).1.1.1.1.2
  by_cases none : repro.limits.includePlatforms = ∅
  · exact .inl none
  · exact .inr (included none)

/-- In a catalog that strict runs accept, a job runs on a supported platform, unless all of them
are, and on an included one, unless none is named. -/
theorem job_platform_asked (quiet : (ofDeclarations declarations).reassignments = []) :
    build true declarations = .ok (ofDeclarations declarations) ∧
    ∀ repro : Repro, ∀ job ∈ ((ofDeclarations declarations).resolve repro).outcome.jobs,
      (repro.supports = ∅ ∨ "any" ∈ repro.supports ∨ job.platform ∈ repro.supports) ∧
      (repro.limits.includePlatforms = ∅ ∨ job.platform ∈ repro.limits.includePlatforms) := by
  refine ⟨build_strict quiet, ?_⟩
  have settled := reassignments_eq_nil_iff.mp quiet
  intro repro job member
  obtain ⟨remaining, owner, _⟩ := mem_resolve_jobs.mp member
  constructor
  · rcases supports_of_remaining remaining with none | any | chosen
    · exact .inl none
    · exact .inr (.inl any)
    · exact .inr (.inr (owner_mem_of_mem_labelsOn settled owner chosen))
  · rcases included_of_remaining remaining with none | chosen
    · exact .inl none
    · exact .inr (owner_mem_of_mem_labelsOn settled owner chosen)

def narrowed (name : String) (supports included : List String) : Repro :=
  ⟨name, NameSet.ofList supports, true, NameSet.ofList included, ∅, ∅, ∅⟩

def respelled : Declarations := [("Linux", ["a"]), ("macOS", ["m"]), ("LINUX", ["b", "a"])]

theorem respelled_linux_asked :
    (ofDeclarations respelled).reassignments = [] ∧
    ⟨"a", "t", "linux"⟩ ∈ ((ofDeclarations respelled).resolve
      (narrowed "t" ["linux", "macos"] ["linux"])).outcome.jobs ∧
    (NameSet.ofList ["linux", "macos"] = ∅ ∨ "any" ∈ NameSet.ofList ["linux", "macos"] ∨
      "linux" ∈ NameSet.ofList ["linux", "macos"]) ∧
    (NameSet.ofList ["linux"] = ∅ ∨ "linux" ∈ NameSet.ofList ["linux"]) := by
  have quiet : (ofDeclarations respelled).reassignments = [] := by decide
  have scheduled : ⟨"a", "t", "linux"⟩ ∈ ((ofDeclarations respelled).resolve
      (narrowed "t" ["linux", "macos"] ["linux"])).outcome.jobs := by decide
  exact ⟨quiet, scheduled, (job_platform_asked quiet).2 _ _ scheduled⟩

/-- Where a label changes its platform, a job can leave the platform that was asked for. -/
example : ⟨"shared", "t", "windows"⟩ ∈
    ((ofDeclarations [("linux", ["shared"]), ("windows", ["shared"])]).resolve
      (narrowed "t" ["linux"] [])).outcome.jobs := by decide

end JobMatrix.Catalog
