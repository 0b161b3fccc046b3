import JobMatrix.Proofs.Plan.Jobs

/-!
Names that the catalog does not have. Added to the lists of a repro they are noted as unknown and
change nothing else in a plan, as long as no list gets its first name by it: an empty list keeps
every label, and one with unknown names alone keeps none.
-/
namespace JobMatrix

structure Additions where
  supports : NameSet
  includePlatforms : NameSet
  includeLabels : NameSet
  excludePlatforms : NameSet
  excludeLabels : NameSet

namespace Additions

def platforms (names : Additions) : NameSet :=
  names.supports ∪ names.includePlatforms ∪ names.excludePlatforms

def labels (names : Additions) : NameSet := names.includeLabels ∪ names.excludeLabels

/-- The catalog has none of the names, and only lists that name something already get more. The
word for all platforms is neither among the supported ones nor among those added to them. -/
structure Unheard (names : Additions) (catalog : Catalog) (repro : Repro) : Prop where
  platforms : ∀ platform ∈ names.platforms, catalog.hasPlatform platform = false
  labels : ∀ label ∈ names.labels, catalog.hasLabel label = false
  supports : names.supports ≠ ∅ →
    repro.supports ≠ ∅ ∧ "any" ∉ repro.supports ∧ "any" ∉ names.supports
  includePlatforms : names.includePlatforms ≠ ∅ → repro.limits.includePlatforms ≠ ∅
  includeLabels : names.includeLabels ≠ ∅ → repro.limits.includeLabels ≠ ∅

theorem mem_platforms {names : Additions} {name : String} : name ∈ names.platforms ↔
    name ∈ names.supports ∨ name ∈ names.includePlatforms ∨ name ∈ names.excludePlatforms := by
  rw [platforms, NameSet.mem_union, NameSet.mem_union, or_assoc]

theorem mem_labels {names : Additions} {name : String} : name ∈ names.labels ↔
    name ∈ names.includeLabels ∨ name ∈ names.excludeLabels := NameSet.mem_union

end Additions

def Repro.adding (repro : Repro) (names : Additions) : Repro where
  name := repro.name
  supports := repro.supports ∪ names.supports
  limits :=
    { given := repro.limits.given
      includePlatforms := repro.limits.includePlatforms ∪ names.includePlatforms
      includeLabels := repro.limits.includeLabels ∪ names.includeLabels
      excludePlatforms := repro.limits.excludePlatforms ∪ names.excludePlatforms
      excludeLabels := repro.limits.excludeLabels ∪ names.excludeLabels }

/-- A plan that differs from another at most in its unknown names and in the causes of its skips,
and has just these unknown names beside those of the other. -/
structure Plan.Notes (plan other : Plan) (unknown : Unknowns) : Prop where
  jobs : other.jobs = plan.jobs
  collapsed : other.collapsed = plan.collapsed
  skipped : other.findings.skips.map Skip.name = plan.findings.skips.map Skip.name
  unknown : other.findings.unknown = plan.findings.unknown ∪ unknown

namespace Catalog

variable {catalog : Catalog}

theorem labelsOn_union (platforms : NameSet) {more : NameSet}
    (unheard : ∀ platform ∈ more, catalog.hasPlatform platform = false) :
    catalog.labelsOn (platforms ∪ more) = catalog.labelsOn platforms := by
  apply NameSet.ext
  intro label
  simp only [mem_labelsOn, NameSet.mem_union]
  constructor
  · rintro ⟨platform, old | new, listed⟩
    · exact ⟨platform, old, listed⟩
    · have none := unheard platform new
      rw [hasPlatform, Option.isSome_eq_false_iff, Option.isNone_iff_eq_none] at none
      rw [none] at listed
      cases listed
  · rintro ⟨platform, old, listed⟩
    exact ⟨platform, .inl old, listed⟩

theorem knownLabels_union (labels : NameSet) {more : NameSet}
    (unheard : ∀ label ∈ more, catalog.hasLabel label = false) :
    catalog.knownLabels (labels ∪ more) = catalog.knownLabels labels := by
  apply NameSet.ext
  intro label
  simp only [mem_knownLabels, NameSet.mem_union]
  constructor
  · rintro ⟨old | new, known⟩
    · exact ⟨old, known⟩
    · rw [unheard label new] at known
      cases known
  · rintro ⟨old, known⟩
    exact ⟨.inl old, known⟩

end Catalog

namespace Additions.Unheard

variable {catalog : Catalog} {repro : Repro} {names : Additions}

theorem supportsAny (unheard : names.Unheard catalog repro) :
    (repro.adding names).supportsAny = repro.supportsAny := by
  rw [Bool.eq_iff_iff, Repro.supportsAny_iff, Repro.supportsAny_iff]
  change repro.supports ∪ names.supports = ∅ ∨ "any" ∈ repro.supports ∪ names.supports ↔ _
  rw [NameSet.union_eq_empty_iff fun some => (unheard.supports some).1, NameSet.mem_union]
  apply or_congr_right
  apply or_iff_left
  intro added
  have some : names.supports ≠ ∅ := NameSet.ne_empty_of_mem added
  exact (unheard.supports some).2.2 added

/-- A repro that supports all platforms gets none. -/
theorem not_mem_supports (unheard : names.Unheard catalog repro)
    (any : repro.supportsAny = true) (name : String) : name ∉ names.supports := by
  intro added
  obtain ⟨some, notAny, _⟩ := unheard.supports (NameSet.ne_empty_of_mem added)
  exact (Repro.supportsAny_iff.mp any).elim some notAny

/-- An unheard name brings no label in and takes none away. -/
theorem remaining (unheard : names.Unheard catalog repro) :
    catalog.remaining (repro.adding names) = catalog.remaining repro := by
  have supported := Catalog.labelsOn_union repro.supports
    fun name added => unheard.platforms name (mem_platforms.mpr (.inl added))
  have included := Catalog.labelsOn_union repro.limits.includePlatforms
    fun name added => unheard.platforms name (mem_platforms.mpr (.inr (.inl added)))
  have excluded := Catalog.labelsOn_union repro.limits.excludePlatforms
    fun name added => unheard.platforms name (mem_platforms.mpr (.inr (.inr added)))
  have kept := Catalog.knownLabels_union repro.limits.includeLabels
    fun name added => unheard.labels name (mem_labels.mpr (.inl added))
  have dropped := Catalog.knownLabels_union repro.limits.excludeLabels
    fun name added => unheard.labels name (mem_labels.mpr (.inr added))
  apply NameSet.ext
  intro label
  simp only [Catalog.mem_remaining, unheard.supportsAny]
  simp only [Repro.adding, supported, included, excluded, kept, dropped, ne_eq,
    NameSet.union_eq_empty_iff unheard.includePlatforms,
    NameSet.union_eq_empty_iff unheard.includeLabels]

theorem resolve_jobs (unheard : names.Unheard catalog repro) :
    (catalog.resolve (repro.adding names)).outcome.jobs =
      (catalog.resolve repro).outcome.jobs := by
  rw [Catalog.resolve_jobs, Catalog.resolve_jobs, unheard.remaining]
  rfl

theorem skipped_name (unheard : names.Unheard catalog repro) :
    (catalog.resolve (repro.adding names)).outcome.skip?.map Skip.name =
      (catalog.resolve repro).outcome.skip?.map Skip.name := by
  rw [Catalog.resolve_skip?, Catalog.resolve_skip?, unheard.remaining]
  split
  · rfl
  · rfl

theorem mem_namedPlatforms (unheard : names.Unheard catalog repro) {name : String} :
    name ∈ (repro.adding names).namedPlatforms ↔
      name ∈ repro.namedPlatforms ∨ name ∈ names.platforms := by
  rw [Repro.namedPlatforms, unheard.supportsAny, Repro.namedPlatforms, mem_platforms]
  simp only [Repro.adding, NameSet.mem_union]
  split
  · rename_i any
    have absent := unheard.not_mem_supports any name
    simp only [NameSet.not_mem_empty, absent, false_or]
    tauto
  · simp only [NameSet.mem_union]
    tauto

theorem mem_namedLabels {name : String} : name ∈ (repro.adding names).namedLabels ↔
    name ∈ repro.namedLabels ∨ name ∈ names.labels := by
  simp only [Repro.namedLabels, Repro.adding, mem_labels, NameSet.mem_union]
  tauto

theorem missing (unheard : names.Unheard catalog repro) :
    catalog.missing (repro.adding names) =
      catalog.missing repro ∪ ⟨names.platforms, names.labels⟩ := by
  apply Unknowns.eq_of_mem_iff
  · intro name
    simp only [Catalog.missing, Unknowns.mem_union_platforms, Catalog.mem_unknownPlatforms,
      unheard.mem_namedPlatforms, or_and_right]
    exact or_congr_right (and_iff_left_of_imp (unheard.platforms name))
  · intro name
    simp only [Catalog.missing, Unknowns.mem_union_labels, Catalog.mem_unknownLabels,
      mem_namedLabels, or_and_right]
    exact or_congr_right (and_iff_left_of_imp (unheard.labels name))

end Additions.Unheard

namespace Catalog

variable {catalog : Catalog} {repros others : List Repro}

/-- The jobs of a plan and their number are settled by the jobs that its repros resolve to. -/
theorem plan_jobs_congr (same : catalog.resolvedJobs repros = catalog.resolvedJobs others) :
    (catalog.plan repros).jobs = (catalog.plan others).jobs ∧
      (catalog.plan repros).collapsed = (catalog.plan others).collapsed := by
  unfold plan Ledger.plan
  rw [ofRepros_jobs, ofRepros_jobs, same]
  exact ⟨rfl, rfl⟩

/-- Names that the catalog does not have are noted and change nothing else in a plan. -/
theorem plan_of_unheard {repro : Repro} {names : Additions}
    (unheard : names.Unheard catalog repro) (before after : List Repro) :
    (catalog.plan (before ++ repro :: after)).Notes
      (catalog.plan (before ++ repro.adding names :: after))
      ⟨names.platforms, names.labels⟩ := by
  have same : catalog.resolvedJobs (before ++ repro.adding names :: after) =
      catalog.resolvedJobs (before ++ repro :: after) := by
    unfold resolvedJobs
    simp only [List.flatMap_append, List.flatMap_cons]
    congr 2
    exact unheard.resolve_jobs
  constructor
  case jobs => exact (plan_jobs_congr same).1
  case collapsed => exact (plan_jobs_congr same).2
  case skipped =>
    rw [plan_skips, plan_skips, List.map_filterMap, List.map_filterMap, List.filterMap_append,
      List.filterMap_append, List.filterMap_cons, List.filterMap_cons, unheard.skipped_name]
  case unknown =>
    apply Unknowns.eq_of_sides
    intro side none union name
    simp only [union, NameSet.mem_union, mem_plan_side side none union, resolve_unknown,
      List.mem_append, List.mem_cons, or_and_right, exists_or, exists_eq_left, unheard.missing]
    simp only [or_assoc, or_comm, or_left_comm]

def linuxMeetsMac : Repro where
  name := "t"
  supports := NameSet.ofList ["linux"]
  limits := ⟨true, NameSet.ofList ["macos"], ∅, ∅, ∅⟩

def strangers : Additions where
  supports := NameSet.ofList ["bsd"]
  includePlatforms := NameSet.ofList ["qnx"]
  includeLabels := ∅
  excludePlatforms := NameSet.ofList ["any", "bsd"]
  excludeLabels := NameSet.ofList ["z"]

theorem strangers_noted :
    strangers.Unheard (ofDeclarations [("Linux", ["a"]), ("macOS", ["m"])]) linuxMeetsMac ∧
    ((ofDeclarations [("Linux", ["a"]), ("macOS", ["m"])]).plan [linuxMeetsMac]).Notes
      ((ofDeclarations [("Linux", ["a"]), ("macOS", ["m"])]).plan
        [linuxMeetsMac.adding strangers])
      ⟨NameSet.ofList ["any", "bsd", "qnx"], NameSet.ofList ["z"]⟩ := by
  have unheard : strangers.Unheard (ofDeclarations [("Linux", ["a"]), ("macOS", ["m"])])
      linuxMeetsMac := by
    constructor
    case platforms =>
      show ∀ platform ∈ strangers.platforms.toList, _
      decide
    case labels =>
      show ∀ label ∈ strangers.labels.toList, _
      decide
    all_goals decide
  have noted := plan_of_unheard unheard [] []
  have platforms : strangers.platforms = NameSet.ofList ["any", "bsd", "qnx"] := by decide
  have labels : strangers.labels = NameSet.ofList ["z"] := by decide
  rw [platforms, labels] at noted
  exact ⟨unheard, noted⟩

end Catalog
end JobMatrix
