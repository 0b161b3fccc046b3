import JobMatrix.Plan
import JobMatrix.Proofs.Catalog.Lookups
import JobMatrix.Proofs.Resolution.References
import JobMatrix.Proofs.Text.ByteOrder
import Mathlib.Data.Set.Basic

/-!
A resolution as one set of labels. The steps of a selection, which note unknown names and pass over
empty lists on their way, leave the labels of a single expression over the sets of a repro, and each
of these labels becomes a job: what a platform lists is known, and what is known has an owner.
-/
namespace JobMatrix.Catalog

def offered (catalog : Catalog) (platforms : NameSet) : Set String :=
  {label | ∃ platform ∈ platforms, ∃ labels,
    catalog.labelsOf? platform = some labels ∧ label ∈ labels}

/-- What a list of names asks of a label, which is nothing if the list is empty. -/
def within (names : NameSet) (labels : Set String) : Set String :=
  if names = ∅ then Set.univ else labels

def supported (catalog : Catalog) (repro : Repro) : Set String :=
  if repro.supports = ∅ ∨ "any" ∈ repro.supports then {label | label ∈ catalog.labels}
  else catalog.offered repro.supports

def eligible (catalog : Catalog) (repro : Repro) : Set String :=
  (catalog.supported repro
    ∩ within repro.limits.includePlatforms (catalog.offered repro.limits.includePlatforms)
    ∩ within repro.limits.includeLabels {label | label ∈ repro.limits.includeLabels})
    \ (catalog.offered repro.limits.excludePlatforms
      ∪ {label | label ∈ repro.limits.excludeLabels})

/-- The outcome that belongs to the eligible labels of a repro. -/
inductive Follows (catalog : Catalog) (repro : Repro) : Outcome → Prop
  | scheduled {jobs : List Job} (some : (catalog.eligible repro).Nonempty)
      (ascending : jobs.Pairwise fun a b => Text.bytes a.label < Text.bytes b.label)
      (labels : ∀ label, (∃ job ∈ jobs, job.label = label) ↔ label ∈ catalog.eligible repro)
      (owned : ∀ job ∈ jobs, job.repro = repro.name ∧
        catalog.ownerOf? job.label = .some job.platform) :
    Follows catalog repro (.scheduled jobs)
  | skipped {skip : Skip} (none : catalog.eligible repro = ∅) (name : skip.name = repro.name)
      (supports : skip.cause.supports = repro.supports)
      (limited : skip.cause.limited = repro.limits.given)
      (platforms : ∀ name, name ∈ skip.cause.unknown.platforms ↔
        (name ∈ repro.supports ∧ "any" ∉ repro.supports ∨
          name ∈ repro.limits.includePlatforms ∨ name ∈ repro.limits.excludePlatforms) ∧
        catalog.labelsOf? name = .none)
      (labels : ∀ name, name ∈ skip.cause.unknown.labels ↔
        (name ∈ repro.limits.includeLabels ∨ name ∈ repro.limits.excludeLabels) ∧
        catalog.ownerOf? name = .none) :
    Follows catalog repro (.skipped skip)

theorem mem_labelsOn_iff_offered {catalog : Catalog} {platforms : NameSet} {label : String} :
    label ∈ catalog.labelsOn platforms ↔ label ∈ catalog.offered platforms := by
  rw [mem_labelsOn]
  unfold offered
  rw [Set.mem_ofPred_eq]
  apply exists_congr
  intro platform
  apply and_congr_right
  intro _
  cases catalog.labelsOf? platform with
  | none => simp
  | some labels => simp

theorem mem_within {names : NameSet} {labels : Set String} {label : String} :
    label ∈ within names labels ↔ (names ≠ ∅ → label ∈ labels) := by
  unfold within
  split
  · rename_i none
    simp [none]
  · rename_i some
    simp [some]

variable {declarations : Declarations} {repro : Repro} {label : String}

theorem hasLabel_of_offered {platforms : NameSet}
    (offered : label ∈ (ofDeclarations declarations).offered platforms) :
    (ofDeclarations declarations).hasLabel label = true := by
  obtain ⟨platform, _, labels, found, listed⟩ := offered
  exact hasLabel_of_listed found listed

theorem started_iff_supported {catalog : Catalog} :
    (if repro.supportsAny then catalog.hasLabel label = true
      else label ∈ catalog.labelsOn repro.supports) ↔ label ∈ catalog.supported repro := by
  unfold supported
  by_cases every : repro.supportsAny = true
  · rw [if_pos every, if_pos (Repro.supportsAny_iff.mp every), Set.mem_ofPred_eq, mem_labels]
  · rw [if_neg every, if_neg (mt Repro.supportsAny_iff.mpr every), mem_labelsOn_iff_offered]

/-- A label is known from the start, so no later step has to ask for it. -/
theorem hasLabel_of_supported (supported : label ∈ (ofDeclarations declarations).supported repro) :
    (ofDeclarations declarations).hasLabel label = true := by
  unfold Catalog.supported at supported
  split at supported
  · exact mem_labels.mp supported
  · exact hasLabel_of_offered supported

theorem mem_remaining_iff : label ∈ (ofDeclarations declarations).remaining repro ↔
    label ∈ (ofDeclarations declarations).eligible repro := by
  unfold eligible
  rw [mem_remaining, started_iff_supported, Set.mem_sdiff, Set.mem_inter_iff,
    Set.mem_inter_iff, Set.mem_union, mem_within, mem_within, not_or, mem_labelsOn_iff_offered,
    mem_labelsOn_iff_offered, mem_knownLabels, mem_knownLabels]
  constructor
  · rintro ⟨⟨⟨⟨⟨supported, onPlatforms⟩, amongLabels⟩, offPlatforms⟩, offLabels⟩, known⟩
    exact ⟨⟨⟨supported, onPlatforms⟩, fun some => (amongLabels some).1⟩, offPlatforms,
      fun excluded => offLabels ⟨excluded, known⟩⟩
  · rintro ⟨⟨⟨supported, onPlatforms⟩, amongLabels⟩, offPlatforms, offLabels⟩
    have known := hasLabel_of_supported supported
    exact ⟨⟨⟨⟨⟨supported, onPlatforms⟩, fun some => ⟨amongLabels some, known⟩⟩, offPlatforms⟩,
      fun excluded => offLabels excluded.1⟩, known⟩

theorem eligible_eq_empty_iff : (ofDeclarations declarations).eligible repro = ∅ ↔
    (ofDeclarations declarations).remaining repro = ∅ := by
  rw [Set.eq_empty_iff_forall_notMem]
  constructor
  · intro none
    apply NameSet.ext
    intro label
    exact iff_of_false (fun member => none label (mem_remaining_iff.mp member))
      (NameSet.not_mem_empty label)
  · intro none label member
    exact NameSet.ne_empty_of_mem (mem_remaining_iff.mpr member) none

/-- No eligible label is lost on the way to its job. -/
theorem exists_job_iff : (∃ job ∈ (ofDeclarations declarations).jobsOn repro.name
      ((ofDeclarations declarations).remaining repro), job.label = label) ↔
    label ∈ (ofDeclarations declarations).eligible repro := by
  rw [← mem_remaining_iff]
  constructor
  · rintro ⟨job, member, rfl⟩
    exact (mem_jobsOn.mp member).1
  · intro remaining
    have known := (mem_remaining.mp remaining).2
    obtain ⟨owner, owned⟩ := Option.isSome_iff_exists.mp known
    exact ⟨⟨label, repro.name, owner⟩, mem_jobsOn.mpr ⟨remaining, owned, rfl⟩, rfl⟩

theorem mem_supports_unless_any {name : String} :
    name ∈ (if repro.supportsAny then ∅ else repro.supports) ↔
      name ∈ repro.supports ∧ "any" ∉ repro.supports := by
  split
  · rename_i every
    apply iff_of_false (NameSet.not_mem_empty name)
    rintro ⟨supported, unmarked⟩
    rcases Repro.supportsAny_iff.mp every with none | any
    · exact NameSet.ne_empty_of_mem supported none
    · exact unmarked any
  · rename_i some
    have unmarked : "any" ∉ repro.supports := by
      intro any
      exact some (Repro.supportsAny_iff.mpr (.inr any))
    exact (and_iff_left unmarked).symm

theorem mem_missing_platforms {catalog : Catalog} {name : String} :
    name ∈ (catalog.missing repro).platforms ↔
      (name ∈ repro.supports ∧ "any" ∉ repro.supports ∨
        name ∈ repro.limits.includePlatforms ∨ name ∈ repro.limits.excludePlatforms) ∧
      catalog.labelsOf? name = none := by
  rw [missing, mem_unknownPlatforms, Repro.namedPlatforms, NameSet.mem_union, NameSet.mem_union,
    mem_supports_unless_any, or_assoc, hasPlatform, Option.isSome_eq_false_iff,
    Option.isNone_iff_eq_none]

theorem mem_missing_labels {catalog : Catalog} {name : String} :
    name ∈ (catalog.missing repro).labels ↔
      (name ∈ repro.limits.includeLabels ∨ name ∈ repro.limits.excludeLabels) ∧
      catalog.ownerOf? name = none := by
  rw [missing, mem_unknownLabels, Repro.namedLabels, NameSet.mem_union, hasLabel,
    Option.isSome_eq_false_iff, Option.isNone_iff_eq_none]

theorem follows_resolve : (ofDeclarations declarations).Follows repro
    ((ofDeclarations declarations).resolve repro).outcome := by
  rw [resolve_outcome]
  split
  · rename_i none
    rw [NameSet.isEmpty_iff] at none
    exact .skipped (eligible_eq_empty_iff.mpr none) rfl rfl rfl
      (fun _ => mem_missing_platforms) (fun _ => mem_missing_labels)
  · rename_i some
    rw [NameSet.isEmpty_iff, ← eligible_eq_empty_iff] at some
    apply Follows.scheduled (Set.nonempty_iff_ne_empty.mpr some)
    case ascending =>
      apply (jobsOn_ascending repro.name _).imp
      intro a b below
      exact Text.bytes_lt_iff.mpr below
    case labels =>
      intro label
      exact exists_job_iff
    case owned =>
      intro job member
      obtain ⟨_, owned, name⟩ := mem_jobsOn.mp member
      exact ⟨name, owned⟩

theorem Follows.scheduled_iff {catalog : Catalog} {outcome : Outcome}
    (follows : catalog.Follows repro outcome) :
    (∃ jobs, outcome = .scheduled jobs) ↔ (catalog.eligible repro).Nonempty := by
  cases follows with
  | scheduled some ascending labels owned => simp [some]
  | skipped none name supports limited platforms labels => simp [none]

/-- In whatever ledger a repro is resolved, it is scheduled just when it has an eligible label, with
one job for each of them, and skipped with all that it refers to in vain otherwise. -/
theorem resolve_follows_formula (declarations : Declarations) (repro : Repro) (ledger : Ledger) :
    ((∃ jobs, (ledger.resolve (ofDeclarations declarations) repro).1 = .scheduled jobs) ↔
      ((ofDeclarations declarations).eligible repro).Nonempty) ∧
    (ofDeclarations declarations).Follows repro
      (ledger.resolve (ofDeclarations declarations) repro).1 := by
  have follows : (ofDeclarations declarations).Follows repro
      (ledger.resolve (ofDeclarations declarations) repro).1 := by
    rw [Ledger.resolve_eq]
    exact follows_resolve
  exact ⟨follows.scheduled_iff, follows⟩

end JobMatrix.Catalog
