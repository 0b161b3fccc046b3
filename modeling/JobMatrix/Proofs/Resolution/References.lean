import JobMatrix.Proofs.Resolution.Selection

/-!
The names that a repro refers to. Whatever labels are left, a resolution notes every name that the
repro refers to and the catalog does not have, and no other name. These come on top of what the
ledger held before, and nothing in the ledger has a part in the outcome.
-/
namespace JobMatrix

namespace Repro

/-- Platforms that stand beside the word for all of them are not referred to. -/
def namedPlatforms (repro : Repro) : NameSet :=
  (if repro.supportsAny then ∅ else repro.supports) ∪ repro.limits.includePlatforms ∪
    repro.limits.excludePlatforms

def namedLabels (repro : Repro) : NameSet :=
  repro.limits.includeLabels ∪ repro.limits.excludeLabels

end Repro

def Catalog.missing (catalog : Catalog) (repro : Repro) : Unknowns :=
  ⟨catalog.unknownPlatforms repro.namedPlatforms, catalog.unknownLabels repro.namedLabels⟩

variable {catalog : Catalog} {repro : Repro} {ledger : Ledger}

theorem Selection.notes_start : (start catalog repro ledger).notes =
    (Notebook.mk Unknowns.none ledger).noting
      ⟨catalog.unknownPlatforms (if repro.supportsAny then ∅ else repro.supports), ∅⟩ := by
  unfold start
  dsimp only
  split
  · exact Notebook.noting_none.symm
  · rw [catalog.collectLabels_looksUp.eq]

theorem Selection.notes_limit {selection : Selection} {limits : Limits} :
    (selection.limit catalog limits).notes =
      (((selection.notes.noting ⟨catalog.unknownPlatforms limits.includePlatforms, ∅⟩).noting
        ⟨∅, catalog.unknownLabels limits.includeLabels⟩).noting
        ⟨catalog.unknownPlatforms limits.excludePlatforms, ∅⟩).noting
        ⟨∅, catalog.unknownLabels limits.excludeLabels⟩ := by
  rw [limit, keepDeclared, notes_narrow catalog.partitionLabels_looksUp,
    notes_narrow catalog.collectLabels_looksUp, notes_narrow catalog.partitionLabels_looksUp,
    notes_narrow catalog.collectLabels_looksUp]

namespace Catalog

theorem select_notes : (catalog.select repro ledger).notes =
    ⟨catalog.missing repro, ledger.noting (catalog.missing repro)⟩ := by
  have noted : (catalog.select repro ledger).notes =
      (Notebook.mk Unknowns.none ledger).noting (catalog.missing repro) := by
    rw [select, Selection.notes_limit, Selection.notes_start]
    simp only [Notebook.noting_noting]
    congr 1
    apply Unknowns.eq_of_mem_iff
    · intro name
      simp only [missing, Repro.namedPlatforms, Unknowns.mem_union_platforms,
        mem_unknownPlatforms, NameSet.mem_union, NameSet.not_mem_empty, or_false, or_and_right]
    · intro name
      simp only [missing, Repro.namedLabels, Unknowns.mem_union_labels, mem_unknownLabels,
        NameSet.mem_union, NameSet.not_mem_empty, or_false, false_or, or_and_right]
  rw [noted, Notebook.noting, Unknowns.none_union]

/-- The labels that remain settle the outcome, in whatever ledger a repro is resolved, and the
ledger gains what the repro refers to in vain. -/
theorem ledger_resolve_eq : ledger.resolve catalog repro =
    (if (catalog.remaining repro).isEmpty then
      .skipped ⟨repro.name, repro.supports, repro.limits.given, catalog.missing repro⟩
    else .scheduled (catalog.jobsOn repro.name (catalog.remaining repro)),
    ledger.noting (catalog.missing repro)) := by
  unfold Ledger.resolve
  dsimp only
  rw [select_labels, select_notes]

/-- A resolution notes what its repro refers to in vain, be it scheduled or skipped. -/
theorem resolve_unknown : (catalog.resolve repro).unknown = catalog.missing repro := by
  unfold resolve alone
  rw [ledger_resolve_eq]
  exact Unknowns.none_union _

theorem resolve_outcome : (catalog.resolve repro).outcome =
    if (catalog.remaining repro).isEmpty then
      .skipped ⟨repro.name, repro.supports, repro.limits.given, catalog.missing repro⟩
    else .scheduled (catalog.jobsOn repro.name (catalog.remaining repro)) := by
  unfold resolve alone
  rw [ledger_resolve_eq]

/-- A skip gives the same names as its cause. -/
theorem resolve_skip? : (catalog.resolve repro).outcome.skip? =
    if (catalog.remaining repro).isEmpty then
      some ⟨repro.name, repro.supports, repro.limits.given, catalog.missing repro⟩
    else none := by
  rw [resolve_outcome]
  split
  · rfl
  · rfl

end Catalog

/-- Resolving in a shared ledger comes to the outcome that the repro has by itself, and adds its
unknown names to the ledger. -/
theorem Ledger.resolve_eq : ledger.resolve catalog repro =
    ((catalog.resolve repro).outcome, ledger.noting (catalog.resolve repro).unknown) := by
  rw [Catalog.resolve_outcome, Catalog.resolve_unknown, Catalog.ledger_resolve_eq]

end JobMatrix
