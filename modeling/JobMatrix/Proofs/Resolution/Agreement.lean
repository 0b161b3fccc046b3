import JobMatrix.Plan
import JobMatrix.Proofs.Catalog.Lookups
import JobMatrix.Proofs.Resolution.References
import Mathlib.Data.List.Forall2

/-!
Catalogs that resolve every repro alike. A resolution asks a catalog only which platforms it has,
which labels are in their lists and who owns a label, so the order of declarations and lists, the
letter case of names and repeated labels are lost where no declaration replaces another.
-/
namespace JobMatrix.Catalog

structure Agrees (catalog other : Catalog) : Prop where
  platforms : ∀ platform, catalog.hasPlatform platform = other.hasPlatform platform
  listed : ∀ platform label, label ∈ (catalog.labelsOf? platform).getD [] ↔
    label ∈ (other.labelsOf? platform).getD []
  owners : ∀ label, catalog.ownerOf? label = other.ownerOf? label

namespace Agrees

variable {catalog other : Catalog}

theorem hasLabel (agrees : catalog.Agrees other) : catalog.hasLabel = other.hasLabel := by
  funext label
  rw [Catalog.hasLabel, agrees.owners, Catalog.hasLabel]

theorem labels (agrees : catalog.Agrees other) : catalog.labels = other.labels := by
  apply NameSet.ext
  intro label
  rw [mem_labels, mem_labels, agrees.hasLabel]

theorem labelsOn (agrees : catalog.Agrees other) : catalog.labelsOn = other.labelsOn := by
  funext platforms
  apply NameSet.ext
  intro label
  simp only [mem_labelsOn, agrees.listed]

theorem unknownPlatforms (agrees : catalog.Agrees other) :
    catalog.unknownPlatforms = other.unknownPlatforms := by
  funext platforms
  simp only [Catalog.unknownPlatforms, agrees.platforms]

theorem knownLabels (agrees : catalog.Agrees other) : catalog.knownLabels = other.knownLabels := by
  funext labels
  rw [Catalog.knownLabels, agrees.hasLabel, Catalog.knownLabels]

theorem unknownLabels (agrees : catalog.Agrees other) :
    catalog.unknownLabels = other.unknownLabels := by
  funext labels
  rw [Catalog.unknownLabels, agrees.hasLabel, Catalog.unknownLabels]

theorem remaining (agrees : catalog.Agrees other) (repro : Repro) :
    catalog.remaining repro = other.remaining repro := by
  apply NameSet.ext
  intro label
  simp only [mem_remaining, agrees.hasLabel, agrees.labelsOn, agrees.knownLabels]

theorem missing (agrees : catalog.Agrees other) (repro : Repro) :
    catalog.missing repro = other.missing repro := by
  rw [Catalog.missing, agrees.unknownPlatforms, agrees.unknownLabels, Catalog.missing]

theorem jobsOn (agrees : catalog.Agrees other) (repro : String) (labels : NameSet) :
    catalog.jobsOn repro labels = other.jobsOn repro labels := by
  simp only [Catalog.jobsOn, agrees.owners]

theorem resolve (agrees : catalog.Agrees other) (ledger : Ledger) (repro : Repro) :
    ledger.resolve catalog repro = ledger.resolve other repro := by
  rw [ledger_resolve_eq, agrees.remaining, agrees.missing, agrees.jobsOn, ledger_resolve_eq]

theorem plan (agrees : catalog.Agrees other) (repros : List Repro) :
    catalog.plan repros = other.plan repros := by
  have enter : Ledger.enter catalog = Ledger.enter other := by
    funext ledger repro
    simp only [Ledger.enter, agrees.resolve]
  rw [Catalog.plan, Ledger.ofRepros, enter]
  rfl

end Agrees

/-! Declarations in another order and spelling -/

def Respelled (entry other : String × List String) : Prop :=
  Text.lowercase entry.1 = Text.lowercase other.1 ∧ ∀ label, label ∈ entry.2 ↔ label ∈ other.2

def Rearranged (declarations others : Declarations) : Prop :=
  ∃ reordered, declarations.Perm reordered ∧ List.Forall₂ Respelled reordered others

variable {declarations others : Declarations} {platform label : String}

theorem declared_iff_of_respelled (respelled : List.Forall₂ Respelled declarations others) :
    Declared declarations platform label ↔ Declared others platform label := by
  unfold Declared
  induction respelled with
  | nil => rfl
  | cons same _ ih => simp only [List.exists_mem_cons_iff, same.1, same.2, ih]

theorem lowercaseNames_of_respelled (respelled : List.Forall₂ Respelled declarations others) :
    lowercaseNames declarations = lowercaseNames others := by
  unfold lowercaseNames
  induction respelled with
  | nil => rfl
  | cons same _ ih => rw [List.map_cons, List.map_cons, same.1, ih]

theorem declared_iff_of_rearranged (rearranged : Rearranged declarations others) :
    Declared declarations platform label ↔ Declared others platform label := by
  obtain ⟨reordered, perm, respelled⟩ := rearranged
  rw [← declared_iff_of_respelled respelled]
  simp only [Declared, perm.mem_iff]

theorem lowercaseNames_of_rearranged (rearranged : Rearranged declarations others) :
    (lowercaseNames declarations).Perm (lowercaseNames others) := by
  obtain ⟨reordered, perm, respelled⟩ := rearranged
  rw [← lowercaseNames_of_respelled respelled]
  exact perm.map _

theorem settled_of_rearranged (rearranged : Rearranged declarations others)
    (settled : Settled declarations) : Settled others := by
  intro first second label atFirst atSecond
  exact settled first second label ((declared_iff_of_rearranged rearranged).mpr atFirst)
    ((declared_iff_of_rearranged rearranged).mpr atSecond)

/-- Where no declaration replaces another, a platform lists all that was declared with it. -/
theorem listed_iff_declared (distinct : (lowercaseNames declarations).Nodup) :
    label ∈ ((ofDeclarations declarations).labelsOf? platform).getD [] ↔
      Declared declarations platform label := by
  constructor
  · exact declared_of_listed
  · rintro ⟨entry, member, rfl, listed⟩
    obtain ⟨before, after, rfl⟩ := List.append_of_mem member
    rw [lowercaseNames, List.map_append, List.map_cons, List.nodup_append, List.nodup_cons]
      at distinct
    -- The names being distinct, no later declaration replaces this list.
    have last : ∀ other ∈ after, Text.lowercase other.1 ≠ Text.lowercase entry.1 := by
      intro other later same
      exact distinct.2.1.1 (List.mem_map.mpr ⟨other, later, same⟩)
    rw [labelsOf?_of_last last]
    exact listed

theorem agrees_of_rearranged (distinct : (lowercaseNames declarations).Nodup)
    (settled : Settled declarations) (rearranged : Rearranged declarations others) :
    (ofDeclarations declarations).Agrees (ofDeclarations others) := by
  have names := lowercaseNames_of_rearranged rearranged
  constructor
  case platforms =>
    intro platform
    rw [Bool.eq_iff_iff, hasPlatform_iff, hasPlatform_iff, names.mem_iff]
  case listed =>
    intro platform label
    rw [listed_iff_declared distinct, listed_iff_declared (names.nodup_iff.mp distinct),
      declared_iff_of_rearranged rearranged]
  case owners =>
    intro label
    apply Option.ext
    intro platform
    rw [owner_iff_declared settled, owner_iff_declared (settled_of_rearranged rearranged settled),
      declared_iff_of_rearranged rearranged]

end JobMatrix.Catalog
