import JobMatrix.Resolution
import Mathlib.Tactic.Tauto

/-!
What looking names up finds and notes. The labels found are the same whatever was noted before, and
the names noted come on top of what was noted before, for the repro and in the ledger alike.
-/
namespace JobMatrix

namespace Unknowns

instance : Union Unknowns := ⟨fun a b => ⟨a.platforms ∪ b.platforms, a.labels ∪ b.labels⟩⟩

variable {a b : Unknowns} {name : String}

@[simp]
theorem mem_union_platforms :
    name ∈ (a ∪ b).platforms ↔ name ∈ a.platforms ∨ name ∈ b.platforms := NameSet.mem_union

@[simp]
theorem mem_union_labels : name ∈ (a ∪ b).labels ↔ name ∈ a.labels ∨ name ∈ b.labels :=
  NameSet.mem_union

theorem eq_of_mem_iff (platforms : ∀ name, name ∈ a.platforms ↔ name ∈ b.platforms)
    (labels : ∀ name, name ∈ a.labels ↔ name ∈ b.labels) : a = b := by
  cases a; cases b
  rw [mk.injEq]
  exact ⟨NameSet.ext platforms, NameSet.ext labels⟩

/-- Unknown names are equal if neither of the two sets of them, seen as `side`, tells them apart. -/
theorem eq_of_sides (same : ∀ side : Unknowns → NameSet, side none = ∅ →
    (∀ a b, side (a ∪ b) = side a ∪ side b) → ∀ name, name ∈ side a ↔ name ∈ side b) : a = b := by
  apply eq_of_mem_iff
  · exact same platforms rfl fun _ _ => rfl
  · exact same labels rfl fun _ _ => rfl

theorem union_none (a : Unknowns) : a ∪ none = a := by
  apply eq_of_sides
  intro side empty union name
  rw [union, empty, NameSet.union_empty]

theorem none_union (a : Unknowns) : none ∪ a = a := by
  apply eq_of_sides
  intro side empty union name
  rw [union, NameSet.mem_union, empty, or_iff_right (NameSet.not_mem_empty name)]

theorem union_assoc (a b c : Unknowns) : a ∪ b ∪ c = a ∪ (b ∪ c) := by
  apply eq_of_sides
  intro side _ union name
  simp only [union, NameSet.mem_union, or_assoc]

structure Adds (add : Unknowns → String → Unknowns) (all : NameSet → Unknowns) : Prop where
  none : all ∅ = Unknowns.none
  insert : ∀ unknown name names, add unknown name ∪ all names = unknown ∪ all (names.insert name)

theorem withPlatform_adds : Adds withPlatform fun names => ⟨names, ∅⟩ where
  none := rfl
  insert := by
    intro unknown name names
    apply eq_of_mem_iff
    · intro other
      simp only [mem_union_platforms, withPlatform, NameSet.mem_insert]
      tauto
    · intro other
      rfl

theorem withLabel_adds : Adds withLabel fun names => ⟨∅, names⟩ where
  none := rfl
  insert := by
    intro unknown name names
    apply eq_of_mem_iff
    · intro other
      rfl
    · intro other
      simp only [mem_union_labels, withLabel, NameSet.mem_insert]
      tauto

end Unknowns

def Ledger.noting (ledger : Ledger) (unknown : Unknowns) : Ledger :=
  { ledger with
    findings := { ledger.findings with unknown := ledger.findings.unknown ∪ unknown } }

namespace Notebook

def noting (notes : Notebook) (unknown : Unknowns) : Notebook :=
  ⟨notes.unknown ∪ unknown, notes.ledger.noting unknown⟩

variable {notes : Notebook}

theorem noting_none : notes.noting Unknowns.none = notes := by
  unfold noting Ledger.noting
  rw [Unknowns.union_none, Unknowns.union_none]

theorem noting_noting (a b : Unknowns) : (notes.noting a).noting b = notes.noting (a ∪ b) := by
  unfold noting Ledger.noting
  rw [Unknowns.union_assoc, Unknowns.union_assoc]

theorem note_noting {add : Unknowns → String → Unknowns} {all : NameSet → Unknowns}
    (adds : Unknowns.Adds add all) (name : String) (names : NameSet) :
    (notes.note add name).noting (all names) = notes.noting (all (names.insert name)) := by
  unfold noting note Ledger.noting Ledger.note
  rw [adds.insert, adds.insert]

end Notebook

theorem gather_eq {meant? : String → Option (List String)} {add : Unknowns → String → Unknowns}
    {all : NameSet → Unknowns} (adds : Unknowns.Adds add all) (found : NameSet) (notes : Notebook)
    (names : List String) : gather meant? add found notes names =
      (found.addAll (names.flatMap fun name => (meant? name).getD []),
        notes.noting (all (NameSet.ofList (names.filter fun name => (meant? name).isNone)))) := by
  induction names generalizing found notes with
  | nil =>
    have nothing : notes.noting (all (NameSet.ofList [])) = notes := by
      rw [show NameSet.ofList [] = ∅ from rfl, adds.none, Notebook.noting_none]
    exact congrArg (Prod.mk found) nothing.symm
  | cons name names ih =>
    unfold gather
    split
    · rename_i labels known
      rw [ih, ← NameSet.addAll_append, List.flatMap_cons, List.filter_cons, known]
      rfl
    · rename_i unknown
      rw [ih, Notebook.note_noting adds, ← NameSet.ofList_cons, List.flatMap_cons,
        List.filter_cons, unknown]
      rfl

namespace Catalog

def labelsOn (catalog : Catalog) (platforms : NameSet) : NameSet :=
  NameSet.ofList (platforms.toList.flatMap fun platform => (catalog.labelsOf? platform).getD [])

def unknownPlatforms (catalog : Catalog) (platforms : NameSet) : NameSet :=
  platforms.filter fun platform => !catalog.hasPlatform platform

def knownLabels (catalog : Catalog) (labels : NameSet) : NameSet := labels.filter catalog.hasLabel

def unknownLabels (catalog : Catalog) (labels : NameSet) : NameSet :=
  labels.filter fun label => !catalog.hasLabel label

variable {catalog : Catalog} {name label : String}

theorem mem_labelsOn {platforms : NameSet} : label ∈ catalog.labelsOn platforms ↔
    ∃ platform ∈ platforms, label ∈ (catalog.labelsOf? platform).getD [] := by
  rw [labelsOn, NameSet.mem_ofList, List.mem_flatMap]
  exact Iff.rfl

theorem mem_knownLabels {labels : NameSet} :
    label ∈ catalog.knownLabels labels ↔ label ∈ labels ∧ catalog.hasLabel label = true :=
  NameSet.mem_filter

@[simp]
theorem mem_unknownPlatforms {platforms : NameSet} :
    name ∈ catalog.unknownPlatforms platforms ↔
      name ∈ platforms ∧ catalog.hasPlatform name = false := by
  rw [unknownPlatforms, NameSet.mem_filter, Bool.not_eq_true']

@[simp]
theorem mem_unknownLabels {labels : NameSet} :
    name ∈ catalog.unknownLabels labels ↔ name ∈ labels ∧ catalog.hasLabel name = false := by
  rw [unknownLabels, NameSet.mem_filter, Bool.not_eq_true']

/-- Some names are looked up, and what is found does not depend on what was noted before. -/
structure LooksUp (lookUp : NameSet → Notebook → NameSet × Notebook) (found : NameSet → NameSet)
    (unknown : NameSet → Unknowns) : Prop where
  eq : ∀ names notes, lookUp names notes = (found names, notes.noting (unknown names))
  found_empty : found ∅ = ∅
  unknown_empty : unknown ∅ = Unknowns.none

theorem collectLabels_looksUp (catalog : Catalog) : LooksUp catalog.collectLabels catalog.labelsOn
    fun platforms => ⟨catalog.unknownPlatforms platforms, ∅⟩ where
  eq := by
    intro platforms notes
    have unknown : NameSet.ofList (platforms.toList.filter fun name =>
        (catalog.labelsOf? name).isNone) = catalog.unknownPlatforms platforms := by
      apply NameSet.ext
      intro name
      simp [NameSet.mem_ofList, hasPlatform, NameSet.mem_toList]
    rw [collectLabels, gather_eq Unknowns.withPlatform_adds, unknown]
    rfl
  found_empty := rfl
  unknown_empty := rfl

theorem partitionLabels_looksUp (catalog : Catalog) :
    LooksUp catalog.partitionLabels catalog.knownLabels
      fun labels => ⟨∅, catalog.unknownLabels labels⟩ where
  eq := by
    intro labels notes
    have known : NameSet.ofList (labels.toList.flatMap fun label =>
        (if catalog.hasLabel label then some [label] else none).getD []) =
        catalog.knownLabels labels := by
      apply NameSet.ext
      intro label
      rw [NameSet.mem_ofList, List.mem_flatMap, mem_knownLabels]
      constructor
      · rintro ⟨other, among, listed⟩
        split at listed
        · rename_i has
          rw [List.mem_singleton.mp listed]
          exact ⟨among, has⟩
        · cases listed
      · rintro ⟨among, has⟩
        exact ⟨label, among, by simp [has]⟩
    have unknown : NameSet.ofList (labels.toList.filter fun label =>
        (if catalog.hasLabel label then some [label] else none).isNone) =
        catalog.unknownLabels labels := by
      apply NameSet.ext
      intro label
      simp [NameSet.mem_ofList, NameSet.mem_toList]
    rw [partitionLabels, gather_eq Unknowns.withLabel_adds, unknown, ← known]
    rfl
  found_empty := rfl
  unknown_empty := rfl

end Catalog
end JobMatrix
