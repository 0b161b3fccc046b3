import JobMatrix.Proofs.Catalog.Settled
import Mathlib.Data.Finset.Card
import Mathlib.Data.Finset.Dedup

/-!
What a catalog answers, read off its declarations. The last declaration of a platform gives its
labels, the last declaration with a label gives its owner, and no name or label that was ever
declared is forgotten or counted twice.
-/
namespace JobMatrix.Catalog

variable {declarations : Declarations} {platform label : String}

/-! Known names -/

def lowercaseNames (declarations : Declarations) : List String :=
  declarations.map fun entry => Text.lowercase entry.1

theorem hasPlatform_iff :
    (ofDeclarations declarations).hasPlatform platform = true ↔
      platform ∈ lowercaseNames declarations := by
  rw [hasPlatform, labelsOf?_eq_last, Option.isSome_map, List.getLast?_isSome]
  simp [declarationsOf, lowercaseNames]

theorem hasLabel_iff : (ofDeclarations declarations).hasLabel label = true ↔
    label ∈ declarations.flatMap Prod.snd := by
  rw [hasLabel, ownerOf?_eq_last, Option.isSome_map, List.getLast?_isSome]
  simp [declarationsWith]

theorem mem_labels_iff : label ∈ (ofDeclarations declarations).labels ↔
    label ∈ declarations.flatMap Prod.snd := by
  rw [mem_labels, hasLabel_iff]

/-- What a platform lists is known, though it may belong to another platform. -/
theorem hasLabel_of_listed {labels : List String}
    (found : (ofDeclarations declarations).labelsOf? platform = some labels)
    (listed : label ∈ labels) : (ofDeclarations declarations).hasLabel label = true := by
  have current : label ∈ ((ofDeclarations declarations).labelsOf? platform).getD [] := by
    rw [found]
    exact listed
  exact hasLabel_of_declared (declared_of_listed current)

/-! Counts -/

theorem nodup_owners_foldl_assign {catalog : Catalog} (distinct : catalog.owners.names.Nodup)
    (labels : List String) : (labels.foldl (assign platform) catalog).owners.names.Nodup := by
  induction labels generalizing catalog with
  | nil => exact distinct
  | cons first rest ih => exact ih (Table.nodup_names_put distinct first platform)

theorem nodup_owners : (ofDeclarations declarations).owners.names.Nodup := by
  induction declarations using List.reverseRecOn with
  | nil => exact List.nodup_nil
  | append_singleton declarations entry ih =>
    rw [ofDeclarations_concat]
    exact nodup_owners_foldl_assign ih entry.2

theorem nodup_platforms : (ofDeclarations declarations).platforms.names.Nodup := by
  induction declarations using List.reverseRecOn with
  | nil => exact List.nodup_nil
  | append_singleton declarations entry ih =>
    rw [ofDeclarations_concat, declare]
    dsimp only
    rw [platforms_foldl_assign]
    exact Table.nodup_names_put ih _ entry.2

/-- A table with one entry for each of some names is as long as there are such names. -/
theorem length_eq_card {α : Type} {table : Table α} {names : List String}
    (distinct : table.names.Nodup) (same : ∀ name, name ∈ table.names ↔ name ∈ names) :
    table.length = names.toFinset.card := by
  have sets : table.names.toFinset = names.toFinset := by
    ext name
    rw [List.mem_toFinset, List.mem_toFinset, same]
  rw [← sets, List.toFinset_card_of_nodup distinct, Table.names, List.length_map]

theorem labelCount_eq_card : (ofDeclarations declarations).labelCount =
    (declarations.flatMap Prod.snd).toFinset.card := by
  apply length_eq_card nodup_owners
  intro label
  rw [Table.mem_names_iff]
  exact hasLabel_iff

theorem platformCount_eq_card : (ofDeclarations declarations).platformCount =
    (lowercaseNames declarations).toFinset.card := by
  apply length_eq_card nodup_platforms
  intro platform
  rw [Table.mem_names_iff]
  exact hasPlatform_iff

/-- The last declaration decides every look-up, and every declaration counts. -/
theorem lookups_of_declarations (declarations : Declarations) :
    (∀ platform, (ofDeclarations declarations).labelsOf? platform =
      (declarationsOf platform declarations).getLast?.map Prod.snd) ∧
    (∀ label, (ofDeclarations declarations).ownerOf? label =
      (declarationsWith label declarations).getLast?.map fun entry => Text.lowercase entry.1) ∧
    (∀ label, label ∈ (ofDeclarations declarations).labels ↔
      ∃ entry ∈ declarations, label ∈ entry.2) ∧
    (∀ platform labels, (ofDeclarations declarations).labelsOf? platform = some labels →
      ∀ label ∈ labels, (ofDeclarations declarations).hasLabel label = true ∧
        label ∈ (ofDeclarations declarations).labels) ∧
    (ofDeclarations declarations).labelCount =
      (declarations.flatMap Prod.snd).toFinset.card ∧
    (ofDeclarations declarations).platformCount =
      (declarations.map fun entry => Text.lowercase entry.1).toFinset.card := by
  refine ⟨fun platform => labelsOf?_eq_last, fun label => ownerOf?_eq_last, ?labels, ?known,
    labelCount_eq_card, platformCount_eq_card⟩
  case labels =>
    intro label
    rw [mem_labels_iff, List.mem_flatMap]
  case known =>
    intro platform labels found label listed
    have known := hasLabel_of_listed found listed
    exact ⟨known, mem_labels.mpr known⟩

def replacedList : Declarations :=
  [("Linux", ["old", "shared"]), ("macOS", ["shared"]), ("LINUX", ["new", "new"])]

theorem replacedList_lookups :
    (ofDeclarations replacedList).labelsOf? "linux" = some ["new", "new"] ∧
    (ofDeclarations replacedList).hasLabel "new" = true ∧
    (ofDeclarations replacedList).ownerOf? "shared" = some "macos" ∧
    (ofDeclarations replacedList).ownerOf? "old" = some "linux" ∧
    (ofDeclarations replacedList).labelCount = 3 ∧
    (ofDeclarations replacedList).platformCount = 2 := by
  obtain ⟨labelsOf, ownerOf, _, known, labelCount, platformCount⟩ :=
    lookups_of_declarations replacedList
  have found : (ofDeclarations replacedList).labelsOf? "linux" = some ["new", "new"] := by
    rw [labelsOf]
    decide
  refine ⟨found, (known _ _ found "new" (by decide)).1, ?_, ?_, ?_, ?_⟩
  · rw [ownerOf]
    decide
  · rw [ownerOf]
    decide
  · rw [labelCount]
    decide
  · rw [platformCount]
    decide

end JobMatrix.Catalog
