import JobMatrix.Catalog
import Mathlib.Data.List.Induction

/-!
What a catalog knows after some declarations. The labels of a platform are those of its last
declaration, while the owner of a label is the last platform declared with it, so a label may
outlive the list that brought it: that list was replaced by one without the label.
-/
namespace JobMatrix.Catalog

abbrev Declarations := List (String × List String)

theorem ofDeclarations_concat (declarations : Declarations) (entry : String × List String) :
    ofDeclarations (declarations ++ [entry]) =
      (ofDeclarations declarations).declare entry.1 entry.2 := by
  simp [ofDeclarations]

section Declare

variable {catalog : Catalog} {platform : String}

theorem platforms_foldl_assign (labels : List String) :
    (labels.foldl (assign platform) catalog).platforms = catalog.platforms := by
  induction labels generalizing catalog with
  | nil => rfl
  | cons first rest ih => rw [List.foldl_cons, ih]; rfl

theorem ownerOf?_assign (label other : String) : (catalog.assign platform label).ownerOf? other =
    if other = label then some platform else catalog.ownerOf? other := by
  unfold ownerOf?
  split
  · rename_i same
    subst same
    exact Table.get?_put_self other platform catalog.owners
  · rename_i differs
    exact Table.get?_put_of_ne differs platform catalog.owners

theorem ownerOf?_foldl_assign (labels : List String) (label : String) :
    (labels.foldl (assign platform) catalog).ownerOf? label =
      if label ∈ labels then some platform else catalog.ownerOf? label := by
  induction labels generalizing catalog with
  | nil => simp
  | cons first rest ih =>
    rw [List.foldl_cons, ih, ownerOf?_assign]
    by_cases later : label ∈ rest
    · simp [later]
    · simp [later]

theorem labelsOf?_declare (labels : List String) (other : String) :
    (catalog.declare platform labels).labelsOf? other =
      if other = Text.lowercase platform then some labels else catalog.labelsOf? other := by
  unfold labelsOf? declare
  dsimp only
  rw [platforms_foldl_assign]
  split
  · rename_i same
    rw [same, Table.get?_put_self]
  · rename_i differs
    rw [Table.get?_put_of_ne differs]

theorem ownerOf?_declare (labels : List String) (label : String) :
    (catalog.declare platform labels).ownerOf? label =
      if label ∈ labels then some (Text.lowercase platform) else catalog.ownerOf? label :=
  ownerOf?_foldl_assign labels label

end Declare

section Last

variable {declarations : Declarations} {platform label : String}

def declarationsOf (platform : String) (declarations : Declarations) : Declarations :=
  declarations.filter fun entry => Text.lowercase entry.1 = platform

def declarationsWith (label : String) (declarations : Declarations) : Declarations :=
  declarations.filter fun entry => label ∈ entry.2

theorem labelsOf?_eq_last : (ofDeclarations declarations).labelsOf? platform =
    (declarationsOf platform declarations).getLast?.map Prod.snd := by
  induction declarations using List.reverseRecOn with
  | nil => rfl
  | append_singleton declarations entry ih =>
    rw [ofDeclarations_concat, labelsOf?_declare, ih]
    unfold declarationsOf
    rw [List.filter_append]
    split
    · rename_i same
      simp [same]
    · rename_i differs
      simp [Ne.symm differs]

theorem ownerOf?_eq_last : (ofDeclarations declarations).ownerOf? label =
    (declarationsWith label declarations).getLast?.map fun entry => Text.lowercase entry.1 := by
  induction declarations using List.reverseRecOn with
  | nil => rfl
  | append_singleton declarations entry ih =>
    rw [ofDeclarations_concat, ownerOf?_declare, ih]
    unfold declarationsWith
    rw [List.filter_append]
    split
    · rename_i listed
      simp [listed]
    · rename_i unlisted
      simp [unlisted]

/-- The labels of a platform are those of its last declaration. -/
theorem labelsOf?_of_last {before after : Declarations} {entry : String × List String}
    (last : ∀ other ∈ after, Text.lowercase other.1 ≠ Text.lowercase entry.1) :
    (ofDeclarations (before ++ entry :: after)).labelsOf? (Text.lowercase entry.1) =
      some entry.2 := by
  have ends : declarationsOf (Text.lowercase entry.1) (before ++ entry :: after) =
      declarationsOf (Text.lowercase entry.1) before ++ [entry] := by
    simpa [declarationsOf] using last
  rw [labelsOf?_eq_last, ends, List.getLast?_concat, Option.map_some]

/-- The owner of a label was declared with it. -/
theorem declared_of_owner (owner : (ofDeclarations declarations).ownerOf? label = some platform) :
    ∃ entry ∈ declarations, Text.lowercase entry.1 = platform ∧ label ∈ entry.2 := by
  rw [ownerOf?_eq_last, Option.map_eq_some_iff] at owner
  obtain ⟨entry, last, name⟩ := owner
  obtain ⟨member, listed⟩ := List.mem_filter.mp (List.mem_of_getLast? last)
  exact ⟨entry, member, name, of_decide_eq_true listed⟩

end Last

/-- A list of the platform had the label, and the last list of the platform came later and has it
no more. -/
def Replaced (declarations : Declarations) (platform label : String) : Prop :=
  ∃ before earlier between later after,
    declarations = before ++ earlier :: between ++ later :: after ∧
    Text.lowercase earlier.1 = platform ∧ label ∈ earlier.2 ∧
    Text.lowercase later.1 = platform ∧ label ∉ later.2 ∧
    ∀ entry ∈ after, Text.lowercase entry.1 ≠ platform

/-- A label that is missing from its owner's list was in a list that has been replaced. -/
theorem replaced_of_owner {declarations : Declarations} {label platform : String}
    (owner : (ofDeclarations declarations).ownerOf? label = some platform)
    (missing : label ∉ ((ofDeclarations declarations).labelsOf? platform).getD []) :
    Replaced declarations platform label := by
  induction declarations using List.reverseRecOn with
  | nil => cases owner
  | append_singleton declarations entry ih =>
    rw [ofDeclarations_concat, ownerOf?_declare] at owner
    rw [ofDeclarations_concat, labelsOf?_declare] at missing
    -- The last declaration can take the label or the list of the platform; if it takes the list
    -- alone, it is the later one of the pair.
    by_cases listed : label ∈ entry.2
    · rw [if_pos listed, Option.some.injEq] at owner
      rw [if_pos owner.symm, Option.getD_some] at missing
      exact absurd listed missing
    · rw [if_neg listed] at owner
      by_cases same : platform = Text.lowercase entry.1
      · obtain ⟨earlier, member, name, declared⟩ := declared_of_owner owner
        obtain ⟨before, between, rfl⟩ := List.append_of_mem member
        exact ⟨before, earlier, between, entry, [], rfl, name, declared, same.symm, listed,
          fun entry member => nomatch member⟩
      · rw [if_neg same] at missing
        obtain ⟨before, earlier, between, later, after, rfl, name, declared, other, lost, last⟩ :=
          ih owner missing
        refine ⟨before, earlier, between, later, after ++ [entry], by simp, name, declared, other,
          lost, fun added member => ?_⟩
        rcases List.mem_append.mp member with old | new
        · exact last added old
        · rw [List.mem_singleton.mp new]
          exact Ne.symm same

theorem missing_of_replaced {declarations : Declarations} {platform label : String}
    (replaced : Replaced declarations platform label) :
    label ∉ ((ofDeclarations declarations).labelsOf? platform).getD [] := by
  obtain ⟨before, earlier, between, later, after, rfl, _, _, rfl, lost, last⟩ := replaced
  rw [labelsOf?_of_last last]
  exact lost

end JobMatrix.Catalog
