import JobMatrix.Proofs.Catalog.Declarations

/-!
Declarations in which no label changes its platform. A catalog has no reassignment exactly when
every label is declared under one lowercase name only, however often; then each declaration of a
label tells its owner, and so does the current list of each platform.
-/
namespace JobMatrix.Catalog

def Declared (declarations : Declarations) (platform label : String) : Prop :=
  ∃ entry ∈ declarations, Text.lowercase entry.1 = platform ∧ label ∈ entry.2

/-- No label is declared under two platforms. -/
def Settled (declarations : Declarations) : Prop :=
  ∀ platform other label, Declared declarations platform label →
    Declared declarations other label → platform = other

theorem declared_concat {declarations : Declarations} {entry : String × List String}
    {platform label : String} : Declared (declarations ++ [entry]) platform label ↔
      Declared declarations platform label ∨
        Text.lowercase entry.1 = platform ∧ label ∈ entry.2 := by
  simp [Declared, or_and_right, exists_or]

section Reassignments

variable {catalog : Catalog} {platform : String}

def Takes (catalog : Catalog) (platform label : String) : Prop :=
  ∀ previous, catalog.ownerOf? label = some previous → previous = platform

theorem reassignments_assign {label : String} :
    (catalog.assign platform label).reassignments = [] ↔
      catalog.reassignments = [] ∧ catalog.Takes platform label := by
  unfold assign Takes ownerOf?
  dsimp only
  rw [List.append_eq_nil_iff]
  apply and_congr_right
  intro _
  cases owner : catalog.owners.get? label with
  | none => simp
  | some previous => simp

theorem takes_assign {label other : String} (taken : catalog.Takes platform label) :
    (catalog.assign platform label).Takes platform other ↔ catalog.Takes platform other := by
  unfold Takes
  rw [ownerOf?_assign]
  split
  · rename_i same
    subst same
    simp only [Option.some.injEq, forall_eq', true_iff]
    exact taken
  · rfl

theorem reassignments_foldl_assign {labels : List String} :
    (labels.foldl (assign platform) catalog).reassignments = [] ↔
      catalog.reassignments = [] ∧ ∀ label ∈ labels, catalog.Takes platform label := by
  induction labels generalizing catalog with
  | nil => simp
  | cons first rest ih =>
    rw [List.foldl_cons, ih, reassignments_assign, and_assoc, List.forall_mem_cons]
    apply and_congr_right
    intro _
    apply and_congr_right
    intro taken
    simp only [takes_assign taken]

theorem reassignments_declare {labels : List String} :
    (catalog.declare platform labels).reassignments = [] ↔
      catalog.reassignments = [] ∧
        ∀ label ∈ labels, catalog.Takes (Text.lowercase platform) label :=
  reassignments_foldl_assign

end Reassignments

variable {declarations : Declarations} {platform label : String}

theorem hasLabel_of_declared (declared : Declared declarations platform label) :
    (ofDeclarations declarations).hasLabel label = true := by
  obtain ⟨entry, member, _, listed⟩ := declared
  have kept : entry ∈ declarationsWith label declarations :=
    List.mem_filter.mpr ⟨member, decide_eq_true listed⟩
  rw [hasLabel, ownerOf?_eq_last, Option.isSome_map, List.getLast?_isSome]
  exact List.ne_nil_of_mem kept

theorem owner_iff_declared (settled : Settled declarations) :
    (ofDeclarations declarations).ownerOf? label = some platform ↔
      Declared declarations platform label := by
  constructor
  · exact declared_of_owner
  · intro declared
    obtain ⟨owner, owned⟩ := Option.isSome_iff_exists.mp (hasLabel_of_declared declared)
    rw [owned, settled platform owner label declared (declared_of_owner owned)]

/-- A catalog finds no reassignment exactly when its declarations are settled. -/
theorem reassignments_eq_nil_iff :
    (ofDeclarations declarations).reassignments = [] ↔ Settled declarations := by
  induction declarations using List.reverseRecOn with
  | nil => simp [ofDeclarations, empty, Settled, Declared]
  | append_singleton declarations entry ih =>
    -- The declarations before the last one are settled, so their owners tell all of them.
    rw [ofDeclarations_concat, reassignments_declare, ih]
    constructor
    · rintro ⟨settled, taken⟩ first second label atFirst atSecond
      have quiet (other : String) (before : Declared declarations other label)
          (listed : label ∈ entry.2) : other = Text.lowercase entry.1 :=
        taken label listed other ((owner_iff_declared settled).mpr before)
      rcases declared_concat.mp atFirst with before | ⟨rfl, listed⟩
      · rcases declared_concat.mp atSecond with also | ⟨rfl, listed⟩
        · exact settled first second label before also
        · exact quiet first before listed
      · rcases declared_concat.mp atSecond with also | ⟨rfl, _⟩
        · exact (quiet second also listed).symm
        · rfl
    · intro settled
      constructor
      · intro first second label atFirst atSecond
        exact settled first second label (declared_concat.mpr (.inl atFirst))
          (declared_concat.mpr (.inl atSecond))
      · intro label listed previous owner
        exact settled previous (Text.lowercase entry.1) label
          (declared_concat.mpr (.inl (declared_of_owner owner)))
          (declared_concat.mpr (.inr ⟨rfl, listed⟩))

theorem declared_of_listed
    (listed : label ∈ ((ofDeclarations declarations).labelsOf? platform).getD []) :
    Declared declarations platform label := by
  rw [labelsOf?_eq_last] at listed
  cases last : (declarationsOf platform declarations).getLast? with
  | none =>
    rw [last] at listed
    cases listed
  | some entry =>
    rw [last, Option.map_some, Option.getD_some] at listed
    obtain ⟨member, name⟩ := List.mem_filter.mp (List.mem_of_getLast? last)
    exact ⟨entry, member, of_decide_eq_true name, listed⟩

theorem owner_of_listed (settled : Settled declarations)
    (listed : label ∈ ((ofDeclarations declarations).labelsOf? platform).getD []) :
    (ofDeclarations declarations).ownerOf? label = some platform :=
  (owner_iff_declared settled).mpr (declared_of_listed listed)

/-! Strict catalogs -/

def contested? (strict : Bool) (declarations : List (String × List String)) :
    Option Reassignment :=
  if strict then (ofDeclarations declarations).reassignments.head? else none

theorem build_eq (strict : Bool) (declarations : List (String × List String)) :
    build strict declarations =
      match contested? strict declarations with
      | some first => .error first
      | none => .ok (ofDeclarations declarations) := by
  cases strict with
  | false => rfl
  | true =>
    cases found : (ofDeclarations declarations).reassignments with
    | nil => simp [build, contested?, found]
    | cons first rest => simp [build, contested?, found]

theorem build_eq_error_iff {strict : Bool} {first : Reassignment} :
    build strict declarations = .error first ↔ contested? strict declarations = some first := by
  rw [build_eq]
  cases contested? strict declarations with
  | none => simp
  | some found => simp

theorem build_ok {strict : Bool} {catalog : Catalog}
    (built : build strict declarations = .ok catalog) : catalog = ofDeclarations declarations := by
  rw [build_eq] at built
  split at built
  · cases built
  · exact (Except.ok.inj built).symm

/-- Strict runs accept a catalog without reassignments. -/
theorem build_strict (quiet : (ofDeclarations declarations).reassignments = []) :
    build true declarations = .ok (ofDeclarations declarations) := by
  simp [build, quiet]

end JobMatrix.Catalog
