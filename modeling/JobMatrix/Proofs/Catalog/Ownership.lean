import JobMatrix.Proofs.Catalog.Settled
import Mathlib.Data.List.Chain

/-!
Who owned a label, one platform after the other. The reassignments of a catalog retell this history:
of one label they are the changes between neighbours, and all of them stand in the order of the
declarations. A strict catalog is refused exactly when some label has two platforms.
-/
namespace JobMatrix.Catalog

structure Mention where
  label : String
  platform : String
  deriving DecidableEq

def mentions (declarations : Declarations) : List Mention :=
  declarations.flatMap fun entry => entry.2.map fun label => ⟨label, Text.lowercase entry.1⟩

def succession (label : String) (mentions : List Mention) : List String :=
  (mentions.filter fun mention => mention.label = label).map Mention.platform

def changes : List String → List (String × String)
  | first :: second :: rest =>
    if first = second then changes (second :: rest)
    else (first, second) :: changes (second :: rest)
  | _ => []

def changeTo? (next : String) : Option String → Option (String × String)
  | some last => if last = next then none else some (last, next)
  | none => none

def reassignment (label : String) (change : String × String) : Reassignment :=
  ⟨label, change.1, change.2⟩

/-- What the mention at a position reassigns, going by the mentions before it alone. -/
def reassignedAt (mentions : List Mention) (position : Nat) : Option Reassignment :=
  mentions[position]?.bind fun mention =>
    let owner := (succession mention.label (mentions.take position)).getLast?
    (changeTo? mention.platform owner).map (reassignment mention.label)

def reassignmentsOf (catalog : Catalog) (label : String) : List Reassignment :=
  catalog.reassignments.filter fun entry => entry.label = label

/-! Changes -/

theorem changes_concat (names : List String) (next : String) :
    changes (names ++ [next]) = changes names ++ (changeTo? next names.getLast?).toList := by
  fun_induction changes names with
  | case1 second rest ih =>
    rw [List.cons_append, List.cons_append, changes, if_pos rfl]
    exact ih
  | case2 first second rest differs ih =>
    rw [List.cons_append, List.cons_append, changes, if_neg differs, List.cons_append]
    exact congrArg _ ih
  | case3 names short =>
    match names with
    | [] => rfl
    | [only] =>
      by_cases same : only = next
      · simp [changes, changeTo?, same]
      · simp [changes, changeTo?, same]
    | first :: second :: rest => exact absurd rfl (short first second rest)

/-- Each change starts where the one before it ended, and the last one ends at the last name. -/
theorem changes_linked (names : List String) :
    (changes names).IsChain (fun change next => change.2 = next.1) ∧
      ∀ change, (changes names).getLast? = some change → names.getLast? = some change.2 := by
  induction names using List.reverseRecOn with
  | nil => simp [changes]
  | append_singleton names next ih =>
    obtain ⟨linked, ended⟩ := ih
    rw [changes_concat, List.getLast?_concat]
    cases found : names.getLast? with
    | none =>
      have unchanged : names = [] := List.getLast?_eq_none_iff.mp found
      simp [changeTo?, unchanged, changes]
    | some last =>
      rw [found] at ended
      by_cases same : last = next
      · subst same
        rw [changeTo?, if_pos rfl, Option.toList_none, List.append_nil]
        exact ⟨linked, ended⟩
      · rw [changeTo?, if_neg same, Option.toList_some, List.getLast?_concat]
        constructor
        · apply linked.append (List.isChain_singleton _)
          intro change final new head
          rw [List.head?_cons, Option.mem_some] at head
          rw [← head]
          exact (Option.some.inj (ended change final)).symm
        · intro change final
          rw [← Option.some.inj final]

/-! The history of a catalog -/

/-- The catalog tells of each label what the mentions told so far say of it. -/
structure Recounts (catalog : Catalog) (told : List Mention) : Prop where
  owners : ∀ label, catalog.ownerOf? label = (succession label told).getLast?
  ofLabel : ∀ label, catalog.reassignmentsOf label =
    (changes (succession label told)).map (reassignment label)
  inOrder : catalog.reassignments =
    (List.range told.length).filterMap (reassignedAt told)

variable {catalog : Catalog} {told : List Mention}

theorem reassignments_assign_eq (platform label : String) :
    (catalog.assign platform label).reassignments = catalog.reassignments ++
      ((changeTo? platform (catalog.ownerOf? label)).map (reassignment label)).toList := by
  unfold assign ownerOf?
  dsimp only
  cases owner : catalog.owners.get? label with
  | none => rfl
  | some previous =>
    by_cases same : previous = platform
    · simp [changeTo?, same]
    · simp [changeTo?, same, reassignment]

theorem succession_concat (label : String) (mention : Mention) :
    succession label (told ++ [mention]) =
      succession label told ++ if mention.label = label then [mention.platform] else [] := by
  unfold succession
  rw [List.filter_append, List.map_append, List.filter_singleton]
  split
  · rename_i same
    simp_all
  · rename_i differs
    simp_all

theorem reassignedAt_concat {position : Nat} (before : position < told.length)
    (mention : Mention) :
    reassignedAt (told ++ [mention]) position = reassignedAt told position := by
  unfold reassignedAt
  rw [List.getElem?_append_left before, List.take_append_of_le_length before.le]

theorem reassignedAt_length (mention : Mention) :
    reassignedAt (told ++ [mention]) told.length =
      (changeTo? mention.platform (succession mention.label told).getLast?).map
        (reassignment mention.label) := by
  unfold reassignedAt
  rw [List.getElem?_concat_length, List.take_left, Option.bind_some]

theorem recounts_assign (recounts : Recounts catalog told) (mention : Mention) :
    Recounts (catalog.assign mention.platform mention.label) (told ++ [mention]) := by
  constructor
  case owners =>
    intro label
    rw [ownerOf?_assign, recounts.owners, succession_concat]
    split
    · rename_i same
      simp [same]
    · rename_i differs
      simp [Ne.symm differs]
  case ofLabel =>
    intro label
    rw [reassignmentsOf, reassignments_assign_eq, List.filter_append, ← reassignmentsOf,
      recounts.ofLabel, recounts.owners, succession_concat]
    by_cases same : mention.label = label
    · rw [if_pos same, changes_concat, List.map_append, same]
      congr 1
      cases changeTo? mention.platform (succession label told).getLast? with
      | none => rfl
      | some change => simp [reassignment]
    · rw [if_neg same, List.append_nil, List.filter_eq_nil_iff.mpr, List.append_nil]
      intro entry member
      rw [Option.mem_toList, Option.map_eq_some_iff] at member
      obtain ⟨change, _, rfl⟩ := member
      rw [decide_eq_true_eq]
      exact same
  case inOrder =>
    rw [reassignments_assign_eq, recounts.owners, List.length_append, List.length_singleton,
      List.range_succ, List.filterMap_append, ← reassignedAt_length]
    have before : (List.range told.length).filterMap (reassignedAt (told ++ [mention])) =
        (List.range told.length).filterMap (reassignedAt told) := by
      apply List.filterMap_congr
      intro position member
      exact reassignedAt_concat (List.mem_range.mp member) mention
    rw [before, ← recounts.inOrder]
    rfl

theorem recounts_foldl_assign (recounts : Recounts catalog told) (platform : String)
    (labels : List String) : Recounts (labels.foldl (assign platform) catalog)
      (told ++ labels.map fun label => ⟨label, platform⟩) := by
  induction labels generalizing catalog told with
  | nil => simpa using recounts
  | cons first rest ih =>
    have further := ih (recounts_assign recounts ⟨first, platform⟩)
    rw [List.append_assoc] at further
    exact further

theorem recounts_declare (recounts : Recounts catalog told) (entry : String × List String) :
    Recounts (catalog.declare entry.1 entry.2)
      (told ++ entry.2.map fun label => ⟨label, Text.lowercase entry.1⟩) := by
  obtain ⟨owners, ofLabel, inOrder⟩ :=
    recounts_foldl_assign recounts (Text.lowercase entry.1) entry.2
  exact ⟨owners, ofLabel, inOrder⟩

theorem recounts_ofDeclarations (declarations : Declarations) :
    Recounts (ofDeclarations declarations) (mentions declarations) := by
  induction declarations using List.reverseRecOn with
  | nil => exact ⟨fun _ => rfl, fun _ => rfl, rfl⟩
  | append_singleton declarations entry ih =>
    rw [ofDeclarations_concat, mentions, List.flatMap_append, List.flatMap_singleton]
    exact recounts_declare ih entry

/-! Strict catalogs -/

/-- A label stands in lists of two platforms, be they replaced later or not. -/
def Contested (declarations : Declarations) (label : String) : Prop :=
  ∃ entry ∈ declarations, ∃ other ∈ declarations,
    label ∈ entry.2 ∧ label ∈ other.2 ∧ Text.lowercase entry.1 ≠ Text.lowercase other.1

theorem contested_iff_of_perm {declarations others : Declarations} {label : String}
    (perm : declarations.Perm others) : Contested declarations label ↔ Contested others label := by
  simp only [Contested, perm.mem_iff]

theorem not_settled_iff {declarations : Declarations} :
    ¬Settled declarations ↔ ∃ label, Contested declarations label := by
  constructor
  · intro unsettled
    simp only [Settled, not_forall] at unsettled
    obtain ⟨_, _, label, ⟨entry, member, rfl, listed⟩, ⟨other, among, rfl, also⟩, differ⟩ :=
      unsettled
    exact ⟨label, entry, member, other, among, listed, also, differ⟩
  · rintro ⟨label, entry, member, other, among, listed, also, differ⟩ settled
    exact differ (settled _ _ label ⟨entry, member, rfl, listed⟩ ⟨other, among, rfl, also⟩)

theorem build_strict_fails_iff {declarations : Declarations} :
    (∃ first, build true declarations = .error first) ↔
      ∃ label, Contested declarations label := by
  rw [← not_settled_iff, ← reassignments_eq_nil_iff, ← List.head?_eq_none_iff, ← ne_eq,
    Option.ne_none_iff_exists']
  simp only [build_eq_error_iff, contested?, if_true]

theorem reassignmentsOf_linked (declarations : Declarations) (label : String) :
    ((ofDeclarations declarations).reassignmentsOf label).IsChain
        (fun entry next => entry.current = next.previous) ∧
      ∀ last, ((ofDeclarations declarations).reassignmentsOf label).getLast? = some last →
        (ofDeclarations declarations).ownerOf? label = some last.current := by
  have recounts := recounts_ofDeclarations declarations
  obtain ⟨linked, ended⟩ := changes_linked (succession label (mentions declarations))
  rw [recounts.ofLabel, recounts.owners]
  constructor
  · rw [List.isChain_map]
    exact linked
  · intro last final
    rw [List.getLast?_map, Option.map_eq_some_iff] at final
    obtain ⟨change, final, rfl⟩ := final
    exact ended change final

/-- The reassignments of a label are the changes in its history, all of them stand in the order of
the declarations, and a strict catalog is refused, for the first of them, just when some label has
two platforms. -/
theorem reassignments_retell_history (declarations : Declarations) :
    (∀ label, (ofDeclarations declarations).reassignmentsOf label =
      (changes (succession label (mentions declarations))).map (reassignment label)) ∧
    (∀ label, ((ofDeclarations declarations).reassignmentsOf label).IsChain
        (fun entry next => entry.current = next.previous) ∧
      ∀ last, ((ofDeclarations declarations).reassignmentsOf label).getLast? = some last →
        (ofDeclarations declarations).ownerOf? label = some last.current) ∧
    (ofDeclarations declarations).reassignments =
      (List.range (mentions declarations).length).filterMap
        (reassignedAt (mentions declarations)) ∧
    ((∃ first, build true declarations = .error first) ↔
      ∃ label, Contested declarations label) ∧
    (∀ others, declarations.Perm others →
      ((∃ first, build true declarations = .error first) ↔
        ∃ first, build true others = .error first)) ∧
    (∀ first, build true declarations = .error first ↔
      (ofDeclarations declarations).reassignments.head? = some first) ∧
    build false declarations = .ok (ofDeclarations declarations) ∧
    ∀ catalog, build true declarations = .ok catalog →
      build false declarations = .ok catalog := by
  have recounts := recounts_ofDeclarations declarations
  refine ⟨recounts.ofLabel, reassignmentsOf_linked declarations, recounts.inOrder,
    build_strict_fails_iff, ?reordered, fun first => build_eq_error_iff,
    build_eq false declarations,
    ?accepted⟩
  case reordered =>
    intro others perm
    simp only [build_strict_fails_iff, contested_iff_of_perm perm]
  case accepted =>
    intro catalog accepted
    rw [build_ok accepted]
    exact build_eq false declarations

def wandering : Declarations :=
  [("Linux", ["a", "a"]), ("macOS", ["b", "a"]), ("LINUX", ["a", "b"]), ("linux", [])]

def staying : Declarations := [("Linux", ["a", "a"]), ("LINUX", ["a", "b"]), ("linux", [])]

theorem wandering_retold :
    (ofDeclarations wandering).reassignmentsOf "a" =
      [⟨"a", "linux", "macos"⟩, ⟨"a", "macos", "linux"⟩] ∧
    (ofDeclarations wandering).ownerOf? "a" = some "linux" ∧
    (∃ first, build true wandering = .error first) ∧
    wandering.Perm wandering.reverse ∧
    (∃ first, build true wandering.reverse = .error first) ∧
    build true staying = .ok (ofDeclarations staying) ∧
    build false staying = .ok (ofDeclarations staying) := by
  obtain ⟨ofLabel, linked, _, fails, reordered, _, _, _⟩ := reassignments_retell_history wandering
  obtain ⟨_, _, _, _, _, _, _, accepted⟩ := reassignments_retell_history staying
  have changed : (ofDeclarations wandering).reassignmentsOf "a" =
      [⟨"a", "linux", "macos"⟩, ⟨"a", "macos", "linux"⟩] := by
    rw [ofLabel]
    decide
  have refused : ∃ first, build true wandering = .error first :=
    fails.mpr ⟨"b", ("macOS", ["b", "a"]), by decide, ("LINUX", ["a", "b"]), by decide⟩
  have turned : wandering.Perm wandering.reverse := (List.reverse_perm wandering).symm
  have stays : build true staying = .ok (ofDeclarations staying) := by rfl
  refine ⟨changed, ?_, refused, turned, (reordered _ turned).mp refused, stays,
    accepted _ stays⟩
  exact (linked "a").2 ⟨"a", "macos", "linux"⟩ (by rw [changed]; rfl)

end JobMatrix.Catalog
