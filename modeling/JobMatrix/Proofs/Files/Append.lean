import JobMatrix.Files.Tree

/-!
What appending does to a tree of files. It puts text at the end of one place and leaves every other
place as it is. It neither makes nor removes a directory, so a path leads to the same place before
and after.
-/
namespace JobMatrix

/-- A place with text put at its end. Where nothing was there is a file then, and what is not a file
keeps no text. -/
def FileNode.extend (text : String) : Option FileNode → Option FileNode
  | none => some (.file text.toUTF8)
  | some (.file content) => some (.file (content ++ text.toUTF8))
  | some other => some other

namespace FileTree

/-- Text was put at the end of one place, and nothing else was changed. -/
structure Extends (tree : FileTree) (place : Place) (text : String) (after : FileTree) :
    Prop where
  workingDirectory : after.workingDirectory = tree.workingDirectory
  node?_eq : ∀ other, after.node? other =
    if other = place then FileNode.extend text (tree.node? place) else tree.node? other

theorem node?_root (tree : FileTree) : tree.node? [] = some .directory := rfl

theorem node?_set {tree : FileTree} {place : Place} (below : place ≠ []) (node : FileNode)
    (other : Place) : (tree.set place node).node? other =
      if other = place then some node else tree.node? other := by
  unfold node? set
  by_cases root : other = []
  · have differs : other ≠ place := fun same => below (same ▸ root)
    rw [if_pos root, if_neg differs, if_pos root]
  · by_cases same : other = place
    · simp [same, below]
    · have kept (entry : Place × FileNode) :
          (entry.1 ≠ place ∧ entry.1 = other) ↔ entry.1 = other := by
        constructor
        · exact And.right
        · intro found
          exact ⟨found ▸ same, found⟩
      simp [root, same, Ne.symm same, List.find?_filter, kept]

theorem extends_of_append {tree after : FileTree} {path text : String}
    (appended : tree.append path text = .ok after) :
    ∃ place, tree.locateEntry path = .ok place ∧ tree.Extends place text after := by
  unfold append at appended
  split at appended
  · cases appended
  · rename_i place located
    refine ⟨place, located, ?_⟩
    have below (free : tree.node? place ≠ some .directory) : place ≠ [] := by
      rintro rfl
      exact free (node?_root tree)
    split at appended
    case h_1 none =>
      obtain rfl := Except.ok.inj appended
      refine ⟨rfl, fun other => ?_⟩
      rw [node?_set (below (by simp [none])), none]
      rfl
    case h_2 content file =>
      obtain rfl := Except.ok.inj appended
      refine ⟨rfl, fun other => ?_⟩
      rw [node?_set (below (by simp [file])), file]
      rfl
    case h_3 => cases appended
    case h_4 => cases appended
    case h_5 sink =>
      obtain rfl := Except.ok.inj appended
      refine ⟨rfl, fun other => ?_⟩
      split
      · rename_i same
        rw [same, sink]
        rfl
      · rfl

/-! Places of paths -/

theorem bind_eq_ok_iff {ε α β : Type} {first : Except ε α} {next : α → Except ε β} {result : β} :
    (first >>= next) = .ok result ↔ ∃ value, first = .ok value ∧ next value = .ok result := by
  cases first with
  | error fault => simp [bind, Except.bind]
  | ok value => simp [bind, Except.bind]

theorem locateEntry_eq_ok_iff {tree : FileTree} {path : String} {place : Place} :
    tree.locateEntry path = .ok place ↔ checkPath path = .ok () ∧
      ∃ name, (Path.ofString path).names.getLast? = some name ∧
      ∃ parent, tree.walk (tree.origin (Path.ofString path)) (Path.ofString path).names.dropLast =
        .ok parent ∧
      ∃ directory, tree.enter parent "." = .ok directory ∧
        ((Path.ofString path).slashed || name = "." || name = "..") = false ∧
        tree.enter directory name = .ok place := by
  unfold locateEntry
  dsimp only
  rw [bind_eq_ok_iff]
  cases (Path.ofString path).names.getLast? with
  | none => simp
  | some name =>
    have guarded (refused : Bool) (directory : Place) :
        (if refused = true then .error .isDirectory else tree.enter directory name) = .ok place ↔
          refused = false ∧ tree.enter directory name = .ok place := by
      cases refused with
      | false => simp
      | true => simp
    simp only [bind_eq_ok_iff, Option.some.injEq, exists_eq_left', guarded]
    constructor
    · rintro ⟨_, checked, rest⟩
      exact ⟨checked, rest⟩
    · intro both
      exact ⟨(), both⟩

structure SameDirectories (tree after : FileTree) : Prop where
  workingDirectory : after.workingDirectory = tree.workingDirectory
  directory_iff : ∀ place, after.node? place = some .directory ↔ tree.node? place = some .directory

namespace SameDirectories

variable {tree after : FileTree}

theorem refl (tree : FileTree) : tree.SameDirectories tree := ⟨rfl, fun _ => Iff.rfl⟩

theorem symm (same : tree.SameDirectories after) : after.SameDirectories tree :=
  ⟨same.workingDirectory.symm, fun place => (same.directory_iff place).symm⟩

theorem trans {last : FileTree} (same : tree.SameDirectories after)
    (also : after.SameDirectories last) : tree.SameDirectories last :=
  ⟨also.workingDirectory.trans same.workingDirectory,
    fun place => (also.directory_iff place).trans (same.directory_iff place)⟩

theorem of_extends {place : Place} {text : String} (extended : tree.Extends place text after) :
    tree.SameDirectories after := by
  refine ⟨extended.workingDirectory, fun other => ?_⟩
  rw [extended.node?_eq]
  split
  · rename_i same
    subst same
    cases tree.node? other with
    | none => simp [FileNode.extend]
    | some node => cases node <;> simp [FileNode.extend]
  · rfl

theorem of_append {path text : String} (appended : tree.append path text = .ok after) :
    tree.SameDirectories after := by
  obtain ⟨_, _, extended⟩ := extends_of_append appended
  exact of_extends extended

theorem enter (same : tree.SameDirectories after) {place next : Place} {name : String}
    (entered : tree.enter place name = .ok next) : after.enter place name = .ok next := by
  unfold FileTree.enter at entered ⊢
  split at entered
  · cases entered
  · rename_i directory
    rw [(same.directory_iff place).mpr directory]
    exact entered
  · cases entered

theorem walk (same : tree.SameDirectories after) {place last : Place} {names : List String}
    (walked : tree.walk place names = .ok last) : after.walk place names = .ok last := by
  induction names generalizing place with
  | nil => exact walked
  | cons name rest ih =>
    unfold FileTree.walk at walked ⊢
    split at walked
    · cases walked
    · rename_i next entered
      rw [same.enter entered]
      exact ih walked

theorem locateEntry (same : tree.SameDirectories after) {path : String} {place : Place}
    (located : tree.locateEntry path = .ok place) : after.locateEntry path = .ok place := by
  rw [locateEntry_eq_ok_iff] at located ⊢
  obtain ⟨checked, name, last, parent, walked, directory, entered, plain, found⟩ := located
  have origin : after.origin (Path.ofString path) = tree.origin (Path.ofString path) := by
    rw [FileTree.origin, same.workingDirectory, FileTree.origin]
  exact ⟨checked, name, last, parent, origin ▸ same.walk walked, directory, same.enter entered,
    plain, same.enter found⟩

end SameDirectories

def destination? (tree : FileTree) (path : Option String) : Option Place := do
  (tree.locateEntry (← path)).toOption

theorem destination?_eq_some_iff {tree : FileTree} {path : Option String} {place : Place} :
    tree.destination? path = some place ↔
      ∃ text, path = some text ∧ tree.locateEntry text = .ok place := by
  cases path with
  | none => simp [destination?]
  | some text =>
    cases located : tree.locateEntry text with
    | error fault => simp [destination?, located, Except.toOption]
    | ok found => simp [destination?, located, Except.toOption]

theorem SameDirectories.destination? {tree after : FileTree} (same : tree.SameDirectories after)
    (path : Option String) : after.destination? path = tree.destination? path := by
  apply Option.ext
  intro place
  rw [destination?_eq_some_iff, destination?_eq_some_iff]
  constructor
  · rintro ⟨text, rfl, located⟩
    exact ⟨text, rfl, same.symm.locateEntry located⟩
  · rintro ⟨text, rfl, located⟩
    exact ⟨text, rfl, same.locateEntry located⟩

theorem node?_append {tree after : FileTree} {path text : String}
    (appended : tree.append path text = .ok after) (place : Place) :
    after.node? place =
      if tree.destination? (some path) = some place then FileNode.extend text (tree.node? place)
      else tree.node? place := by
  obtain ⟨found, located, extended⟩ := extends_of_append appended
  have destination : tree.destination? (some path) = some found :=
    destination?_eq_some_iff.mpr ⟨path, rfl, located⟩
  rw [extended.node?_eq, destination]
  by_cases same : place = found
  · rw [if_pos same, if_pos (congrArg some same.symm), same]
  · rw [if_neg same, if_neg (fun found => same (Option.some.inj found).symm)]

end FileTree
end JobMatrix
