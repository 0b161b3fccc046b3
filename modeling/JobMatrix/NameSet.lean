/-!
Finite sets of names, kept strictly ascending by code points. Two sets with the same members are
equal, so every text made from one is settled by its members alone.
-/
namespace JobMatrix

structure NameSet where
  toList : List String
  ascending : toList.Pairwise (· < ·)
  deriving DecidableEq

namespace NameSet

instance : Membership String NameSet := ⟨fun set name => name ∈ set.toList⟩

theorem eq_of_toList_eq {a b : NameSet} (same : a.toList = b.toList) : a = b := by
  cases a; cases b
  simpa only [mk.injEq] using same

theorem mem_toList {set : NameSet} {name : String} : name ∈ set.toList ↔ name ∈ set := Iff.rfl

instance (name : String) (set : NameSet) : Decidable (name ∈ set) :=
  inferInstanceAs (Decidable (name ∈ set.toList))

def empty : NameSet := ⟨[], .nil⟩

instance : EmptyCollection NameSet := ⟨empty⟩
instance : Inhabited NameSet := ⟨empty⟩

theorem not_mem_empty (name : String) : name ∉ (∅ : NameSet) := fun h => nomatch h

def isEmpty (set : NameSet) : Bool := set.toList.isEmpty

theorem isEmpty_iff {set : NameSet} : set.isEmpty = true ↔ set = ∅ := by
  constructor
  · intro none
    cases set
    simpa [isEmpty, EmptyCollection.emptyCollection, empty] using none
  · rintro rfl
    rfl

theorem eq_of_not_lt {a b : String} (notBelow : ¬a < b) (notAbove : ¬b < a) : a = b :=
  String.le_antisymm (String.not_lt.mp notAbove) (String.not_lt.mp notBelow)

def place (name : String) : List String → List String
  | [] => [name]
  | first :: rest =>
    if name < first then name :: first :: rest
    else if first < name then first :: place name rest
    else first :: rest

theorem mem_place {name x : String} {names : List String} :
    x ∈ place name names ↔ x = name ∨ x ∈ names := by
  induction names with
  | nil => simp [place]
  | cons first rest ih =>
    unfold place
    split
    · simp
    · split
      · simp only [List.mem_cons, ih]
        exact or_left_comm
      · rename_i notBelow notAbove
        simp [eq_of_not_lt notBelow notAbove]

theorem pairwise_place (name : String) {names : List String} (h : names.Pairwise (· < ·)) :
    (place name names).Pairwise (· < ·) := by
  induction names with
  | nil => simp [place]
  | cons first rest ih =>
    obtain ⟨below, tail⟩ := List.pairwise_cons.mp h
    unfold place
    split
    · rename_i before
      refine List.pairwise_cons.mpr ⟨fun x member => ?_, h⟩
      rcases List.mem_cons.mp member with rfl | inside
      · exact before
      · exact String.lt_trans before (below x inside)
    · split
      · rename_i after
        refine List.pairwise_cons.mpr ⟨fun x member => ?_, ih tail⟩
        rcases mem_place.mp member with rfl | inside
        · exact after
        · exact below x inside
      · exact h

def insert (name : String) (set : NameSet) : NameSet :=
  ⟨place name set.toList, pairwise_place name set.ascending⟩

theorem mem_insert {name x : String} {set : NameSet} : x ∈ set.insert name ↔ x = name ∨ x ∈ set :=
  mem_place

def addAll (set : NameSet) (names : List String) : NameSet :=
  names.foldl (fun set name => set.insert name) set

theorem mem_addAll {x : String} {set : NameSet} {names : List String} :
    x ∈ set.addAll names ↔ x ∈ set ∨ x ∈ names := by
  induction names generalizing set with
  | nil => simp [addAll]
  | cons first rest ih =>
    show x ∈ (set.insert first).addAll rest ↔ _
    rw [ih, mem_insert, List.mem_cons]
    exact ⟨fun h => h.elim (fun h => h.elim (.inr ∘ .inl) .inl) (.inr ∘ .inr),
      fun h => h.elim (.inl ∘ .inr) fun h => h.elim (.inl ∘ .inl) .inr⟩

theorem addAll_append (set : NameSet) (names others : List String) :
    set.addAll (names ++ others) = (set.addAll names).addAll others := List.foldl_append

def ofList (names : List String) : NameSet := (∅ : NameSet).addAll names

theorem mem_ofList {x : String} {names : List String} : x ∈ ofList names ↔ x ∈ names := by
  simp [ofList, mem_addAll, not_mem_empty]

def union (a b : NameSet) : NameSet := a.addAll b.toList

instance : Union NameSet := ⟨union⟩

theorem mem_union {x : String} {a b : NameSet} : x ∈ a ∪ b ↔ x ∈ a ∨ x ∈ b := mem_addAll

def filter (keep : String → Bool) (set : NameSet) : NameSet :=
  ⟨set.toList.filter keep, set.ascending.filter keep⟩

theorem mem_filter {x : String} {keep : String → Bool} {set : NameSet} :
    x ∈ set.filter keep ↔ x ∈ set ∧ keep x = true := List.mem_filter

instance : Inter NameSet := ⟨fun a b => a.filter (· ∈ b)⟩

theorem mem_inter {x : String} {a b : NameSet} : x ∈ a ∩ b ↔ x ∈ a ∧ x ∈ b := by
  show x ∈ a.filter _ ↔ _
  simp [mem_filter]

instance : SDiff NameSet := ⟨fun a b => a.filter (· ∉ b)⟩

theorem mem_sdiff {x : String} {a b : NameSet} : x ∈ a \ b ↔ x ∈ a ∧ x ∉ b := by
  show x ∈ a.filter _ ↔ _
  simp [mem_filter]

theorem eq_of_pairwise_of_mem_iff {a b : List String} (ha : a.Pairwise (· < ·))
    (hb : b.Pairwise (· < ·)) (same : ∀ x, x ∈ a ↔ x ∈ b) : a = b := by
  induction a generalizing b with
  | nil => exact (List.eq_nil_iff_forall_not_mem.mpr fun x h => nomatch (same x).mpr h).symm
  | cons first rest ih =>
    cases b with
    | nil => exact nomatch (same first).mp List.mem_cons_self
    | cons other others =>
      obtain ⟨belowA, tailA⟩ := List.pairwise_cons.mp ha
      obtain ⟨belowB, tailB⟩ := List.pairwise_cons.mp hb
      have heads : first = other := by
        rcases List.mem_cons.mp ((same first).mp List.mem_cons_self) with h | inB
        · exact h
        · rcases List.mem_cons.mp ((same other).mpr List.mem_cons_self) with h | inA
          · exact h.symm
          · exact absurd (String.lt_trans (belowB _ inB) (belowA _ inA)) (String.lt_irrefl _)
      subst heads
      refine congrArg _ (ih tailA tailB fun x => ?_)
      constructor <;> intro member
      · rcases List.mem_cons.mp ((same x).mp (List.mem_cons_of_mem _ member)) with rfl | h
        · exact absurd (belowA _ member) (String.lt_irrefl _)
        · exact h
      · rcases List.mem_cons.mp ((same x).mpr (List.mem_cons_of_mem _ member)) with rfl | h
        · exact absurd (belowB _ member) (String.lt_irrefl _)
        · exact h

theorem ext {a b : NameSet} (same : ∀ x, x ∈ a ↔ x ∈ b) : a = b :=
  eq_of_toList_eq (eq_of_pairwise_of_mem_iff a.ascending b.ascending same)

theorem ofList_cons (name : String) (names : List String) :
    ofList (name :: names) = (ofList names).insert name := by
  apply ext
  intro other
  rw [mem_ofList, List.mem_cons, mem_insert, mem_ofList]

theorem ofList_toList (set : NameSet) : ofList set.toList = set :=
  ext fun _ => mem_ofList

theorem union_empty (a : NameSet) : a ∪ ∅ = a := by
  apply ext
  intro name
  rw [mem_union, or_iff_left (not_mem_empty name)]

theorem ne_empty_of_mem {a : NameSet} {name : String} (member : name ∈ a) : a ≠ ∅ := by
  rintro rfl
  exact not_mem_empty name member

theorem union_eq_empty_iff {a b : NameSet} (first : b ≠ ∅ → a ≠ ∅) : a ∪ b = ∅ ↔ a = ∅ := by
  constructor
  · intro none
    apply ext
    intro name
    apply iff_of_false _ (not_mem_empty name)
    intro member
    exact ne_empty_of_mem (mem_union.mpr (.inl member)) none
  · intro none
    have also : b = ∅ := Classical.byContradiction fun some => first some none
    rw [none, also, union_empty]

end NameSet
end JobMatrix
