/-!
Named values in the order in which the names were first put. Putting a name again replaces its
value and keeps its place.
-/
namespace JobMatrix

abbrev Table (α : Type) := List (String × α)

namespace Table

variable {α : Type}

def get? (name : String) : Table α → Option α
  | [] => none
  | (key, value) :: rest => if key = name then some value else get? name rest

def put (name : String) (value : α) : Table α → Table α
  | [] => [(name, value)]
  | (key, old) :: rest =>
    if key = name then (key, value) :: rest else (key, old) :: put name value rest

def names (table : Table α) : List String := table.map Prod.fst

theorem get?_put_self (name : String) (value : α) (table : Table α) :
    (table.put name value).get? name = some value := by
  induction table with
  | nil => simp [put, get?]
  | cons entry rest ih =>
    unfold put
    split
    · rename_i same
      simp [get?, same]
    · rename_i other
      simp [get?, other, ih]

theorem get?_put_of_ne {name other : String} (differs : other ≠ name) (value : α)
    (table : Table α) : (table.put name value).get? other = table.get? other := by
  induction table with
  | nil => simp [put, get?, differs.symm]
  | cons entry rest ih =>
    unfold put
    split
    · rename_i same
      simp [get?, same, differs.symm]
    · simp [get?, ih]

theorem mem_names_iff {name : String} {table : Table α} :
    name ∈ table.names ↔ (table.get? name).isSome = true := by
  induction table with
  | nil => simp [names, get?]
  | cons entry rest ih =>
    rw [get?]
    split
    · rename_i same
      simp [names, same]
    · rename_i other
      rw [← ih]
      simp [names, Ne.symm other]

theorem mem_names_put {name other : String} {value : α} {table : Table α} :
    other ∈ (table.put name value).names ↔ other = name ∨ other ∈ table.names := by
  rw [mem_names_iff, mem_names_iff]
  by_cases same : other = name
  · simp [same, get?_put_self]
  · simp [same, get?_put_of_ne same]

theorem nodup_names_put {table : Table α} (distinct : table.names.Nodup) (name : String)
    (value : α) : (table.put name value).names.Nodup := by
  induction table with
  | nil => simp [put, names]
  | cons entry rest ih =>
    obtain ⟨fresh, distinct⟩ := List.nodup_cons.mp distinct
    unfold put
    split
    · exact List.nodup_cons.mpr ⟨fresh, distinct⟩
    · rename_i other
      refine List.nodup_cons.mpr ⟨?_, ih distinct⟩
      intro member
      rcases mem_names_put.mp member with same | old
      · exact other same
      · exact fresh old

def ofPairs (pairs : List (String × α)) : Table α :=
  pairs.foldl (fun table pair => table.put pair.1 pair.2) []

theorem put_of_not_mem {name : String} {table : Table α} (fresh : name ∉ table.names) (value : α) :
    table.put name value = table ++ [(name, value)] := by
  induction table with
  | nil => rfl
  | cons entry rest ih =>
    simp only [names, List.map_cons, List.mem_cons, not_or] at fresh
    rw [put, if_neg (Ne.symm fresh.1), ih fresh.2]
    rfl

theorem foldl_put_of_nodup {table pairs : Table α}
    (distinct : (table ++ pairs).names.Nodup) :
    pairs.foldl (fun table pair => table.put pair.1 pair.2) table = table ++ pairs := by
  induction pairs generalizing table with
  | nil => simp
  | cons pair pairs ih =>
    have grouped : table ++ pair :: pairs = (table ++ [pair]) ++ pairs := by simp
    have fresh : pair.1 ∉ table.names := by
      intro member
      rw [names, List.map_append, List.nodup_append] at distinct
      exact distinct.2.2 pair.1 member pair.1 (by simp) rfl
    rw [List.foldl_cons, put_of_not_mem fresh, grouped]
    exact ih (grouped ▸ distinct)

theorem ofPairs_of_nodup {pairs : Table α} (distinct : pairs.names.Nodup) :
    ofPairs pairs = pairs :=
  foldl_put_of_nodup distinct

end Table
end JobMatrix
