import JobMatrix.Proofs.Json.RoundTrip
import Mathlib.Data.List.Induction

/-!
The members of an object as they stand in its text, repeated keys included. The table that is made
of them has each key at its first place with its last value, and a text is read as a table just if
it has such members.
-/
namespace JobMatrix

namespace Table

variable {α : Type}

def LastValue (pairs : List (String × α)) (name : String) (value : α) : Prop :=
  ∃ before after, pairs = before ++ (name, value) :: after ∧ name ∉ names after

theorem ofPairs_concat (pairs : List (String × α)) (pair : String × α) :
    ofPairs (pairs ++ [pair]) = (ofPairs pairs).put pair.1 pair.2 := by
  simp [ofPairs]

theorem names_put_of_mem {name : String} {table : Table α} (known : name ∈ table.names)
    (value : α) : (table.put name value).names = table.names := by
  induction table with
  | nil => cases known
  | cons entry rest ih =>
    unfold put
    split
    · rfl
    · rename_i other
      have later : name ∈ names rest := (List.mem_cons.mp known).resolve_left (Ne.symm other)
      exact congrArg (entry.1 :: ·) (ih later)

theorem names_concat (pairs : List (String × α)) (pair : String × α) :
    names (pairs ++ [pair]) = names pairs ++ [pair.1] :=
  List.map_append

theorem names_ofPairs (pairs : List (String × α)) :
    (ofPairs pairs).names = (names pairs).eraseDups := by
  induction pairs using List.reverseRecOn with
  | nil => rfl
  | append_singleton pairs pair ih =>
    rw [ofPairs_concat, names_concat, List.eraseDups_append, ← ih]
    by_cases known : pair.1 ∈ names pairs
    · have placed : pair.1 ∈ (ofPairs pairs).names := by
        rwa [ih, List.mem_eraseDups]
      simp [names_put_of_mem placed, List.removeAll, known]
    · have fresh : pair.1 ∉ (ofPairs pairs).names := by
        rwa [ih, List.mem_eraseDups]
      simp [put_of_not_mem fresh, names_concat, List.removeAll, known, List.eraseDups_cons]

theorem mem_names_ofPairs {pairs : List (String × α)} {name : String} :
    name ∈ (ofPairs pairs).names ↔ name ∈ names pairs := by
  rw [names_ofPairs, List.mem_eraseDups]

theorem nodup_names_ofPairs (pairs : List (String × α)) : (ofPairs pairs).names.Nodup := by
  induction pairs using List.reverseRecOn with
  | nil => exact List.nodup_nil
  | append_singleton pairs pair ih =>
    rw [ofPairs_concat]
    exact nodup_names_put ih pair.1 pair.2

theorem get?_ofPairs_append (front back : List (String × α)) (name : String) :
    (ofPairs (front ++ back)).get? name =
      ((ofPairs back).get? name).or ((ofPairs front).get? name) := by
  induction back using List.reverseRecOn with
  | nil =>
    rw [List.append_nil]
    rfl
  | append_singleton back pair ih =>
    rw [← List.append_assoc, ofPairs_concat, ofPairs_concat]
    by_cases same : name = pair.1
    · rw [same, get?_put_self, get?_put_self, Option.some_or]
    · rw [get?_put_of_ne same, get?_put_of_ne same, ih]

theorem get?_ofPairs_middle (before after : List (String × α)) (name : String) (value : α)
    (other : String) : (ofPairs (before ++ (name, value) :: after)).get? other =
      ((ofPairs after).get? other).or
        (if name = other then some value else (ofPairs before).get? other) := by
  have single : (ofPairs [(name, value)]).get? other = if name = other then some value else none :=
    rfl
  rw [List.append_cons, get?_ofPairs_append, get?_ofPairs_append, single]
  split
  · rfl
  · rfl

theorem get?_ofPairs_eq_none {pairs : List (String × α)} {name : String}
    (absent : name ∉ names pairs) : (ofPairs pairs).get? name = none := by
  rw [← mem_names_ofPairs, mem_names_iff] at absent
  exact Option.not_isSome_iff_eq_none.mp absent

theorem get?_ofPairs_eq_some_iff {pairs : List (String × α)} {name : String} {value : α} :
    (ofPairs pairs).get? name = some value ↔ LastValue pairs name value := by
  constructor
  · intro found
    induction pairs using List.reverseRecOn with
    | nil => cases found
    | append_singleton pairs pair ih =>
      rw [ofPairs_concat] at found
      by_cases same : name = pair.1
      · rw [same, get?_put_self] at found
        cases found
        exact ⟨pairs, [], by rw [same], List.not_mem_nil⟩
      · rw [get?_put_of_ne same] at found
        obtain ⟨before, after, rfl, fresh⟩ := ih found
        refine ⟨before, after ++ [pair], by simp, ?_⟩
        simp [names_concat, fresh, same]
  · rintro ⟨before, after, rfl, fresh⟩
    rw [get?_ofPairs_middle, get?_ofPairs_eq_none fresh, if_pos rfl, Option.none_or]

theorem LastValue.unique {pairs : List (String × α)} {name : String} {value other : α}
    (last : LastValue pairs name value) (also : LastValue pairs name other) : value = other := by
  rw [← get?_ofPairs_eq_some_iff] at last also
  rw [last] at also
  exact Option.some_inj.mp also

theorem mem_iff_get? {table : Table α} (distinct : table.names.Nodup) {name : String} {value : α} :
    (name, value) ∈ table ↔ table.get? name = some value := by
  induction table with
  | nil => simp [get?]
  | cons entry rest ih =>
    obtain ⟨key, held⟩ := entry
    obtain ⟨fresh, distinct⟩ := List.nodup_cons.mp distinct
    rw [get?, List.mem_cons, ih distinct, Prod.mk.injEq]
    split
    · rename_i same
      subst same
      have later : get? key rest = none :=
        Option.not_isSome_iff_eq_none.mp (mt mem_names_iff.mpr fresh)
      simp [later, eq_comm]
    · rename_i other
      rw [or_iff_right fun same => other same.1.symm]

theorem mem_ofPairs_iff {pairs : List (String × α)} {name : String} {value : α} :
    (name, value) ∈ ofPairs pairs ↔ LastValue pairs name value := by
  rw [mem_iff_get? (nodup_names_ofPairs pairs), get?_ofPairs_eq_some_iff]

theorem mem_names_of_mem {table : Table α} {entry : String × α} (member : entry ∈ table) :
    entry.1 ∈ table.names :=
  List.mem_map_of_mem member

/-- Tables with the same names in the same order are equal if no value differs. -/
theorem eq_of_names_eq {table other : Table α} (distinct : table.names.Nodup)
    (same : table.names = other.names) (values : ∀ entry ∈ table, entry ∈ other) :
    table = other := by
  induction table generalizing other with
  | nil => exact (List.map_eq_nil_iff.mp same.symm).symm
  | cons entry rest ih =>
    cases other with
    | nil => cases same
    | cons first others =>
      obtain ⟨fresh, distinct⟩ := List.nodup_cons.mp distinct
      obtain ⟨head, tail⟩ := List.cons.inj same
      have heads : entry = first := by
        rcases List.mem_cons.mp (values entry List.mem_cons_self) with equal | later
        · exact equal
        · exact absurd (tail ▸ mem_names_of_mem later) fresh
      subst heads
      refine congrArg _ (ih distinct tail ?_)
      intro found member
      rcases List.mem_cons.mp (values found (List.mem_cons_of_mem _ member)) with rfl | later
      · exact absurd (mem_names_of_mem member) fresh
      · exact later

/-- A value that its name takes later again is as if it had never been there. -/
theorem ofPairs_overwritten {before after : List (String × α)} {name : String}
    (again : name ∈ names after) (value other : α) :
    ofPairs (before ++ (name, value) :: after) = ofPairs (before ++ (name, other) :: after) := by
  have same : names (before ++ (name, value) :: after) =
      names (before ++ (name, other) :: after) := by
    simp [names]
  apply eq_of_names_eq (nodup_names_ofPairs _)
  · rw [names_ofPairs, names_ofPairs, same]
  · rintro ⟨key, found⟩
    rw [mem_iff_get? (nodup_names_ofPairs _), mem_iff_get? (nodup_names_ofPairs _),
      get?_ofPairs_middle, get?_ofPairs_middle]
    by_cases mine : name = key
    · subst mine
      rw [← mem_names_ofPairs, mem_names_iff, Option.isSome_iff_exists] at again
      obtain ⟨last, taken⟩ := again
      rw [taken, Option.some_or, Option.some_or]
      exact id
    · rw [if_neg mine, if_neg mine]
      exact id

end Table

namespace Json

section Containers

variable {item : List Char → Reading Json}

theorem readMember_eq_ok {cs rest : List Char} {member : String × Json}
    (read : readMember item cs = .ok (member, rest)) :
    ∃ inside middle after, skipBlanks cs = '"' :: inside ∧
      readString inside = .ok (member.1, middle) ∧ skipBlanks middle = ':' :: after ∧
      item after = .ok (member.2, rest) := by
  unfold readMember at read
  split at read
  · cases read
  · rename_i inside opens
    split at read
    · cases read
    · rename_i key middle keyed
      split at read
      · cases read
      · rename_i after colon
        obtain ⟨⟨value, left⟩, valued, pair⟩ := exists_of_map_ok read
        cases pair
        exact ⟨inside, middle, after, opens, keyed, colon, valued⟩
      · cases read
  · cases read
  · cases read

theorem shrinks_readItem (shrinks : Shrinks item) : Shrinks (readItem item) := by
  intro cs value rest read
  unfold readItem at read
  split at read
  · cases read
  · exact shrinks cs value rest read

theorem shrinks_readMember (shrinks : Shrinks item) : Shrinks (readMember item) := by
  intro cs member rest read
  obtain ⟨inside, middle, after, opens, keyed, colon, valued⟩ := readMember_eq_ok read
  have front := length_lt_of_skipBlanks opens
  have key := shrinks_readString inside member.1 middle keyed
  have between := length_lt_of_skipBlanks colon
  have value := shrinks after member.2 rest valued
  omega

theorem shrinks_readArray (shrinks : Shrinks item) : Shrinks (readArray item) := by
  intro cs value rest read
  unfold readArray at read
  split at read
  · cases read
  · rename_i closes
    cases read
    exact Nat.le_of_lt (length_lt_of_skipBlanks closes)
  · exact (shrinks_readListed (shrinks_readItem shrinks) _).of_map read fun _ => rfl

/-- The members of an object behind its opening brace, in the order of the text and each key as
often as it stands there, and the characters behind the closing brace. -/
inductive Members (item : List Char → Reading Json) (cs : List Char) :
    List (String × Json) → List Char → Prop
  | none {rest : List Char} (closes : skipBlanks cs = '\x7d' :: rest) : Members item cs [] rest
  | some {members : List (String × Json)} {rest : List Char}
      (listing : Listing objectBracket (readMember item) cs members rest) :
    Members item cs members rest

theorem readObject_eq_ok_iff (shrinks : Shrinks item) {cs rest : List Char} {value : Json} :
    readObject item cs = .ok (value, rest) ↔
      ∃ members, Members item cs members rest ∧ value = .object (Table.ofPairs members) := by
  have notComma : objectBracket.close ≠ ',' := by decide
  constructor
  · intro read
    unfold readObject at read
    split at read
    · cases read
    · rename_i closes
      cases read
      exact ⟨[], .none closes, rfl⟩
    · obtain ⟨⟨members, left⟩, listed, pair⟩ := exists_of_map_ok read
      cases pair
      exact ⟨members, .some (listing_of_readListed listed), rfl⟩
  · rintro ⟨members, stand, rfl⟩
    cases stand with
    | none closes =>
      rw [readObject, closes]
      rfl
    | some listing =>
      -- The first member begins with the mark of its key, so the brace is not met at once.
      obtain ⟨member, left, read⟩ := exists_first_of_listing listing
      obtain ⟨inside, _, _, opens, _⟩ := readMember_eq_ok read
      have listed := (readListed_eq_ok_iff notComma (shrinks_readMember shrinks)).mpr listing
      rw [readObject, opens]
      dsimp only
      rw [listed]
      rfl

theorem shrinks_readObject (shrinks : Shrinks item) : Shrinks (readObject item) := by
  intro cs value rest read
  obtain ⟨members, stand, _⟩ := (readObject_eq_ok_iff shrinks).mp read
  cases stand with
  | none closes => exact Nat.le_of_lt (length_lt_of_skipBlanks closes)
  | some listing =>
    have := length_le_of_listing (shrinks_readMember shrinks) listing
    omega

end Containers

theorem shrinks_readValue (depth : Nat) : Shrinks (readValue depth) := by
  induction depth with
  | zero =>
    intro cs value rest read
    rw [readValue] at read
    split at read
    · cases read
    rename_i c tail begins
    have front := length_lt_of_skipBlanks begins
    split at read
    · cases read
    split at read
    · cases read
    · exact Nat.le_trans (readScalar_shrinks read) front
  | succ depth ih =>
    intro cs value rest read
    rw [readValue] at read
    split at read
    · cases read
    rename_i c tail begins
    have front := length_lt_of_skipBlanks begins
    split at read
    · exact Nat.le_trans (shrinks_readArray ih tail value rest read) (Nat.le_of_lt front)
    split at read
    · exact Nat.le_trans (shrinks_readObject ih tail value rest read) (Nat.le_of_lt front)
    · exact Nat.le_trans (readScalar_shrinks read) front

inductive HasMembers (text : String) (members : List (String × Json)) : Prop
  | intro {inside rest : List Char} (opens : skipBlanks text.toList = '\x7b' :: inside)
      (stand : Members (readValue 126) inside members rest) (ends : skipBlanks rest = []) :
    HasMembers text members

theorem finish_eq_ok_iff {reading : Reading Json} {value : Json} :
    finish reading = .ok value ↔ ∃ rest, reading = .ok (value, rest) ∧ skipBlanks rest = [] := by
  cases reading with
  | error fault => simp [finish]
  | ok pair =>
    obtain ⟨found, rest⟩ := pair
    cases left : skipBlanks rest with
    | nil => simp [finish, left]
    | cons c more => simp [finish, left, stopAfter]

theorem mapError_eq_ok_iff {ε ε' α : Type} {result : Except ε α} {f : ε → ε'} {value : α} :
    result.mapError f = .ok value ↔ result = .ok value := by
  cases result with
  | error fault => simp [Except.mapError]
  | ok found => simp [Except.mapError]

theorem readMembersOf_eq_ok_iff {text : String} {document : List (String × Json)} :
    readMembersOf text = .ok document ↔
      ∃ members, HasMembers text members ∧ document = Table.ofPairs members := by
  rw [readMembersOf, mapError_eq_ok_iff]
  constructor
  · intro read
    unfold readMembers at read
    split at read
    · cases read
    rename_i c inside opens
    split at read
    · cases read
    split at read
    · rename_i brace
      subst brace
      split at read
      · cases read
      · rename_i members whole
        cases read
        obtain ⟨rest, read, ends⟩ := finish_eq_ok_iff.mp whole
        rw [depthLimit, readValue_object, readObject_eq_ok_iff (shrinks_readValue 126)] at read
        obtain ⟨members, stand, table⟩ := read
        exact ⟨members, .intro opens stand ends, Json.object.inj table⟩
      · cases read
    · split at read
      · cases read
      · cases read
  · rintro ⟨members, ⟨opens, stand, ends⟩, rfl⟩
    have object := (readObject_eq_ok_iff (shrinks_readValue 126)).mpr ⟨members, stand, rfl⟩
    rw [← readValue_object] at object
    have whole := finish_eq_ok_iff.mpr ⟨_, object, ends⟩
    rw [readMembers, opens]
    dsimp only
    rw [if_neg (by decide), if_pos rfl, depthLimit, whole]

def membersText (members : List (String × Json)) : String :=
  String.ofList ('\x7b' :: (commaSeparated (members.map printMember) ++ ['\x7d']))

theorem hasMembers_membersText {members : List (String × Json)}
    (readable : ∀ member ∈ members, Readable 126 member.2) :
    HasMembers (membersText members) members := by
  have opens : skipBlanks (membersText members).toList =
      '\x7b' :: (commaSeparated (members.map printMember) ++ ['\x7d']) := by
    rw [membersText, String.toList_ofList, skipBlanks_cons rfl]
  refine .intro opens ?_ (rfl : skipBlanks [] = [])
  cases members with
  | nil => exact .none rfl
  | cons first members =>
    have ends : EndsNumber ['\x7d'] := endsNumber_cons (by decide)
    exact .some (listing_commaSeparated rfl ends (readMember_blank (readValue 126))
      (List.cons_ne_nil first members)
      (fun member among rest ends => readMember_printMember (readValue_blank 126) member
        (readValue_print (readable member among) ends)))

end Json
end JobMatrix
