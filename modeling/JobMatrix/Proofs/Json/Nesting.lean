import JobMatrix.Proofs.Json.RoundTrip
import JobMatrix.Proofs.Json.Writing

/-!
How deep containers are nested, and what that means for printed text. A value without reals is read
back from its text as it was if its containers are nested no deeper than the reader goes; if they
are, the text is refused at the first place that is too deep.
-/
namespace JobMatrix.Json

/-- Values without reals whose integers are in range and whose keys are distinct. -/
inductive Plain : Json → Prop where
  | null : Plain .null
  | bool (value : Bool) : Plain (.bool value)
  | integer {n : Int} (fits : IsIntegral n) : Plain (.integer n)
  | string (text : String) : Plain (.string text)
  | array {items : List Json} (inside : ∀ item ∈ items, Plain item) : Plain (.array items)
  | object {members : List (String × Json)} (distinct : (Table.names members).Nodup)
      (inside : ∀ member ∈ members, Plain member.2) : Plain (.object members)

mutual

def depth : Json → Nat
  | .array items => depthOfItems items + 1
  | .object members => depthOfMembers members + 1
  | _ => 0

def depthOfItems : List Json → Nat
  | [] => 0
  | item :: rest => max (depth item) (depthOfItems rest)

def depthOfMembers : List (String × Json) → Nat
  | [] => 0
  | (_, value) :: rest => max (depth value) (depthOfMembers rest)

end

theorem depthOfItems_le_iff {items : List Json} {n : Nat} :
    depthOfItems items ≤ n ↔ ∀ item ∈ items, depth item ≤ n := by
  induction items with
  | nil => simp [depthOfItems]
  | cons item items ih => rw [depthOfItems, Nat.max_le, ih, List.forall_mem_cons]

theorem depthOfMembers_le_iff {members : List (String × Json)} {n : Nat} :
    depthOfMembers members ≤ n ↔ ∀ member ∈ members, depth member.2 ≤ n := by
  induction members with
  | nil => simp [depthOfMembers]
  | cons member members ih => rw [depthOfMembers, Nat.max_le, ih, List.forall_mem_cons]

theorem readable_of_depth_le {value : Json} (plain : Plain value) :
    ∀ {n : Nat}, depth value ≤ n → Readable n value := by
  induction plain with
  | null => intro n _; exact .null
  | bool value => intro n _; exact .bool value
  | integer fits => intro n _; exact .integer fits
  | string text => intro n _; exact .string text
  | array inside ih =>
    intro n within
    rw [depth] at within
    obtain ⟨m, rfl⟩ := Nat.exists_eq_add_of_le' (Nat.le_trans (Nat.succ_pos _) within)
    have items := depthOfItems_le_iff.mp (Nat.le_of_succ_le_succ within)
    exact .array fun item member => ih item member (items item member)
  | object distinct inside ih =>
    intro n within
    rw [depth] at within
    obtain ⟨m, rfl⟩ := Nat.exists_eq_add_of_le' (Nat.le_trans (Nat.succ_pos _) within)
    have members := depthOfMembers_le_iff.mp (Nat.le_of_succ_le_succ within)
    exact .object distinct fun member among => ih member among (members member among)

theorem plain_begins {value : Json} (plain : Plain value) : Begins (print value) :=
  print_begins (readable_of_depth_le plain (Nat.le_refl _))

/-! Containers that are nested too deep -/

theorem exists_first_deeper {α : Type} (size : α → Nat) {n : Nat} {values : List α}
    (deeper : ¬∀ value ∈ values, size value ≤ n) :
    ∃ before bad after, values = before ++ bad :: after ∧ n < size bad ∧
      ∀ value ∈ before, size value ≤ n := by
  simp only [Classical.not_forall, Nat.not_le] at deeper
  obtain ⟨value, member, deep⟩ := deeper
  have some : (values.find? (n < size ·)).isSome = true :=
    List.find?_isSome.mpr ⟨value, member, decide_eq_true deep⟩
  obtain ⟨bad, found⟩ := Option.isSome_iff_exists.mp some
  obtain ⟨deepest, before, after, split, fine⟩ := List.find?_eq_some_iff_append.mp found
  refine ⟨before, bad, after, split, of_decide_eq_true deepest, ?_⟩
  intro value member
  simpa using fine value member

theorem commaSeparated_front (first : List Char) (parts : List (List Char)) (rest : List Char) :
    ∃ tail, commaSeparated (first :: parts) ++ rest = first ++ tail := by
  cases parts with
  | nil => exact ⟨rest, by simp [commaSeparated]⟩
  | cons second parts =>
    rw [commaSeparated_cons, List.append_assoc]
    exact ⟨_, rfl⟩

theorem commaSeparated_more {first : List Char} {parts : List (List Char)} (some : parts ≠ []) :
    commaSeparated (first :: parts) = first ++ ',' :: ' ' :: commaSeparated parts := by
  cases parts with
  | nil => exact absurd rfl some
  | cons second parts => exact commaSeparated_cons

def TooDeep {α : Type} (reading : Except Refusal α) : Prop :=
  ∃ left, reading = .error ⟨.tooDeep, left⟩

theorem TooDeep.map {α β : Type} {reading : Except Refusal α} (deep : TooDeep reading)
    (f : α → β) : TooDeep (reading.map f) := by
  obtain ⟨left, rfl⟩ := deep
  exact ⟨left, rfl⟩

section Listed

variable {α : Type} {bracket : Bracket} {item : List Char → Reading α}

theorem readListed_tooDeep {cs : List Char} (deep : TooDeep (item cs)) (budget : Nat) :
    TooDeep (readListed bracket item (budget + 1) cs) := by
  obtain ⟨left, refused⟩ := deep
  exact ⟨left, by simp [readListed, refused]⟩

theorem readListed_tooDeep_later (notComma : bracket.close ≠ ',') {cs tail : List Char} {value : α}
    {budget : Nat} (read : item cs = .ok (value, ',' :: tail))
    (later : TooDeep (readListed bracket item budget tail)) :
    TooDeep (readListed bracket item (budget + 1) cs) := by
  have shown : isBlankChar ',' = false := rfl
  have read_more : readListed bracket item (budget + 1) cs =
      (readListed bracket item budget tail).map fun listed => (value :: listed.1, listed.2) := by
    simp [readListed, read, skipBlanks_cons shown, notComma.symm]
  rw [read_more]
  exact later.map _

/-- An item that is too deep, after others that are read, is reached. -/
theorem readListed_reaches (notComma : bracket.close ≠ ',')
    (blank : ∀ cs, item (' ' :: cs) = item cs) {text : α → List Char} {before after : List α}
    {bad : α}
    (reads : ∀ value ∈ before, ∀ rest, EndsNumber rest →
      item (text value ++ rest) = .ok (value, rest))
    (deep : ∀ rest, TooDeep (item (text bad ++ rest)))
    {budget : Nat} (enough : (before ++ bad :: after).length ≤ budget) (rest : List Char) :
    TooDeep (readListed bracket item budget
      (commaSeparated ((before ++ bad :: after).map text) ++ rest)) := by
  induction before generalizing budget with
  | nil =>
    obtain ⟨budget, rfl⟩ := Nat.exists_eq_add_of_le' (Nat.le_trans (Nat.succ_pos _) enough)
    obtain ⟨tail, shape⟩ := commaSeparated_front (text bad) (after.map text) rest
    rw [List.nil_append, List.map_cons, shape]
    exact readListed_tooDeep (deep tail) budget
  | cons first before ih =>
    obtain ⟨budget, rfl⟩ := Nat.exists_eq_add_of_le' (Nat.le_trans (Nat.succ_pos _) enough)
    rw [List.forall_mem_cons] at reads
    have later := ih reads.2 (Nat.le_of_succ_le_succ enough)
    rw [← readListed_blank blank] at later
    rw [List.cons_append, List.map_cons, commaSeparated_more (by simp), List.append_assoc]
    exact readListed_tooDeep_later notComma (reads.1 _ (endsNumber_cons (by decide))) later

end Listed

theorem readArray_tooDeep {item : List Char → Reading Json}
    (blank : ∀ cs, item (' ' :: cs) = item cs) {before after : List Json} {bad : Json}
    (begins : ∀ value ∈ before ++ bad :: after, Begins (print value))
    (reads : ∀ value ∈ before, ∀ rest, EndsNumber rest →
      item (print value ++ rest) = .ok (value, rest))
    (deep : ∀ rest, TooDeep (item (print bad ++ rest))) (rest : List Char) :
    TooDeep (readArray item (commaSeparated ((before ++ bad :: after).map print) ++ rest)) := by
  have some : before ++ bad :: after ≠ [] := by simp
  have enough := length_le_listed print (before ++ bad :: after) rest
  have notComma : listBracket.close ≠ ',' := by decide
  have same (value : Json) (member : value ∈ before ++ bad :: after) (rest : List Char) :
      readItem item (print value ++ rest) = item (print value ++ rest) :=
    readItem_of_begins (begins_append (begins value member) rest) item
  have listed := readListed_reaches notComma (readItem_blank blank)
    (fun value member rest ends =>
      (same value (List.mem_append_left _ member) rest).trans (reads value member rest ends))
    (fun rest => same bad (by simp) rest ▸ deep rest) enough rest
  rw [readArray_of_begins (listed_begins some begins rest)]
  exact listed.map _

theorem readMember_tooDeep {item : List Char → Reading Json}
    (blank : ∀ cs, item (' ' :: cs) = item cs) (member : String × Json) {rest : List Char}
    (deep : TooDeep (item (print member.2 ++ rest))) :
    TooDeep (readMember item (printMember member ++ rest)) := by
  rw [readMember_printed blank]
  exact deep.map _

theorem readObject_tooDeep {item : List Char → Reading Json}
    (blank : ∀ cs, item (' ' :: cs) = item cs) {before after : List (String × Json)}
    {bad : String × Json}
    (reads : ∀ member ∈ before, ∀ rest, EndsNumber rest →
      item (print member.2 ++ rest) = .ok (member.2, rest))
    (deep : ∀ rest, TooDeep (item (print bad.2 ++ rest))) (rest : List Char) :
    TooDeep (readObject item
      (commaSeparated ((before ++ bad :: after).map printMember) ++ rest)) := by
  have some : before ++ bad :: after ≠ [] := by simp
  have enough := length_le_listed printMember (before ++ bad :: after) rest
  have notComma : objectBracket.close ≠ ',' := by decide
  have listed := readListed_reaches notComma (readMember_blank item)
    (fun member among rest ends => readMember_printMember blank member
      (reads member among rest ends))
    (fun rest => readMember_tooDeep blank bad (deep rest)) enough rest
  rw [readObject_of_begins (listed_begins some (fun member _ => printMember_begins member) rest)]
  exact listed.map _

theorem readValue_tooDeep {value : Json} (plain : Plain value) :
    ∀ {n : Nat}, n < depth value → ∀ rest : List Char,
      TooDeep (readValue n (print value ++ rest)) := by
  induction plain with
  | null | bool | integer | string =>
    intro n deep
    exact absurd deep (Nat.not_lt_zero n)
  | @array items inside ih =>
    intro n deep rest
    rw [print, printItems_eq_map, List.cons_append, List.append_assoc]
    cases n with
    | zero => exact ⟨_, rfl⟩
    | succ n =>
      -- What stands before the first item that is too deep is read, so that item is reached.
      rw [depth, Nat.succ_lt_succ_iff, ← Nat.not_le, depthOfItems_le_iff] at deep
      obtain ⟨before, bad, after, rfl, deeper, fine⟩ := exists_first_deeper depth deep
      rw [readValue_array]
      apply readArray_tooDeep (readValue_blank n)
      · intro value member
        exact plain_begins (inside value member)
      · intro value member rest ends
        have plain := inside value (List.mem_append_left _ member)
        exact readValue_print (readable_of_depth_le plain (fine value member)) ends
      · exact ih bad (by simp) deeper
  | @object members distinct inside ih =>
    intro n deep rest
    rw [print, printMembers_eq_map, List.cons_append, List.append_assoc]
    cases n with
    | zero => exact ⟨_, rfl⟩
    | succ n =>
      rw [depth, Nat.succ_lt_succ_iff, ← Nat.not_le, depthOfMembers_le_iff] at deep
      obtain ⟨before, bad, after, rfl, deeper, fine⟩ :=
        exists_first_deeper (fun member : String × Json => depth member.2) deep
      rw [readValue_object]
      apply readObject_tooDeep (readValue_blank n)
      · intro member among rest ends
        have plain := inside member (List.mem_append_left _ among)
        exact readValue_print (readable_of_depth_le plain (fine member among)) ends
      · exact ih bad (by simp) deeper

theorem read_tooDeep {value : Json} (plain : Plain value) (deep : depthLimit < depth value) :
    ∃ line column, read value.render = .error ⟨.tooDeep, line, column⟩ := by
  obtain ⟨left, refused⟩ := readValue_tooDeep plain deep []
  rw [List.append_nil] at refused
  have fault : read value.render = .error (Refusal.fault ⟨.tooDeep, left⟩ value.render) := by
    rw [read, render, String.toList_ofList, refused]
    rfl
  exact ⟨_, _, fault⟩

/-- A plain value is written as visible ASCII. The text is read back as the same value, its keys in
the same order, if containers are nested 127 deep at most, and is refused otherwise. -/
theorem plain_read_back {value : Json} (plain : Plain value) :
    toSpacedJson value = .ok value.render ∧
    (∀ c ∈ value.render.toList, ' ' ≤ c ∧ c ≤ '~') ∧
    (depth value ≤ 127 → read value.render = .ok value) ∧
    (127 < depth value →
      ∃ line column, read value.render = .error ⟨.tooDeep, line, column⟩) := by
  refine ⟨toSpacedJson_eq value, ?_, ?_, read_tooDeep plain⟩
  · rw [render, String.toList_ofList]
    exact print_visible (readable_of_depth_le plain (Nat.le_refl _))
  · intro within
    exact read_render (readable_of_depth_le plain within)

def nest : Nat → Json → Json
  | 0, value => value
  | n + 1, value => .array [nest n value]

def assortment : Json :=
  .object [("z\"", .array [.null, .bool true, .integer (-0x8000000000000000), .array []]),
    ("a", .integer 0xFFFFFFFFFFFFFFFF), ("", .string "\n\x7fé😀")]

theorem plain_nest {value : Json} (plain : Plain value) (n : Nat) : Plain (nest n value) := by
  induction n with
  | zero => exact plain
  | succ n ih => exact .array (by simpa using ih)

theorem depth_nest (n : Nat) (value : Json) : depth (nest n value) = n + depth value := by
  induction n with
  | zero => rw [nest, Nat.zero_add]
  | succ n ih =>
    rw [nest, depth, depthOfItems, depthOfItems, ih]
    omega

theorem plain_assortment : Plain assortment := by
  refine .object (by decide) ?_
  simp only [List.forall_mem_cons]
  refine ⟨.array ?_, .integer (by decide), .string _, List.forall_mem_nil _⟩
  simp only [List.forall_mem_cons]
  exact ⟨.null, .bool true, .integer (by decide), .array (List.forall_mem_nil _),
    List.forall_mem_nil _⟩

theorem assortment_read_at_limit :
    assortment.render = "\x7b\"z\\\"\": [null, true, -9223372036854775808, []], " ++
      "\"a\": 18446744073709551615, \"\": \"\\n\\u007f\\u00e9\\ud83d\\ude00\"\x7d" ∧
    toSpacedJson (nest 124 assortment) = .ok (nest 124 assortment).render ∧
    (∀ c ∈ (nest 124 assortment).render.toList, ' ' ≤ c ∧ c ≤ '~') ∧
    read (nest 124 assortment).render = .ok (nest 124 assortment) ∧
    ∃ line column, read (nest 125 assortment).render = .error ⟨.tooDeep, line, column⟩ := by
  have deep (n : Nat) : depth (nest n assortment) = n + 3 := depth_nest n assortment
  have atLimit : depth (nest 124 assortment) ≤ 127 := Nat.le_of_eq (deep 124)
  have beyond : 127 < depth (nest 125 assortment) := Nat.le_of_eq (deep 125).symm
  obtain ⟨written, visible, back, _⟩ := plain_read_back (plain_nest plain_assortment 124)
  obtain ⟨_, _, _, refused⟩ := plain_read_back (plain_nest plain_assortment 125)
  exact ⟨by decide, written, visible, back atLimit, refused beyond⟩

end JobMatrix.Json
