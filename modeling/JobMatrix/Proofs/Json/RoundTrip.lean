import JobMatrix.Proofs.Json.Listing
import JobMatrix.Proofs.Json.Numerals
import JobMatrix.Proofs.Json.Strings

/-!
Printed JSON read back. Every value without reals whose integers are in range, whose keys are
distinct and whose containers are nested no deeper than the reader goes is printed as visible
ASCII, and reading the text gives the value, key order included.
-/
namespace JobMatrix.Json

/-- Values that are read back from their text, with containers nested at most so deep. -/
inductive Readable : Nat → Json → Prop where
  | null {depth : Nat} : Readable depth .null
  | bool {depth : Nat} (value : Bool) : Readable depth (.bool value)
  | integer {depth : Nat} {n : Int} (fits : IsIntegral n) : Readable depth (.integer n)
  | string {depth : Nat} (text : String) : Readable depth (.string text)
  | array {depth : Nat} {items : List Json} (inside : ∀ item ∈ items, Readable depth item) :
      Readable (depth + 1) (.array items)
  | object {depth : Nat} {members : List (String × Json)}
      (distinct : (Table.names members).Nodup)
      (inside : ∀ member ∈ members, Readable depth member.2) :
      Readable (depth + 1) (.object members)

def printMember (member : String × Json) : List Char :=
  printString member.1 ++ ':' :: ' ' :: print member.2

theorem printItems_eq_map (items : List Json) : printItems items = items.map print := by
  induction items with
  | nil => rw [printItems, List.map_nil]
  | cons item items ih => rw [printItems, List.map_cons, ih]

theorem printMembers_eq_map (members : List (String × Json)) :
    printMembers members = members.map printMember := by
  induction members with
  | nil => rw [printMembers, List.map_nil]
  | cons member members ih => rw [printMembers, List.map_cons, ih, printMember]

theorem commaSeparated_cons {first second : List Char} {rest : List (List Char)} :
    commaSeparated (first :: second :: rest) =
      first ++ ',' :: ' ' :: commaSeparated (second :: rest) := by
  simp [commaSeparated, List.intercalate_cons_cons]

theorem length_le_commaSeparated (parts : List (List Char)) :
    parts.length ≤ (commaSeparated parts).length + 1 := by
  induction parts with
  | nil => simp
  | cons first rest ih =>
    cases rest with
    | nil => simp
    | cons second rest =>
      rw [commaSeparated_cons]
      simp only [List.length_cons, List.length_append] at ih ⊢
      omega

/-! What is printed -/

theorem commaSeparated_visible {parts : List (List Char)}
    (inside : ∀ part ∈ parts, ∀ c ∈ part, Visible c) :
    ∀ c ∈ commaSeparated parts, Visible c := by
  induction parts with
  | nil => intro c member; cases member
  | cons first rest ih =>
    cases rest with
    | nil => simpa [commaSeparated] using inside
    | cons second rest =>
      intro c member
      simp only [commaSeparated_cons, List.mem_append, List.mem_cons] at member
      rcases member with head | rfl | rfl | tail
      · exact inside first List.mem_cons_self c head
      · decide
      · decide
      · exact ih (fun part later => inside part (List.mem_cons_of_mem first later)) c tail

theorem digit_visible {c : Char} (digit : c.isDigit = true) : Visible c := by
  simp only [Char.isDigit, Bool.and_eq_true, decide_eq_true_eq] at digit
  exact ⟨Char.le_trans (by decide) digit.1, Char.le_trans digit.2 (by decide)⟩

theorem printInteger_visible {n : Int} {c : Char} (member : c ∈ printInteger n) : Visible c := by
  unfold printInteger at member
  split at member
  · rcases List.mem_cons.mp member with rfl | digit
    · decide
    · exact digit_visible (digit_of_mem_toDigits digit)
  · exact digit_visible (digit_of_mem_toDigits member)

theorem bracketed_visible {first last : Char} {parts : List (List Char)} (opens : Visible first)
    (closes : Visible last) (inside : ∀ part ∈ parts, ∀ c ∈ part, Visible c) :
    ∀ c ∈ first :: (commaSeparated parts ++ [last]), Visible c := by
  intro c member
  simp only [List.mem_cons, List.mem_append, List.not_mem_nil, or_false] at member
  rcases member with rfl | among | rfl
  · exact opens
  · exact commaSeparated_visible inside c among
  · exact closes

theorem print_visible {depth : Nat} {value : Json} (readable : Readable depth value) :
    ∀ c ∈ print value, Visible c := by
  induction readable with
  | null => exact visible_of_all (by decide)
  | bool value =>
    cases value with
    | false => exact visible_of_all (by decide)
    | true => exact visible_of_all (by decide)
  | integer fits => rw [print]; exact fun c => printInteger_visible
  | string text => rw [print]; exact fun c => printString_visible
  | array inside ih =>
    rw [print, printItems_eq_map]
    apply bracketed_visible (by decide) (by decide)
    intro part member
    obtain ⟨item, among, rfl⟩ := List.mem_map.mp member
    exact ih item among
  | object distinct inside ih =>
    rw [print, printMembers_eq_map]
    apply bracketed_visible (by decide) (by decide)
    intro part member
    obtain ⟨pair, among, rfl⟩ := List.mem_map.mp member
    intro c char
    simp only [printMember, List.mem_append, List.mem_cons] at char
    rcases char with key | rfl | rfl | value
    · exact printString_visible key
    · decide
    · decide
    · exact ih pair among c value

/-! Reading -/

def Begins (cs : List Char) : Prop :=
  ∃ c rest, cs = c :: rest ∧ isBlankChar c = false ∧ c ≠ ']' ∧ c ≠ '\x7d'

theorem begins_append {cs : List Char} (begins : Begins cs) (rest : List Char) :
    Begins (cs ++ rest) := by
  obtain ⟨c, others, rfl, char⟩ := begins
  exact ⟨c, others ++ rest, rfl, char⟩

theorem commaSeparated_begins {first : List Char} (begins : Begins first)
    (parts : List (List Char)) : Begins (commaSeparated (first :: parts)) := by
  cases parts with
  | nil => simpa [commaSeparated] using begins
  | cons second parts =>
    rw [commaSeparated_cons]
    exact begins_append begins _

theorem listed_begins {α : Type} {text : α → List Char} {values : List α} (some : values ≠ [])
    (begins : ∀ value ∈ values, Begins (text value)) (rest : List Char) :
    Begins (commaSeparated (values.map text) ++ rest) := by
  obtain ⟨first, others, rfl⟩ := List.exists_cons_of_ne_nil some
  have front := commaSeparated_begins (begins first List.mem_cons_self) (others.map text)
  rw [← List.map_cons] at front
  exact begins_append front rest

theorem startsNumber_cases {c : Char} (starts : startsNumber c = true) :
    isBlankChar c = false ∧ c ∉ ['n', 't', 'f', '"', '[', ']', '\x7b', '\x7d'] := by
  have others : ['n', 't', 'f', '"', '[', ']', '\x7b', '\x7d', ' ', '\t', '\n', '\r'].all
      (fun d => !startsNumber d) = true := by decide
  have absent : c ∉ ['n', 't', 'f', '"', '[', ']', '\x7b', '\x7d', ' ', '\t', '\n', '\r'] := by
    intro member
    have other := List.all_eq_true.mp others c member
    rw [starts] at other
    cases other
  simp only [List.mem_cons, not_or] at absent ⊢
  simp [isBlankChar, absent]

theorem printInteger_begins (n : Int) :
    ∃ c rest, printInteger n = c :: rest ∧ startsNumber c = true := by
  unfold printInteger
  split
  · exact ⟨'-', _, rfl, rfl⟩
  · obtain ⟨c, rest, shape, digit⟩ := toDigits_cons n.natAbs
    exact ⟨c, rest, shape, by simp [startsNumber, digit]⟩

theorem skipBlanks_cons {c : Char} (shown : isBlankChar c = false) (cs : List Char) :
    skipBlanks (c :: cs) = c :: cs :=
  List.dropWhile_cons_of_neg (by simp [shown])

theorem skipBlanks_blank (cs : List Char) : skipBlanks (' ' :: cs) = skipBlanks cs :=
  List.dropWhile_cons_of_pos rfl

section Listed

variable {α : Type} {bracket : Bracket} {item : List Char → Reading α}

theorem readListed_blank (blank : ∀ cs, item (' ' :: cs) = item cs) (budget : Nat)
    (cs : List Char) :
    readListed bracket item budget (' ' :: cs) = readListed bracket item budget cs := by
  cases budget with
  | zero => rfl
  | succ budget => rw [readListed, readListed, blank]

theorem listing_blank (blank : ∀ cs, item (' ' :: cs) = item cs) {cs rest : List Char}
    {values : List α} (listing : Listing bracket item cs values rest) :
    Listing bracket item (' ' :: cs) values rest := by
  cases listing with
  | last read closes => exact .last ((blank cs).trans read) closes
  | more read comma others => exact .more ((blank cs).trans read) comma others

theorem listing_commaSeparated (shown : isBlankChar bracket.close = false) {rest : List Char}
    (ends : EndsNumber (bracket.close :: rest)) (blank : ∀ cs, item (' ' :: cs) = item cs)
    {text : α → List Char} {values : List α} (some : values ≠ [])
    (reads : ∀ value ∈ values, ∀ rest, EndsNumber rest →
      item (text value ++ rest) = .ok (value, rest)) :
    Listing bracket item (commaSeparated (values.map text) ++ bracket.close :: rest) values
      rest := by
  induction values with
  | nil => exact absurd rfl some
  | cons first values ih =>
    cases values with
    | nil =>
      have read := reads first List.mem_cons_self (bracket.close :: rest) ends
      rw [List.map_singleton, commaSeparated, List.intercalate_singleton]
      exact .last read (skipBlanks_cons shown rest)
    | cons second values =>
      have later := ih (List.cons_ne_nil second values)
        (fun value member => reads value (List.mem_cons_of_mem first member))
      have comma (cs : List Char) : EndsNumber (',' :: cs) := endsNumber_cons (by decide)
      rw [List.map_cons, List.map_cons, commaSeparated_cons, List.append_assoc]
      exact .more (reads first List.mem_cons_self _ (comma _)) (skipBlanks_cons rfl _)
        (listing_blank blank later)

end Listed

theorem readValue_blank (depth : Nat) (cs : List Char) :
    readValue depth (' ' :: cs) = readValue depth cs := by
  rw [readValue, readValue, skipBlanks_blank]

theorem readItem_blank {item : List Char → Reading Json}
    (blank : ∀ cs, item (' ' :: cs) = item cs) (cs : List Char) :
    readItem item (' ' :: cs) = readItem item cs := by
  rw [readItem, readItem, skipBlanks_blank, blank]

theorem readItem_of_begins {cs : List Char} (begins : Begins cs)
    (item : List Char → Reading Json) : readItem item cs = item cs := by
  obtain ⟨c, rest, rfl, shown, notClose, _⟩ := begins
  rw [readItem, skipBlanks_cons shown]
  simp [notClose]

theorem readMember_blank (item : List Char → Reading Json) (cs : List Char) :
    readMember item (' ' :: cs) = readMember item cs := by
  rw [readMember, readMember, skipBlanks_blank]

theorem readMember_printed {item : List Char → Reading Json}
    (blank : ∀ cs, item (' ' :: cs) = item cs) (member : String × Json) (rest : List Char) :
    readMember item (printMember member ++ rest) =
      (item (print member.2 ++ rest)).map fun (value, cs) => ((member.1, value), cs) := by
  obtain ⟨cs, shape, key⟩ :=
    readString_printString member.1 (':' :: ' ' :: (print member.2 ++ rest))
  have whole : printMember member ++ rest = '"' :: cs := by
    rw [← shape, printMember, List.append_assoc]
    rfl
  have mark : isBlankChar '"' = false := rfl
  have colon : isBlankChar ':' = false := rfl
  rw [whole]
  simp [readMember, skipBlanks_cons mark, skipBlanks_cons colon, key, blank]

theorem readMember_printMember {item : List Char → Reading Json}
    (blank : ∀ cs, item (' ' :: cs) = item cs) (member : String × Json) {rest : List Char}
    (read : item (print member.2 ++ rest) = .ok (member.2, rest)) :
    readMember item (printMember member ++ rest) = .ok (member, rest) := by
  rw [readMember_printed blank, read]
  rfl

theorem print_begins {depth : Nat} {value : Json} (readable : Readable depth value) :
    Begins (print value) := by
  cases readable with
  | null => rw [print]; exact ⟨'n', _, rfl, by decide⟩
  | bool value =>
    cases value with
    | false => rw [print]; exact ⟨'f', _, rfl, by decide⟩
    | true => rw [print]; exact ⟨'t', _, rfl, by decide⟩
  | @integer _ n fits =>
    rw [print]
    obtain ⟨c, rest, shape, starts⟩ := printInteger_begins n
    obtain ⟨shown, among⟩ := startsNumber_cases starts
    exact ⟨c, rest, shape, shown, by rintro rfl; simp at among, by rintro rfl; simp at among⟩
  | string text => rw [print]; exact ⟨'"', _, rfl, by decide⟩
  | array inside => rw [print]; exact ⟨'[', _, rfl, by decide⟩
  | object distinct inside => rw [print]; exact ⟨'\x7b', _, rfl, by decide⟩

theorem printMember_begins (member : String × Json) : Begins (printMember member) :=
  ⟨'"', _, rfl, by decide⟩

theorem readValue_scalar {c : Char} (shown : isBlankChar c = false) (array : c ≠ '[')
    (object : c ≠ '\x7b') (depth : Nat) (cs : List Char) :
    readValue depth (c :: cs) = readScalar c cs := by
  rw [readValue, skipBlanks_cons shown]
  simp only [if_neg array, if_neg object]

theorem readScalar_number {c : Char} (starts : startsNumber c = true) (cs : List Char) :
    readScalar c cs = readNumber (c :: cs) := by
  have among := (startsNumber_cases starts).2
  simp only [List.mem_cons, not_or] at among
  simp only [readScalar, among, starts, if_true, if_false]

theorem readValue_array (depth : Nat) (cs : List Char) :
    readValue (depth + 1) ('[' :: cs) = readArray (readValue depth) cs := by
  rw [readValue]
  rfl

theorem readValue_object (depth : Nat) (cs : List Char) :
    readValue (depth + 1) ('\x7b' :: cs) = readObject (readValue depth) cs := by
  rw [readValue]
  rfl

theorem readArray_of_begins {cs : List Char} (begins : Begins cs)
    (item : List Char → Reading Json) : readArray item cs =
      (readListed listBracket (readItem item) (cs.length + 1) cs).map fun (items, cs) =>
        (.array items, cs) := by
  obtain ⟨c, rest, rfl, shown, notClose, _⟩ := begins
  rw [readArray, skipBlanks_cons shown]
  simp [notClose]

theorem readObject_of_begins {cs : List Char} (begins : Begins cs)
    (item : List Char → Reading Json) : readObject item cs =
      (readListed objectBracket (readMember item) (cs.length + 1) cs).map fun (members, cs) =>
        (.object (Table.ofPairs members), cs) := by
  obtain ⟨c, rest, rfl, shown, _, notClose⟩ := begins
  rw [readObject, skipBlanks_cons shown]
  simp [notClose]

theorem length_le_listed {α : Type} (text : α → List Char) (values : List α) (rest : List Char) :
    values.length ≤ (commaSeparated (values.map text) ++ rest).length + 1 := by
  have parts := length_le_commaSeparated (values.map text)
  rw [List.length_map] at parts
  rw [List.length_append]
  omega

theorem readArray_printed {item : List Char → Reading Json}
    (blank : ∀ cs, item (' ' :: cs) = item cs) {items : List Json}
    (begins : ∀ value ∈ items, Begins (print value))
    (reads : ∀ value ∈ items, ∀ rest, EndsNumber rest →
      item (print value ++ rest) = .ok (value, rest)) (rest : List Char) :
    readArray item (commaSeparated (items.map print) ++ ']' :: rest) =
      .ok (.array items, rest) := by
  cases items with
  | nil => rfl
  | cons first items =>
    have starts := listed_begins (List.cons_ne_nil first items) begins (']' :: rest)
    have ends : EndsNumber (']' :: rest) := endsNumber_cons (by decide)
    have enough := length_le_listed print (first :: items) (']' :: rest)
    have itemReads : ∀ value ∈ first :: items, ∀ rest, EndsNumber rest →
        readItem item (print value ++ rest) = .ok (value, rest) := by
      intro value member rest ends
      rw [readItem_of_begins (begins_append (begins value member) rest)]
      exact reads value member rest ends
    have listing : Listing listBracket (readItem item)
        (commaSeparated ((first :: items).map print) ++ ']' :: rest) (first :: items) rest :=
      listing_commaSeparated rfl ends (readItem_blank blank) (List.cons_ne_nil first items)
        itemReads
    rw [readArray_of_begins starts, readListed_of_listing (by decide) listing enough]
    rfl

theorem readObject_printed {item : List Char → Reading Json}
    (blank : ∀ cs, item (' ' :: cs) = item cs) {members : List (String × Json)}
    (distinct : (Table.names members).Nodup)
    (reads : ∀ member ∈ members, ∀ rest, EndsNumber rest →
      item (print member.2 ++ rest) = .ok (member.2, rest)) (rest : List Char) :
    readObject item (commaSeparated (members.map printMember) ++ '\x7d' :: rest) =
      .ok (.object members, rest) := by
  cases members with
  | nil => rfl
  | cons first members =>
    have starts := listed_begins (List.cons_ne_nil first members)
      (fun member _ => printMember_begins member) ('\x7d' :: rest)
    have ends : EndsNumber ('\x7d' :: rest) := endsNumber_cons (by decide)
    have enough := length_le_listed printMember (first :: members) ('\x7d' :: rest)
    have listing : Listing objectBracket (readMember item)
        (commaSeparated ((first :: members).map printMember) ++ '\x7d' :: rest)
        (first :: members) rest :=
      listing_commaSeparated rfl ends (readMember_blank item) (List.cons_ne_nil first members)
        (fun member among rest ends => readMember_printMember blank member
          (reads member among rest ends))
    rw [readObject_of_begins starts, readListed_of_listing (by decide) listing enough]
    simp only [Except.map, Table.ofPairs_of_nodup distinct]

theorem readValue_print {depth : Nat} {value : Json} (readable : Readable depth value) :
    ∀ {rest : List Char}, EndsNumber rest →
      readValue depth (print value ++ rest) = .ok (value, rest) := by
  induction readable with
  | null =>
    intro rest _
    rw [print, List.cons_append, readValue_scalar rfl (by decide) (by decide)]
    simp [readScalar, readWord, Except.map]
  | bool value =>
    intro rest _
    cases value
    · rw [print, List.cons_append, readValue_scalar rfl (by decide) (by decide)]
      simp [readScalar, readWord, Except.map]
    · rw [print, List.cons_append, readValue_scalar rfl (by decide) (by decide)]
      simp [readScalar, readWord, Except.map]
  | @integer _ n fits =>
    intro rest ends
    obtain ⟨c, digits, shape, starts⟩ := printInteger_begins n
    obtain ⟨shown, among⟩ := startsNumber_cases starts
    simp only [List.mem_cons, not_or] at among
    have read := readNumber_printInteger fits ends
    rw [shape, List.cons_append] at read
    rw [print, shape, List.cons_append,
      readValue_scalar shown among.2.2.2.2.1 among.2.2.2.2.2.2.1, readScalar_number starts, read]
  | string text =>
    intro rest _
    obtain ⟨cs, shape, read⟩ := readString_printString text rest
    rw [print, shape, readValue_scalar rfl (by decide) (by decide)]
    simp [readScalar, read, Except.map]
  | @array depth items inside ih =>
    intro rest _
    rw [print, printItems_eq_map, List.cons_append, List.append_assoc, List.singleton_append,
      readValue_array]
    exact readArray_printed (readValue_blank depth)
      (fun value member => print_begins (inside value member))
      (fun value member rest => ih value member) rest
  | @object depth members distinct inside ih =>
    intro rest _
    rw [print, printMembers_eq_map, List.cons_append, List.append_assoc, List.singleton_append,
      readValue_object]
    exact readObject_printed (readValue_blank depth) distinct
      (fun member among rest => ih member among) rest

/-- A printed value is read back as it was. -/
theorem read_render {value : Json} (readable : Readable depthLimit value) :
    read value.render = .ok value := by
  have back := readValue_print readable endsNumber_nil
  rw [List.append_nil] at back
  rw [read, render, String.toList_ofList, back]
  rfl

end JobMatrix.Json
