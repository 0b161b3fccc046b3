import JobMatrix.Proofs.Text.Unquoted

/-!
Quoted texts and lists of them as literals. A list is read item by item up to its closing bracket,
so what follows a list is never taken for a part of it, and nothing that is quoted leaves a
character unprintable.
-/
namespace JobMatrix.Text

theorem rest_of_cons {c : Char} {reading : Option (List Char × List Char)}
    {text after : List Char}
    (read : (reading.map fun (text, rest) => (c :: text, rest)) = some (text, after)) :
    ∃ others, reading = some (others, after) := by
  obtain ⟨⟨others, _⟩, found, pair⟩ := Option.map_eq_some_iff.mp read
  cases pair
  exact ⟨others, found⟩

theorem readMarked_shorter {mark : Char} {cs text after : List Char}
    (read : readMarked mark cs = some (text, after)) : after.length < cs.length := by
  fun_induction readMarked mark cs generalizing text with
  | case1 => cases read
  | case2 rest =>
    cases read
    exact Nat.lt_succ_self _
  | case3 rest _ missing => cases read
  | case4 rest _ meant left found shorter ih =>
    obtain ⟨_, later⟩ := rest_of_cons read
    have := ih later
    rw [List.length_cons]
    omega
  | case5 c rest _ _ ih =>
    obtain ⟨_, later⟩ := rest_of_cons read
    have := ih later
    rw [List.length_cons]
    omega

theorem unquote_shorter {cs text after : List Char} (read : unquote cs = some (text, after)) :
    after.length < cs.length := by
  cases cs with
  | nil => cases read
  | cons mark rest =>
    rw [unquote] at read
    split at read
    · exact Nat.lt_succ_of_lt (readMarked_shorter read)
    · cases read

def unquoteItems (cs : List Char) : Option (List (List Char) × List Char) :=
  match found : unquote cs with
  | some (text, ']' :: rest) => some ([text], rest)
  | some (text, ',' :: ' ' :: rest) =>
    have := unquote_shorter found
    (unquoteItems rest).map fun (texts, rest) => (text :: texts, rest)
  | _ => none
termination_by cs.length
decreasing_by simp only [List.length_cons] at this; omega

def unquoteList : List Char → Option (List (List Char) × List Char)
  | '[' :: ']' :: rest => some ([], rest)
  | '[' :: rest => unquoteItems rest
  | _ => none

theorem unquoteItems_last {cs text rest : List Char}
    (read : unquote cs = some (text, ']' :: rest)) : unquoteItems cs = some ([text], rest) := by
  rw [unquoteItems]
  split
  · rename_i found
    rw [read] at found
    cases found
    rfl
  · rename_i found
    rw [read] at found
    cases found
  · rename_i other _
    exact absurd read (other text rest)

theorem unquoteItems_more {cs text rest : List Char}
    (read : unquote cs = some (text, ',' :: ' ' :: rest)) :
    unquoteItems cs = (unquoteItems rest).map fun (texts, rest) => (text :: texts, rest) := by
  rw [unquoteItems]
  split
  · rename_i found
    rw [read] at found
    cases found
  · rename_i found
    rw [read] at found
    cases found
    rfl
  · rename_i _ other
    exact absurd read (other text rest)

theorem unquoteItems_quoted (first : List Char) (items : List (List Char)) (rest : List Char) :
    unquoteItems (List.intercalate [',', ' '] ((first :: items).map quoteChars) ++ ']' :: rest) =
      some (first :: items, rest) := by
  induction items generalizing first with
  | nil =>
    rw [List.map_singleton, List.intercalate_singleton]
    exact unquoteItems_last (unquote_quoteChars first (']' :: rest))
  | cons second items ih =>
    rw [List.map_cons, List.map_cons, List.intercalate_cons_cons, ← List.map_cons,
      List.append_assoc, List.append_assoc, List.cons_append, List.cons_append, List.nil_append,
      unquoteItems_more (unquote_quoteChars first _), ih]
    rfl

theorem unquoteList_quoteListChars (items : List (List Char)) (rest : List Char) :
    unquoteList (quoteListChars items ++ rest) = some (items, rest) := by
  rw [quoteListChars, List.cons_append, List.append_assoc, List.singleton_append]
  cases items with
  | nil => rfl
  | cons first items =>
    -- The first item begins with its mark, so the bracket of an empty list is not met.
    have marked : ∃ cs, List.intercalate [',', ' '] ((first :: items).map quoteChars) ++
        ']' :: rest = quoteMark first :: cs := by
      cases items with
      | nil => exact ⟨_, rfl⟩
      | cons second items => exact ⟨_, rfl⟩
    have read := unquoteItems_quoted first items rest
    obtain ⟨cs, shape⟩ := marked
    rw [shape] at read ⊢
    rcases quoteMark_cases first with mark | mark
    · rw [mark] at read ⊢
      exact read
    · rw [mark] at read ⊢
      exact read

/-! What is shown -/

theorem widelyPrintable_of_ascii {c : Char} (ascii : ' ' ≤ c ∧ c ≤ '~') :
    isWidelyPrintable c = true := by
  have all : ∀ code, code < 127 → 32 ≤ code →
      (!unprintable.has code && !recentlyAssigned.has code) = true := by decide +kernel
  have low : 32 ≤ c.toNat := ascii.1
  have high : c.toNat ≤ 126 := ascii.2
  exact all c.toNat (by omega) low

theorem mark_printable {mark : Char} (isMark : mark = '\'' ∨ mark = '"') :
    isWidelyPrintable mark = true := by
  rcases isMark with rfl | rfl
  · exact widelyPrintable_of_ascii (by decide)
  · exact widelyPrintable_of_ascii (by decide)

theorem escapeCode_printable {code : Nat} {x : Char} (member : x ∈ escapeCode code) :
    isWidelyPrintable x = true := by
  obtain ⟨width, letter, known, shape⟩ := escapeCode_shape code
  apply widelyPrintable_of_ascii
  rw [shape, List.mem_cons, List.mem_cons] at member
  rcases member with rfl | rfl | digit
  · decide
  · simp only [List.mem_cons, List.not_mem_nil, or_false] at known
    rcases known with rfl | rfl | rfl <;> decide
  · obtain ⟨low, high⟩ := hexDigits_within digit
    exact ⟨Char.le_trans (by decide) low, Char.le_trans high (by decide)⟩

theorem quoteChar_printable {mark : Char} (isMark : mark = '\'' ∨ mark = '"') {c x : Char}
    (member : x ∈ quoteChar mark c) : isWidelyPrintable x = true := by
  have escaped {letter : Char} (shown : isWidelyPrintable letter = true)
      (member : x ∈ ['\\', letter]) : isWidelyPrintable x = true := by
    rw [List.mem_cons, List.mem_singleton] at member
    rcases member with rfl | rfl
    · exact widelyPrintable_of_ascii (by decide)
    · exact shown
  unfold quoteChar at member
  split at member
  · exact escaped (widelyPrintable_of_ascii (by decide)) member
  split at member
  · exact escaped (widelyPrintable_of_ascii (by decide)) member
  split at member
  · exact escaped (widelyPrintable_of_ascii (by decide)) member
  split at member
  · exact escaped (widelyPrintable_of_ascii (by decide)) member
  split at member
  · exact escaped (mark_printable isMark) member
  split at member
  · rename_i shown
    rwa [List.mem_singleton.mp member]
  · exact escapeCode_printable member

theorem quoteChars_printable {cs : List Char} {x : Char} (member : x ∈ quoteChars cs) :
    isWidelyPrintable x = true := by
  have isMark := quoteMark_cases cs
  simp only [quoteChars, List.mem_cons, List.mem_append, List.mem_flatMap, List.not_mem_nil,
    or_false] at member
  rcases member with rfl | ⟨c, _, inside⟩ | rfl
  · exact mark_printable isMark
  · exact quoteChar_printable isMark inside
  · exact mark_printable isMark

theorem mem_intercalate {α : Type} {separator : List α} {lists : List (List α)} {x : α}
    (member : x ∈ List.intercalate separator lists) :
    x ∈ separator ∨ ∃ list ∈ lists, x ∈ list := by
  induction lists with
  | nil => cases member
  | cons first rest ih =>
    cases rest with
    | nil => exact .inr ⟨first, List.mem_singleton_self first, by simpa using member⟩
    | cons second rest =>
      rw [List.intercalate_cons_cons, List.mem_append, List.mem_append] at member
      rcases member with (inFirst | between) | later
      · exact .inr ⟨first, List.mem_cons_self, inFirst⟩
      · exact .inl between
      · rcases ih later with between | ⟨list, among, inside⟩
        · exact .inl between
        · exact .inr ⟨list, List.mem_cons_of_mem first among, inside⟩

theorem quoteListChars_printable {items : List (List Char)} {x : Char}
    (member : x ∈ quoteListChars items) : isWidelyPrintable x = true := by
  have punctuation : x ∈ ['[', ']', ',', ' '] → isWidelyPrintable x = true := by
    intro known
    apply widelyPrintable_of_ascii
    simp only [List.mem_cons, List.not_mem_nil, or_false] at known
    rcases known with rfl | rfl | rfl | rfl <;> decide
  simp only [quoteListChars, List.mem_cons, List.mem_append, List.not_mem_nil, or_false] at member
  rcases member with rfl | inside | rfl
  · exact punctuation (by decide)
  · rcases mem_intercalate inside with between | ⟨quoted, among, shown⟩
    · simp only [List.mem_cons, List.not_mem_nil, or_false] at between
      rcases between with rfl | rfl
      · exact punctuation (by decide)
      · exact punctuation (by decide)
    · obtain ⟨text, _, rfl⟩ := List.mem_map.mp among
      exact quoteChars_printable shown
  · exact punctuation (by decide)

/-! What is not shown -/

namespace CodeRanges

def covers : CodeRanges → Nat × Nat → Bool
  | [], _ => false
  | (first, last) :: rest, range => first ≤ range.1 && (range.2 ≤ last || covers rest range)

theorem has_of_covers {ranges : CodeRanges} {range : Nat × Nat} {code : Nat}
    (covered : ranges.covers range = true) (low : range.1 ≤ code) (high : code ≤ range.2) :
    ranges.has code = true := by
  induction ranges with
  | nil => cases covered
  | cons head rest ih =>
    simp only [covers, has, Bool.and_eq_true, Bool.or_eq_true, decide_eq_true_eq] at covered ⊢
    obtain ⟨first, inside⟩ := covered
    refine ⟨Nat.le_trans first low, ?_⟩
    rcases inside with last | later
    · exact .inl (Nat.le_trans high last)
    · exact .inr (ih later)

theorem exists_range_of_has {ranges : CodeRanges} {code : Nat} (has : ranges.has code = true) :
    ∃ range ∈ ranges, range.1 ≤ code ∧ code ≤ range.2 := by
  induction ranges with
  | nil => cases has
  | cons head rest ih =>
    simp only [CodeRanges.has, Bool.and_eq_true, Bool.or_eq_true, decide_eq_true_eq] at has
    obtain ⟨first, last | later⟩ := has
    · exact ⟨head, List.mem_cons_self, first, last⟩
    · obtain ⟨range, member, within⟩ := ih later
      exact ⟨range, List.mem_cons_of_mem head member, within⟩

theorem has_of_all_covers {few many : CodeRanges} {code : Nat}
    (covered : few.all many.covers = true) (has : few.has code = true) : many.has code = true := by
  obtain ⟨range, member, low, high⟩ := exists_range_of_has has
  exact has_of_covers (List.all_eq_true.mp covered range member) low high

end CodeRanges

/-- The general category Cc, in which are the line feed and most other line breaks. -/
def controls : CodeRanges := [(0x0, 0x1F), (0x7F, 0x9F)]

/-- The general category Cf. -/
def formats : CodeRanges :=
  [(0xAD, 0xAD), (0x600, 0x605), (0x61C, 0x61C), (0x6DD, 0x6DD), (0x70F, 0x70F),
   (0x890, 0x891), (0x8E2, 0x8E2), (0x180E, 0x180E), (0x200B, 0x200F), (0x202A, 0x202E),
   (0x2060, 0x2064), (0x2066, 0x206F), (0xFEFF, 0xFEFF), (0xFFF9, 0xFFFB), (0x110BD, 0x110BD),
   (0x110CD, 0x110CD), (0x13430, 0x1343F), (0x1BCA0, 0x1BCA3), (0x1D173, 0x1D17A),
   (0xE0001, 0xE0001), (0xE0020, 0xE007F)]

/-- The general categories Zs without the space, Zl and Zp. -/
def separators : CodeRanges :=
  [(0xA0, 0xA0), (0x1680, 0x1680), (0x2000, 0x200A), (0x2028, 0x2029), (0x202F, 0x202F),
   (0x205F, 0x205F), (0x3000, 0x3000)]

theorem not_has_of_widelyPrintable {c : Char} (shown : isWidelyPrintable c = true) :
    controls.has c.toNat = false ∧ formats.has c.toNat = false ∧
      separators.has c.toNat = false := by
  have printable : unprintable.has c.toNat = false := by
    rw [isWidelyPrintable, isPrintable, Bool.and_eq_true, Bool.not_eq_true'] at shown
    exact shown.1
  have absent {ranges : CodeRanges} (covered : ranges.all unprintable.covers = true) :
      ranges.has c.toNat = false := by
    cases within : ranges.has c.toNat with
    | false => rfl
    | true => rw [CodeRanges.has_of_all_covers covered within] at printable; cases printable
  exact ⟨absent (by decide +kernel), absent (by decide +kernel), absent (by decide +kernel)⟩

/-- A quoted text and a quoted list are split from whatever follows them and give back what was
quoted. All of their characters are printable, so none of them is a line break, a control, a format
character or a separator other than the space. -/
theorem quoted_read_back (text : String) (items : List String) (following : String) :
    unquote (quote text ++ following).toList = some (text.toList, following.toList) ∧
    unquoteList (quoteList items ++ following).toList =
      some (items.map String.toList, following.toList) ∧
    ∀ c ∈ (quote text).toList ++ (quoteList items).toList,
      isWidelyPrintable c = true ∧ controls.has c.toNat = false ∧ formats.has c.toNat = false ∧
        separators.has c.toNat = false := by
  refine ⟨?_, ?_, ?_⟩
  · rw [String.toList_append, quote, String.toList_ofList, unquote_quoteChars]
  · rw [String.toList_append, quoteList, String.toList_ofList, unquoteList_quoteListChars]
  · intro c member
    have shown : isWidelyPrintable c = true := by
      rw [quote, quoteList, String.toList_ofList, String.toList_ofList, List.mem_append] at member
      rcases member with inText | inList
      · exact quoteChars_printable inText
      · exact quoteListChars_printable inList
    exact ⟨shown, not_has_of_widelyPrintable shown⟩

end JobMatrix.Text
