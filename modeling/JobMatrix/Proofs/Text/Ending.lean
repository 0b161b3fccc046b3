import JobMatrix.Proofs.Text.Unquoted
import Mathlib.Data.List.Chain

/-!
Texts told from their ends. A quoted text at the end of a longer one begins at its last mark that
has no backslash before it, so what stands in front of it can be cut off without knowing it. The
same then holds of lists of quoted texts, and of any list whose items and separators can be cut off.
-/
namespace JobMatrix.Text

/-- Every mark has a backslash before it; the character in front of the text is not looked at. -/
def Guarded (mark : Char) (cs : List Char) : Prop :=
  ∀ x, List.IsChain (fun before c => c = mark → before = '\\') (x :: cs)

theorem guarded_append_of_not_mem {mark : Char} {token cs : List Char} (absent : mark ∉ token)
    (guarded : Guarded mark cs) : Guarded mark (token ++ cs) := by
  induction token with
  | nil => exact guarded
  | cons c token ih =>
    have differs := List.ne_of_not_mem_cons absent
    have later := List.not_mem_of_not_mem_cons absent
    intro x
    exact List.isChain_cons_cons.mpr ⟨fun same => absurd same.symm differs, ih later c⟩

theorem mark_not_mem_hexDigits {mark : Char} (isMark : mark = '\'' ∨ mark = '"')
    (width n : Nat) : mark ∉ hexDigits width n := by
  intro member
  have low := (hexDigits_within member).1
  rcases isMark with rfl | rfl
  · exact absurd low (by decide)
  · exact absurd low (by decide)

theorem mark_not_mem_escapeCode {mark : Char} (isMark : mark = '\'' ∨ mark = '"') (code : Nat) :
    mark ∉ escapeCode code := by
  have digits := mark_not_mem_hexDigits isMark
  have letters : mark ∉ ['\\', 'x', 'u', 'U'] := by rcases isMark with rfl | rfl <;> decide
  rw [List.mem_cons, not_or] at letters
  obtain ⟨width, letter, known, shape⟩ := escapeCode_shape code
  have differs : mark ≠ letter := by
    rintro rfl
    exact letters.2 known
  simp [shape, letters.1, differs, digits]

/-- A mark inside quoted text is escaped, and only its escape holds it. -/
theorem quoteChar_mark {mark : Char} (isMark : mark = '\'' ∨ mark = '"') (c : Char) :
    quoteChar mark c = ['\\', mark] ∨ mark ∉ quoteChar mark c := by
  have distinct := backslash_ne_mark isMark
  rcases quoteChar_cases isMark c with ⟨letter, shape, _⟩ | ⟨shape, _, other⟩ | shape
  · rw [shape]
    by_cases same : letter = mark
    · exact .inl (by rw [same])
    · exact .inr (by simp [distinct.symm, Ne.symm same])
  · rw [shape]
    exact .inr (by simpa using Ne.symm other)
  · rw [shape]
    exact .inr (mark_not_mem_escapeCode isMark c.toNat)

theorem guarded_quoted {mark : Char} (isMark : mark = '\'' ∨ mark = '"') (cs : List Char) :
    Guarded mark (cs.flatMap (quoteChar mark)) := by
  induction cs with
  | nil => exact fun x => List.isChain_singleton x
  | cons c cs ih =>
    rw [List.flatMap_cons]
    rcases quoteChar_mark isMark c with escaped | absent
    · have distinct := backslash_ne_mark isMark
      intro x
      rw [escaped]
      exact List.isChain_cons_cons.mpr ⟨fun same => absurd same distinct,
        List.isChain_cons_cons.mpr ⟨fun _ => rfl, ih mark⟩⟩
    · exact guarded_append_of_not_mem absent ih

theorem backslash_of_guarded {mark d : Char} {front back : List Char}
    (guarded : Guarded mark (front ++ d :: mark :: back)) : d = '\\' := by
  have chain := guarded 'x'
  rw [← List.cons_append, List.isChain_append_cons_cons] at chain
  exact chain.2.1 rfl

def Introduces (c : Char) : Prop := c ≠ '\\' ∧ c ≠ '\'' ∧ c ≠ '"'

instance (c : Char) : Decidable (Introduces c) := inferInstanceAs (Decidable (_ ∧ _))

theorem quoteChars_not_within {front : List Char} {d : Char} {a b : List Char}
    (before : Introduces d) : quoteChars a ≠ front ++ d :: quoteChars b := by
  intro same
  have marks := quoteMark_cases a
  cases front with
  | nil =>
    have head : quoteMark a = d := (List.cons.inj same).1
    rcases marks with mark | mark
    · exact before.2.1 (head.symm.trans mark)
    · exact before.2.2 (head.symm.trans mark)
  | cons first front =>
    -- The later opening mark would stand inside the earlier text with no backslash before it.
    have rest : a.flatMap (quoteChar (quoteMark a)) ++ [quoteMark a] =
        (front ++ d :: quoteMark b :: b.flatMap (quoteChar (quoteMark b))) ++ [quoteMark b] := by
      rw [List.append_assoc]
      exact (List.cons.inj same).2
    obtain ⟨bodies, last⟩ := List.append_inj' rest rfl
    have guarded := guarded_quoted marks a
    rw [bodies, ← (List.cons.inj last).1] at guarded
    exact before.1 (backslash_of_guarded guarded)

theorem quoteChars_ending {u v : List Char} {c d : Char} {a b : List Char}
    (leftBefore : Introduces c) (rightBefore : Introduces d)
    (same : u ++ c :: quoteChars a = v ++ d :: quoteChars b) : u = v ∧ c = d ∧ a = b := by
  rcases List.append_eq_append_iff.mp same with ⟨front, whole, texts⟩ | ⟨front, whole, texts⟩
  · cases front with
    | nil =>
      obtain ⟨chars, quoted⟩ := List.cons.inj texts
      exact ⟨by simpa using whole.symm, chars, quoteChars_injective quoted⟩
    | cons first front =>
      exact absurd (List.cons.inj texts).2 (quoteChars_not_within rightBefore)
  · cases front with
    | nil =>
      obtain ⟨chars, quoted⟩ := List.cons.inj texts
      exact ⟨by simpa using whole, chars.symm, quoteChars_injective quoted.symm⟩
    | cons first front =>
      exact absurd (List.cons.inj texts).2 (quoteChars_not_within leftBefore)

/-! Lists -/

theorem last_eq_of_append_eq {u v a b : List Char} {c d : Char} (left : a.getLast? = some c)
    (right : b.getLast? = some d) (same : u ++ a = v ++ b) : c = d := by
  have last := congrArg List.getLast? same
  rw [List.getLast?_append, List.getLast?_append, left, right] at last
  exact Option.some.inj last

/-- What stands before an item of a list: its opening, or all up to a separator. -/
def Opened (opening separator u : List Char) : Prop := opening <:+ u ∨ separator <:+ u

/-- Items that can be cut off the end of a list written with this opening and separator. -/
structure Cuttable {α : Type} (opening separator : List Char) (text : α → List Char) : Prop where
  item {u v : List Char} {a b : α} :
    Opened opening separator u → Opened opening separator v → u ++ text a = v ++ text b →
    u = v ∧ a = b
  opening_ne {u v : List Char} : u ++ opening ≠ v ++ separator
  first {u v : List Char} {a : α} : u ++ opening ≠ v ++ text a

theorem intercalate_concat (separator : List Char) {texts : List (List Char)} (some : texts ≠ [])
    (last : List Char) : List.intercalate separator (texts ++ [last]) =
      List.intercalate separator texts ++ separator ++ last := by
  induction texts with
  | nil => exact absurd rfl some
  | cons first rest ih =>
    cases rest with
    | nil => simp [List.intercalate_cons_cons]
    | cons second rest =>
      have tail := ih (List.cons_ne_nil second rest)
      simp only [List.cons_append, List.intercalate_cons_cons, List.append_assoc] at tail ⊢
      rw [tail]

def upTo (opening separator : List Char) (texts : List (List Char)) : List Char :=
  if texts = [] then opening
  else opening ++ List.intercalate separator texts ++ separator

theorem upTo_opened (opening separator : List Char) (texts : List (List Char))
    (u : List Char) : Opened opening separator (u ++ upTo opening separator texts) := by
  unfold upTo
  split
  · exact .inl (List.suffix_append u opening)
  · rw [← List.append_assoc]
    exact .inr (List.suffix_append _ separator)

theorem listed_concat (opening separator : List Char) (texts : List (List Char))
    (last : List Char) : opening ++ List.intercalate separator (texts ++ [last]) =
      upTo opening separator texts ++ last := by
  unfold upTo
  split
  · subst texts
    simp
  · rename_i some
    simp only [intercalate_concat separator some, List.append_assoc]

section Cuttable

variable {α : Type} {opening separator : List Char} {text : α → List Char}

theorem opening_not_listed (cut : Cuttable opening separator text) {u v : List Char}
    {items : List α} (some : items ≠ []) :
    u ++ opening ≠ v ++ (opening ++ List.intercalate separator (items.map text)) := by
  rcases List.eq_nil_or_concat' items with none | ⟨others, last, rfl⟩
  · exact absurd none some
  · rw [List.map_append, List.map_singleton, listed_concat, ← List.append_assoc]
    exact cut.first

theorem upTo_ending (cut : Cuttable opening separator text) {u v : List Char}
    {items others : List α}
    (same : u ++ upTo opening separator (items.map text) =
      v ++ upTo opening separator (others.map text)) :
    u ++ (opening ++ List.intercalate separator (items.map text)) =
      v ++ (opening ++ List.intercalate separator (others.map text)) := by
  simp only [upTo, List.map_eq_nil_iff] at same
  split at same
  · subst items
    split at same
    · subst others
      simpa using same
    · rw [← List.append_assoc v] at same
      exact absurd same cut.opening_ne
  · split at same
    · rw [← List.append_assoc u] at same
      exact absurd same.symm cut.opening_ne
    · rw [← List.append_assoc u, ← List.append_assoc v] at same
      exact List.append_cancel_right same

/-- A list of such items can be cut off the end as a whole. -/
theorem listed_ending (cut : Cuttable opening separator text) {u v : List Char}
    {items others : List α}
    (same : u ++ (opening ++ List.intercalate separator (items.map text)) =
      v ++ (opening ++ List.intercalate separator (others.map text))) :
    u = v ∧ items = others := by
  -- Items are taken off both lists from the end until one of the openings shows.
  induction items using List.reverseRecOn generalizing others with
  | nil =>
    rcases List.eq_nil_or_concat' others with rfl | ⟨rest, last, rfl⟩
    · exact ⟨List.append_cancel_right same, rfl⟩
    · rw [List.map_nil, List.intercalate_nil, List.append_nil] at same
      exact absurd same (opening_not_listed cut (by simp))
  | append_singleton items a ih =>
    rcases List.eq_nil_or_concat' others with rfl | ⟨rest, b, rfl⟩
    · rw [List.map_nil, List.intercalate_nil, List.append_nil] at same
      exact absurd same.symm (opening_not_listed cut (by simp))
    · simp only [List.map_append, List.map_singleton, listed_concat] at same
      rw [← List.append_assoc, ← List.append_assoc] at same
      obtain ⟨fronts, rfl⟩ := cut.item (upTo_opened ..) (upTo_opened ..) same
      obtain ⟨rfl, rfl⟩ := ih (upTo_ending cut fronts)
      exact ⟨rfl, rfl⟩

end Cuttable

theorem opened_introduces {u : List Char} (opened : Opened ['['] [',', ' '] u) :
    ∃ w c, Introduces c ∧ u = w ++ [c] := by
  rcases opened with ⟨w, rfl⟩ | ⟨w, rfl⟩
  · exact ⟨w, '[', by decide, rfl⟩
  · exact ⟨w ++ [','], ' ', by decide, by simp⟩

theorem quoteChars_getLast? (cs : List Char) :
    (quoteChars cs).getLast? = some (quoteMark cs) := by
  rw [quoteChars, ← List.cons_append, List.getLast?_concat]

theorem quoted_cuttable : Cuttable ['['] [',', ' '] quoteChars where
  item := by
    intro u v a b left right same
    obtain ⟨w, c, before, rfl⟩ := opened_introduces left
    obtain ⟨x, d, beforeRight, rfl⟩ := opened_introduces right
    rw [List.append_assoc, List.append_assoc] at same
    obtain ⟨rfl, rfl, rfl⟩ := quoteChars_ending before beforeRight same
    exact ⟨rfl, rfl⟩
  opening_ne := by
    intro u v same
    have bracket : '[' = ' ' := last_eq_of_append_eq rfl rfl same
    exact absurd bracket (by decide)
  first := by
    intro u v a same
    have bracket : '[' = quoteMark a := last_eq_of_append_eq rfl (quoteChars_getLast? a) same
    rcases quoteMark_cases a with mark | mark
    · exact absurd (bracket.trans mark) (by decide)
    · exact absurd (bracket.trans mark) (by decide)

theorem quoteListChars_ending {u v : List Char} {items others : List (List Char)}
    (same : u ++ quoteListChars items = v ++ quoteListChars others) : u = v ∧ items = others := by
  have shape (items : List (List Char)) : quoteListChars items =
      (['['] ++ List.intercalate [',', ' '] (items.map quoteChars)) ++ [']'] := rfl
  rw [shape, shape, ← List.append_assoc u, ← List.append_assoc v] at same
  exact listed_ending quoted_cuttable (List.append_cancel_right same)

end JobMatrix.Text
