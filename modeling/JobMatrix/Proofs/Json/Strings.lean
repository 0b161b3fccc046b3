import JobMatrix.Json.Reader
import JobMatrix.Proofs.Json.Printed
import JobMatrix.Proofs.Text.Hex

/-!
Strings in JSON text. What is printed is printable ASCII, and reading it gives the string back,
whatever characters it holds: each character is read as itself, from its short escape, from the
escape of its code, or from the two escapes of its surrogates.
-/
namespace JobMatrix.Json

def Visible (c : Char) : Prop := ' ' ≤ c ∧ c ≤ '~'

instance (c : Char) : Decidable (Visible c) := inferInstanceAs (Decidable (_ ∧ _))

theorem visible_of_all {cs : List Char} (all : cs.all (fun c => decide (Visible c)) = true) :
    ∀ c ∈ cs, Visible c :=
  fun c member => of_decide_eq_true (List.all_eq_true.mp all c member)

theorem escapeUnit_visible {unit : Nat} {c : Char} (member : c ∈ escapeUnit unit) :
    Visible c := by
  simp only [escapeUnit, List.mem_cons] at member
  rcases member with rfl | rfl | digit
  · decide
  · decide
  · obtain ⟨low, high⟩ := Text.hexDigits_within digit
    exact ⟨Char.le_trans (by decide) low, Char.le_trans high (by decide)⟩

/-- A character has a short escape, is written as it is, or is escaped with its code units. -/
theorem printChar_cases (c : Char) :
    (∃ letter, printChar c = ['\\', letter] ∧ Visible letter ∧ shortEscape? letter = some c) ∨
    (printChar c = [c] ∧ Visible c ∧ c ≠ '"' ∧ c ≠ '\\') ∨
    printChar c = (codeUnits c).flatMap escapeUnit := by
  unfold printChar
  split
  · subst c; exact .inl ⟨'"', rfl, by decide, rfl⟩
  split
  · subst c; exact .inl ⟨'\\', rfl, by decide, rfl⟩
  split
  · subst c; exact .inl ⟨'b', rfl, by decide, rfl⟩
  split
  · subst c; exact .inl ⟨'f', rfl, by decide, rfl⟩
  split
  · subst c; exact .inl ⟨'n', rfl, by decide, rfl⟩
  split
  · subst c; exact .inl ⟨'r', rfl, by decide, rfl⟩
  split
  · subst c; exact .inl ⟨'t', rfl, by decide, rfl⟩
  split
  · rename_i mark backslash _ _ _ _ _ visible
    exact .inr (.inl ⟨rfl, visible, mark, backslash⟩)
  · exact .inr (.inr rfl)

theorem printChar_visible {c x : Char} (member : x ∈ printChar c) : Visible x := by
  rcases printChar_cases c with ⟨letter, shape, visible, _⟩ | ⟨shape, visible, _⟩ | shape
  · rw [shape, List.mem_cons, List.mem_singleton] at member
    rcases member with rfl | rfl
    · decide
    · exact visible
  · rw [shape, List.mem_singleton] at member
    exact member ▸ visible
  · rw [shape] at member
    obtain ⟨unit, _, inside⟩ := List.mem_flatMap.mp member
    exact escapeUnit_visible inside

theorem printString_visible {text : String} {x : Char} (member : x ∈ printString text) :
    Visible x := by
  simp only [printString, List.mem_cons, List.mem_append, List.mem_flatMap, List.not_mem_nil,
    or_false] at member
  rcases member with rfl | ⟨c, _, inside⟩ | rfl
  · decide
  · exact printChar_visible inside
  · decide

/-! Reading -/

theorem readText_plain {c : Char} (mark : c ≠ '"') (backslash : c ≠ '\\') (shown : ¬c < ' ')
    (rest : List Char) : readText (c :: rest) = consChar c (readText rest) := by
  rw [readText]
  · rw [if_neg shown]
  all_goals simp [mark, backslash]

theorem readText_short {c meant : Char} (known : shortEscape? c = some meant)
    (rest : List Char) : readText ('\\' :: c :: rest) = consChar meant (readText rest) := by
  have notCode : c ≠ 'u' := by
    rintro rfl
    cases known
  rw [readText]
  · rw [known]
  all_goals simp [notCode]

theorem readText_unit {a b c d : Char} {unit : Nat} (digits : Text.hexQuad? a b c d = some unit)
    (notTrailing : isTrailing unit = false) (notLeading : isLeading unit = false)
    (rest : List Char) :
    readText ('\\' :: 'u' :: a :: b :: c :: d :: rest) =
      consChar (Char.ofNat unit) (readText rest) := by
  rw [readText]
  simp [digits, notTrailing, notLeading]

theorem readText_pair {a b c d e f g h : Char} {unit second : Nat}
    (digits : Text.hexQuad? a b c d = some unit) (others : Text.hexQuad? e f g h = some second)
    (leading : isLeading unit = true) (trailing : isTrailing second = true) (rest : List Char) :
    readText ('\\' :: 'u' :: a :: b :: c :: d :: '\\' :: 'u' :: e :: f :: g :: h :: rest) =
      consChar (joinPair unit second) (readText rest) := by
  have notTrailing : isTrailing unit = false := by
    simp only [isLeading, Bool.and_eq_true, decide_eq_true_eq] at leading
    simp only [isTrailing, Bool.and_eq_false_iff, decide_eq_false_iff_not]
    omega
  rw [readText]
  simp [digits, others, notTrailing, leading, trailing]

theorem readText_codeUnits (c : Char) (rest : List Char) :
    readText ((codeUnits c).flatMap escapeUnit ++ rest) = consChar c (readText rest) := by
  have range := Text.not_surrogate c
  unfold codeUnits
  split
  · rename_i small
    obtain ⟨x, y, z, w, digits, value⟩ := Text.hexQuad?_hexDigits small
    have notTrailing : isTrailing c.toNat = false := by
      simp only [isTrailing, Bool.and_eq_false_iff, decide_eq_false_iff_not]
      omega
    have notLeading : isLeading c.toNat = false := by
      simp only [isLeading, Bool.and_eq_false_iff, decide_eq_false_iff_not]
      omega
    have read := readText_unit value notTrailing notLeading rest
    rw [Char.ofNat_toNat] at read
    simpa [escapeUnit, digits] using read
  · rename_i large
    obtain ⟨x, y, z, w, digits, value⟩ :=
      Text.hexQuad?_hexDigits (n := 0xD800 + (c.toNat - 0x10000) / 0x400) (by omega)
    obtain ⟨x', y', z', w', others, second⟩ :=
      Text.hexQuad?_hexDigits (n := 0xDC00 + (c.toNat - 0x10000) % 0x400) (by omega)
    have leading : isLeading (0xD800 + (c.toNat - 0x10000) / 0x400) = true := by
      simp only [isLeading, Bool.and_eq_true, decide_eq_true_eq]
      omega
    have trailing : isTrailing (0xDC00 + (c.toNat - 0x10000) % 0x400) = true := by
      simp only [isTrailing, Bool.and_eq_true, decide_eq_true_eq]
      omega
    have joined : joinPair (0xD800 + (c.toNat - 0x10000) / 0x400)
        (0xDC00 + (c.toNat - 0x10000) % 0x400) = c := by
      have code : 0x10000 + (0xD800 + (c.toNat - 0x10000) / 0x400 - 0xD800) * 0x400 +
          (0xDC00 + (c.toNat - 0x10000) % 0x400 - 0xDC00) = c.toNat := by omega
      rw [joinPair, code, Char.ofNat_toNat]
    have read := readText_pair value second leading trailing rest
    rw [joined] at read
    simpa [escapeUnit, digits, others] using read

theorem readText_printChar (c : Char) (rest : List Char) :
    readText (printChar c ++ rest) = consChar c (readText rest) := by
  rcases printChar_cases c with
    ⟨letter, shape, _, meant⟩ | ⟨shape, visible, mark, backslash⟩ | shape
  · rw [shape]
    exact readText_short meant rest
  · rw [shape]
    exact readText_plain mark backslash (Char.not_lt.mpr visible.1) rest
  · rw [shape]
    exact readText_codeUnits c rest

theorem readText_printed (cs rest : List Char) :
    readText (cs.flatMap printChar ++ '"' :: rest) = .ok (cs, rest) := by
  induction cs with
  | nil => rw [List.flatMap_nil, List.nil_append, readText]
  | cons c cs ih =>
    rw [List.flatMap_cons, List.append_assoc, readText_printChar, ih]
    rfl

theorem readString_printString (text : String) (rest : List Char) :
    ∃ cs, printString text ++ rest = '"' :: cs ∧ readString cs = .ok (text, rest) := by
  refine ⟨text.toList.flatMap printChar ++ '"' :: rest, by simp [printString], ?_⟩
  rw [readString, readText_printed]
  simp [Except.map]

end JobMatrix.Json
