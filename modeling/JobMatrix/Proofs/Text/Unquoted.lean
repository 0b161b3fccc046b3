import JobMatrix.Proofs.Text.Hex
import JobMatrix.Text.Quoted

/-!
Quoted text read back. The reader knows every escape of the quoted form and stops at the closing
mark, so what follows a quoted text is never taken for a part of it.
-/
namespace JobMatrix.Text

/-- Escapes of one letter. Either mark may be escaped, whichever of them encloses the text. -/
def plainEscape? (c : Char) : Option Char :=
  if c = '\\' ∨ c = '\'' ∨ c = '"' then some c
  else if c = 'n' then some '\n'
  else if c = 'r' then some '\r'
  else if c = 't' then some '\t'
  else none

def escapeWidth? (c : Char) : Option Nat :=
  if c = 'x' then some 2
  else if c = 'u' then some 4
  else if c = 'U' then some 8
  else none

def charOf? (code : Nat) : Option Char :=
  if h : code.isValidChar then some (Char.ofNatAux code h) else none

def readCode (width : Nat) (cs : List Char) : Option (Char × List Char) :=
  if cs.length < width then none
  else ((hexNumber? (cs.take width)).bind charOf?).map fun meant => (meant, cs.drop width)

def readEscape : List Char → Option (Char × List Char)
  | [] => none
  | c :: rest =>
    match plainEscape? c, escapeWidth? c with
    | some meant, _ => some (meant, rest)
    | none, some width => readCode width rest
    | none, none => none

theorem readCode_length_le {width : Nat} {cs after : List Char} {meant : Char}
    (read : readCode width cs = some (meant, after)) : after.length ≤ cs.length := by
  unfold readCode at read
  split at read
  · cases read
  · obtain ⟨c, _, pair⟩ := Option.map_eq_some_iff.mp read
    cases pair
    rw [List.length_drop]
    omega

theorem readEscape_shorter {cs after : List Char} {meant : Char}
    (read : readEscape cs = some (meant, after)) : after.length < cs.length := by
  cases cs with
  | nil => cases read
  | cons c rest =>
    simp only [readEscape] at read
    rw [List.length_cons]
    split at read
    · cases read
      omega
    · have := readCode_length_le read
      omega
    · cases read

def readMarked (mark : Char) : List Char → Option (List Char × List Char)
  | [] => none
  | c :: rest =>
    if c = mark then some ([], rest)
    else if c = '\\' then
      match found : readEscape rest with
      | none => none
      | some (meant, after) =>
        have := readEscape_shorter found
        (readMarked mark after).map fun (text, rest) => (meant :: text, rest)
    else (readMarked mark rest).map fun (text, rest) => (c :: text, rest)
termination_by cs => cs.length
decreasing_by all_goals simp only [List.length_cons]; omega

def unquote : List Char → Option (List Char × List Char)
  | [] => none
  | mark :: rest => if mark = '\'' ∨ mark = '"' then readMarked mark rest else none

theorem quoteMark_cases (cs : List Char) : quoteMark cs = '\'' ∨ quoteMark cs = '"' := by
  unfold quoteMark
  split
  · exact .inr rfl
  · exact .inl rfl

theorem backslash_ne_mark {mark : Char} (isMark : mark = '\'' ∨ mark = '"') : '\\' ≠ mark := by
  rcases isMark with rfl | rfl
  · decide
  · decide

/-- A character is escaped with a letter, written as it is, or escaped with its code. -/
theorem quoteChar_cases {mark : Char} (isMark : mark = '\'' ∨ mark = '"') (c : Char) :
    (∃ letter, quoteChar mark c = ['\\', letter] ∧ plainEscape? letter = some c) ∨
    (quoteChar mark c = [c] ∧ c ≠ '\\' ∧ c ≠ mark) ∨
    quoteChar mark c = escapeCode c.toNat := by
  unfold quoteChar
  split
  · subst c; exact .inl ⟨'\\', rfl, rfl⟩
  split
  · subst c; exact .inl ⟨'n', rfl, rfl⟩
  split
  · subst c; exact .inl ⟨'r', rfl, rfl⟩
  split
  · subst c; exact .inl ⟨'t', rfl, rfl⟩
  split
  · subst c
    refine .inl ⟨mark, rfl, ?_⟩
    rcases isMark with rfl | rfl
    · rfl
    · rfl
  split
  · rename_i backslash _ _ _ other _
    exact .inr (.inl ⟨rfl, backslash, other⟩)
  · exact .inr (.inr rfl)

theorem escapeCode_shape (code : Nat) : ∃ width, ∃ letter ∈ ['x', 'u', 'U'],
    escapeCode code = '\\' :: letter :: hexDigits width code := by
  unfold escapeCode
  split
  · exact ⟨2, 'x', by decide, rfl⟩
  · split
    · exact ⟨4, 'u', by decide, rfl⟩
    · exact ⟨8, 'U', by decide, rfl⟩

theorem charOf?_toNat (c : Char) : charOf? c.toNat = some c := by
  have valid : c.toNat.isValidChar := c.valid
  rw [charOf?, dif_pos valid]
  rfl

theorem readCode_hexDigits {width : Nat} {c : Char} (fits : c.toNat < 16 ^ width)
    (rest : List Char) : readCode width (hexDigits width c.toNat ++ rest) = some (c, rest) := by
  have size := length_hexDigits width c.toNat
  have enough : ¬(hexDigits width c.toNat ++ rest).length < width := by
    rw [List.length_append, size]
    omega
  rw [readCode, if_neg enough, List.take_left' size, List.drop_left' size, hexNumber?_hexDigits,
    Nat.mod_eq_of_lt fits, Option.bind_some, charOf?_toNat, Option.map_some]

theorem readMarked_escape {mark c : Char} (distinct : '\\' ≠ mark) {cs rest : List Char}
    (read : readEscape cs = some (c, rest)) :
    readMarked mark ('\\' :: cs) = (readMarked mark rest).map fun (text, rest) =>
      (c :: text, rest) := by
  rw [readMarked, if_neg distinct, if_pos rfl]
  split
  · rename_i missing
    rw [missing] at read
    cases read
  · rename_i meant after found
    obtain ⟨rfl, rfl⟩ := Prod.mk.inj (Option.some.inj (found.symm.trans read))
    rfl

theorem readMarked_escapeCode {mark : Char} (distinct : '\\' ≠ mark) (c : Char)
    (rest : List Char) :
    readMarked mark (escapeCode c.toNat ++ rest) = (readMarked mark rest).map fun (text, rest) =>
      (c :: text, rest) := by
  have small := toNat_small c
  unfold escapeCode
  split
  · exact readMarked_escape distinct (readCode_hexDigits (by omega) rest)
  · split
    · exact readMarked_escape distinct (readCode_hexDigits (by omega) rest)
    · exact readMarked_escape distinct (readCode_hexDigits (by omega) rest)

theorem readMarked_quoteChar {mark : Char} (isMark : mark = '\'' ∨ mark = '"') (c : Char)
    (rest : List Char) :
    readMarked mark (quoteChar mark c ++ rest) = (readMarked mark rest).map fun (text, rest) =>
      (c :: text, rest) := by
  have distinct := backslash_ne_mark isMark
  rcases quoteChar_cases isMark c with ⟨letter, shape, meant⟩ | ⟨shape, backslash, other⟩ | shape
  · rw [shape]
    have read : readEscape (letter :: rest) = some (c, rest) := by simp only [readEscape, meant]
    exact readMarked_escape distinct read
  · rw [shape, List.singleton_append, readMarked, if_neg other, if_neg backslash]
  · rw [shape]
    exact readMarked_escapeCode distinct c rest

theorem readMarked_quoted {mark : Char} (isMark : mark = '\'' ∨ mark = '"')
    (cs rest : List Char) :
    readMarked mark (cs.flatMap (quoteChar mark) ++ mark :: rest) = some (cs, rest) := by
  induction cs with
  | nil => rw [List.flatMap_nil, List.nil_append, readMarked, if_pos rfl]
  | cons c cs ih =>
    rw [List.flatMap_cons, List.append_assoc, readMarked_quoteChar isMark, ih]
    rfl

theorem unquote_quoteChars (cs rest : List Char) :
    unquote (quoteChars cs ++ rest) = some (cs, rest) := by
  have isMark := quoteMark_cases cs
  simp only [quoteChars, List.cons_append, List.append_assoc, unquote, if_pos isMark,
    List.nil_append, readMarked_quoted isMark]

theorem quoteChars_injective {a b : List Char} (same : quoteChars a = quoteChars b) : a = b := by
  have left := unquote_quoteChars a []
  rw [same, unquote_quoteChars b []] at left
  simpa using left.symm

end JobMatrix.Text
