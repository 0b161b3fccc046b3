import JobMatrix.Json.Number
import JobMatrix.Json.Printer

/-!
Integers in JSON text. What is printed has no needless zero in front, so reading it gives the
integer back, unless the text goes on as a longer number would.
-/
namespace JobMatrix.Json

def EndsNumber (cs : List Char) : Prop :=
  ∀ c ∈ cs.head?, c.isDigit = false ∧ c ≠ '.' ∧ c ≠ 'e' ∧ c ≠ 'E'

theorem endsNumber_nil : EndsNumber [] := by
  intro c member
  cases member

theorem endsNumber_cons {c : Char} {cs : List Char}
    (ends : c.isDigit = false ∧ c ≠ '.' ∧ c ≠ 'e' ∧ c ≠ 'E') : EndsNumber (c :: cs) := by
  intro d member
  cases member
  exact ends

theorem digit_of_mem_toDigits {n : Nat} {c : Char} (member : c ∈ Nat.toDigits 10 n) :
    c.isDigit = true :=
  Nat.isDigit_of_mem_toDigits (by decide) (by decide) member

theorem digitsValue_toDigits (n : Nat) : digitsValue (Nat.toDigits 10 n) = n := by
  have value : Nat.ofDigitChars 10 (Nat.toDigits 10 n) 0 = n := Nat.ofDigitChars_ten_toDigits
  simp only [digitsValue, digitValue]
  simpa only [Nat.ofDigitChars, Nat.mul_comm 10] using value

theorem toDigits_cons (n : Nat) :
    ∃ c cs, Nat.toDigits 10 n = c :: cs ∧ c.isDigit = true := by
  cases digits : Nat.toDigits 10 n with
  | nil => exact absurd digits Nat.toDigits_ne_nil
  | cons c cs => exact ⟨c, cs, rfl, digit_of_mem_toDigits (by rw [digits]; simp)⟩

theorem head?_toDigits_ne_zero {n : Nat} (positive : 0 < n) :
    (Nat.toDigits 10 n).head? ≠ some '0' := by
  induction n using Nat.strongRecOn with
  | ind n ih =>
    by_cases small : n < 10
    · rw [Nat.toDigits_of_lt_base small]
      have nonzero : ∀ k, k < 10 → 0 < k → k.digitChar ≠ '0' := by decide
      simpa using nonzero n small positive
    · have front := ih (n / 10) (by omega) (by omega)
      obtain ⟨c, cs, digits, _⟩ := toDigits_cons (n / 10)
      rw [Nat.toDigits_of_base_le (by decide) (Nat.not_lt.mp small), digits]
      rwa [digits] at front

theorem readDigits_append {digits rest : List Char} (some : digits ≠ [])
    (all : ∀ c ∈ digits, c.isDigit = true) (ends : EndsNumber rest) :
    readDigits (digits ++ rest) = .ok (digits, rest) := by
  have taken : rest.takeWhile Char.isDigit = [] ∧ rest.dropWhile Char.isDigit = rest := by
    cases rest with
    | nil => exact ⟨rfl, rfl⟩
    | cons c rest =>
      have noDigit := (ends c rfl).1
      exact ⟨List.takeWhile_cons_of_neg (by simp [noDigit]),
        List.dropWhile_cons_of_neg (by simp [noDigit])⟩
  cases digits with
  | nil => exact absurd rfl some
  | cons c digits =>
    have digit := all c List.mem_cons_self
    rw [List.cons_append, readDigits, if_pos digit, ← List.cons_append,
      List.takeWhile_append_of_pos all, List.dropWhile_append_of_pos all, taken.1, taken.2,
      List.append_nil]

theorem readWhole_toDigits (n : Nat) {rest : List Char} (ends : EndsNumber rest) :
    readWhole (Nat.toDigits 10 n ++ rest) = .ok (Nat.toDigits 10 n, rest) := by
  have all : ∀ c ∈ Nat.toDigits 10 n, c.isDigit = true := fun c => digit_of_mem_toDigits
  have digits := readDigits_append Nat.toDigits_ne_nil all ends
  rw [readWhole, digits]
  split
  · rename_i second others left whole
    have shape : Nat.toDigits 10 n = '0' :: second :: others :=
      (Prod.mk.inj (Except.ok.inj whole)).1
    rcases Nat.eq_zero_or_pos n with rfl | positive
    · cases shape
    · exact absurd (by rw [shape]; rfl) (head?_toDigits_ne_zero positive)
  · rfl

theorem readFraction_ends {rest : List Char} (ends : EndsNumber rest) :
    readFraction rest = .ok (none, rest) := by
  cases rest with
  | nil => rfl
  | cons c rest =>
    have noPoint := (ends c rfl).2.1
    rw [readFraction]
    simp [noPoint]

theorem readExponent_ends {rest : List Char} (ends : EndsNumber rest) :
    readExponent rest = .ok (none, rest) := by
  cases rest with
  | nil => rfl
  | cons c rest =>
    have noMark := (ends c rfl).2.2
    rw [readExponent]
    · simp [noMark.1]
    · simp [noMark.2]

theorem readMagnitude_toDigits {negative : Bool} {n : Nat} {rest : List Char}
    (ends : EndsNumber rest) {signed : Int} (value : signed = if negative then -(n : Int) else n)
    (fits : IsIntegral signed) (signless : ¬(negative = true ∧ n = 0)) :
    readMagnitude negative (Nat.toDigits 10 n ++ rest) = .ok (.integer signed, rest) := by
  have number : numberOf negative (Nat.toDigits 10 n) none none rest = .ok (.integer signed) := by
    simp only [numberOf, digitsValue_toDigits, ← value]
    rw [if_pos ⟨rfl, rfl, fits, signless⟩]
  simp only [readMagnitude, readWhole_toDigits n ends, readFraction_ends ends,
    readExponent_ends ends, number, bind, Except.bind, pure, Except.pure]

theorem readNumber_printInteger {n : Int} (fits : IsIntegral n) {rest : List Char}
    (ends : EndsNumber rest) : readNumber (printInteger n ++ rest) = .ok (.integer n, rest) := by
  unfold printInteger
  split
  · rename_i negative
    rw [List.cons_append, readNumber]
    have value : n = if true = true then -(n.natAbs : Int) else n.natAbs := by
      rw [if_pos rfl]
      omega
    have signless : ¬(true = true ∧ n.natAbs = 0) := fun zero => by
      have := zero.2
      omega
    exact readMagnitude_toDigits ends value fits signless
  · rename_i positive
    rw [readNumber]
    · have value : n = if false = true then -(n.natAbs : Int) else n.natAbs := by
        rw [if_neg Bool.false_ne_true]
        omega
      exact readMagnitude_toDigits ends value fits fun minus => Bool.false_ne_true minus.1
    · intro cs minus
      obtain ⟨c, digits, shape, digit⟩ := toDigits_cons n.natAbs
      rw [shape] at minus
      rw [(List.cons.inj minus).1] at digit
      cases digit

end JobMatrix.Json
