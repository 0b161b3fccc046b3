import JobMatrix.Text.Hex
import Mathlib.Algebra.Group.Nat.Defs

/-!
Hexadecimal numerals read back: the digits that `hexDigits` writes are digits, and they stand for
the number they were made from, taken modulo the width. Eight of them are enough for any character.
-/
namespace JobMatrix.Text

theorem not_surrogate (c : Char) : c.toNat < 0xD800 ∨ 0xDFFF < c.toNat ∧ c.toNat < 0x110000 :=
  c.valid

theorem toNat_small (c : Char) : c.toNat < 0x110000 := by
  have range := not_surrogate c
  omega

def hexNumber? (digits : List Char) : Option Nat :=
  digits.foldlM (fun n c => (hexValue? c).map (n * 16 + ·)) 0

theorem hexValue?_digitChar : ∀ n, n < 16 → hexValue? n.digitChar = some n := by decide

theorem length_hexDigits (width n : Nat) : (hexDigits width n).length = width := by
  induction width generalizing n with
  | zero => rfl
  | succ width ih => simp [hexDigits, ih]

theorem mem_hexDigits {width n : Nat} {c : Char} (member : c ∈ hexDigits width n) :
    ∃ digit, digit < 16 ∧ c = digit.digitChar := by
  induction width generalizing n with
  | zero => simp [hexDigits] at member
  | succ width ih =>
    simp only [hexDigits, List.mem_append, List.mem_singleton] at member
    rcases member with high | low
    · exact ih high
    · exact ⟨n % 16, Nat.mod_lt n (by decide), low⟩

theorem hexDigits_within {width n : Nat} {c : Char} (member : c ∈ hexDigits width n) :
    '0' ≤ c ∧ c ≤ 'f' := by
  obtain ⟨digit, small, rfl⟩ := mem_hexDigits member
  have all : ∀ n, n < 16 → '0' ≤ n.digitChar ∧ n.digitChar ≤ 'f' := by decide
  exact all digit small

theorem hexNumber?_hexDigits (width n : Nat) :
    hexNumber? (hexDigits width n) = some (n % 16 ^ width) := by
  induction width generalizing n with
  | zero => simp [hexDigits, hexNumber?, Nat.mod_one]
  | succ width ih =>
    have last := hexValue?_digitChar (n % 16) (Nat.mod_lt n (by decide))
    have shifted : n / 16 % 16 ^ width * 16 + n % 16 = n % 16 ^ (width + 1) := by
      rw [Nat.pow_succ, Nat.mul_comm (16 ^ width) 16, Nat.mod_mul]
      omega
    unfold hexNumber? at ih ⊢
    simp [hexDigits, List.foldlM_append, ih, last, shifted]

theorem hexQuad?_hexDigits {n : Nat} (small : n < 0x10000) :
    ∃ a b c d, hexDigits 4 n = [a, b, c, d] ∧ hexQuad? a b c d = some n := by
  refine ⟨_, _, _, _, rfl, ?_⟩
  have digit (k : Nat) : hexValue? (k % 16).digitChar = some (k % 16) :=
    hexValue?_digitChar (k % 16) (Nat.mod_lt k (by decide))
  simp only [hexQuad?, digit, Option.bind_eq_bind, Option.bind_some, Option.pure_def]
  congr 1
  omega

end JobMatrix.Text
