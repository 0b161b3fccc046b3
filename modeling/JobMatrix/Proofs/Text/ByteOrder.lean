import JobMatrix.NameSet
import JobMatrix.Proofs.Text.Hex

/-!
Texts compare as their bytes do: a later character has later bytes in UTF-8, whatever follows it.
-/
namespace JobMatrix.Text

def bytes (text : String) : List UInt8 := text.toUTF8.data.toList

theorem bytes_eq_flatMap (text : String) :
    bytes text = text.toList.flatMap String.utf8EncodeChar := by
  have encoded : text.toUTF8 = text.toList.utf8Encode := String.utf8Encode_toList.symm
  rw [bytes, encoded, List.utf8Encode, List.toList_data_toByteArray]

theorem ofNat_cons_lt {m n : Nat} {rest others : List UInt8} (byte : n < 256)
    (first : m < n ∨ m = n ∧ rest < others) : UInt8.ofNat m :: rest < UInt8.ofNat n :: others := by
  rcases first with below | ⟨rfl, later⟩
  · apply List.cons_lt_cons_iff.mpr
    left
    rw [UInt8.lt_iff_toNat_lt, UInt8.toNat_ofNat', UInt8.toNat_ofNat', Nat.mod_eq_of_lt byte,
      Nat.mod_eq_of_lt (Nat.lt_trans below byte)]
    exact below
  · exact List.cons_lt_cons_iff.mpr (.inr ⟨rfl, later⟩)

section Lengths

/-! Characters whose encodings have one length: two, three or four bytes -/

variable {m n : Nat} (lower : m < n) (rest others : List UInt8)
include lower

theorem twoBytes_lt (small : n ≤ 0x7ff) :
    UInt8.ofNat (m / 64 % 32 + 0xc0) :: UInt8.ofNat (m % 64 + 0x80) :: rest <
      UInt8.ofNat (n / 64 % 32 + 0xc0) :: UInt8.ofNat (n % 64 + 0x80) :: others := by
  have bits : m / 64 < n / 64 ∨ m / 64 = n / 64 ∧ m % 64 < n % 64 := by omega
  rcases bits with first | ⟨same, second⟩
  · exact ofNat_cons_lt (by omega) (.inl (by omega))
  · refine ofNat_cons_lt (by omega) (.inr ⟨by rw [same], ?_⟩)
    exact ofNat_cons_lt (by omega) (.inl (by omega))

theorem threeBytes_lt (small : n ≤ 0xffff) :
    UInt8.ofNat (m / 4096 % 16 + 0xe0) :: UInt8.ofNat (m / 64 % 64 + 0x80) ::
        UInt8.ofNat (m % 64 + 0x80) :: rest <
      UInt8.ofNat (n / 4096 % 16 + 0xe0) :: UInt8.ofNat (n / 64 % 64 + 0x80) ::
        UInt8.ofNat (n % 64 + 0x80) :: others := by
  have bits : m / 4096 < n / 4096 ∨ m / 4096 = n / 4096 ∧
      (m / 64 % 64 < n / 64 % 64 ∨ m / 64 % 64 = n / 64 % 64 ∧ m % 64 < n % 64) := by omega
  rcases bits with first | ⟨same, second | ⟨next, third⟩⟩
  · exact ofNat_cons_lt (by omega) (.inl (by omega))
  · refine ofNat_cons_lt (by omega) (.inr ⟨by rw [same], ?_⟩)
    exact ofNat_cons_lt (by omega) (.inl (by omega))
  · refine ofNat_cons_lt (by omega) (.inr ⟨by rw [same], ?_⟩)
    refine ofNat_cons_lt (by omega) (.inr ⟨by rw [next], ?_⟩)
    exact ofNat_cons_lt (by omega) (.inl (by omega))

theorem fourBytes_lt (small : n < 0x110000) :
    UInt8.ofNat (m / 262144 % 8 + 0xf0) :: UInt8.ofNat (m / 4096 % 64 + 0x80) ::
        UInt8.ofNat (m / 64 % 64 + 0x80) :: UInt8.ofNat (m % 64 + 0x80) :: rest <
      UInt8.ofNat (n / 262144 % 8 + 0xf0) :: UInt8.ofNat (n / 4096 % 64 + 0x80) ::
        UInt8.ofNat (n / 64 % 64 + 0x80) :: UInt8.ofNat (n % 64 + 0x80) :: others := by
  have bits : m / 262144 < n / 262144 ∨ m / 262144 = n / 262144 ∧
      (m / 4096 % 64 < n / 4096 % 64 ∨ m / 4096 % 64 = n / 4096 % 64 ∧
        (m / 64 % 64 < n / 64 % 64 ∨ m / 64 % 64 = n / 64 % 64 ∧ m % 64 < n % 64)) := by omega
  rcases bits with first | ⟨same, second | ⟨next, third | ⟨last, fourth⟩⟩⟩
  · exact ofNat_cons_lt (by omega) (.inl (by omega))
  · refine ofNat_cons_lt (by omega) (.inr ⟨by rw [same], ?_⟩)
    exact ofNat_cons_lt (by omega) (.inl (by omega))
  · refine ofNat_cons_lt (by omega) (.inr ⟨by rw [same], ?_⟩)
    refine ofNat_cons_lt (by omega) (.inr ⟨by rw [next], ?_⟩)
    exact ofNat_cons_lt (by omega) (.inl (by omega))
  · refine ofNat_cons_lt (by omega) (.inr ⟨by rw [same], ?_⟩)
    refine ofNat_cons_lt (by omega) (.inr ⟨by rw [next], ?_⟩)
    refine ofNat_cons_lt (by omega) (.inr ⟨by rw [last], ?_⟩)
    exact ofNat_cons_lt (by omega) (.inl (by omega))

end Lengths

theorem utf8EncodeChar_append_lt {c d : Char} (below : c < d) (rest others : List UInt8) :
    String.utf8EncodeChar c ++ rest < String.utf8EncodeChar d ++ others := by
  have lower : c.val.toNat < d.val.toNat := below
  have bound : d.val.toNat < 0x110000 := toNat_small d
  unfold String.utf8EncodeChar
  dsimp only
  generalize c.val.toNat = m at lower ⊢
  generalize d.val.toNat = n at lower bound ⊢
  -- The first byte grows with the length, so it decides wherever the lengths differ.
  by_cases one : m ≤ 0x7f
  · rw [if_pos one]
    split
    · exact ofNat_cons_lt (by omega) (.inl lower)
    · split
      · exact ofNat_cons_lt (by omega) (.inl (by omega))
      · split
        · exact ofNat_cons_lt (by omega) (.inl (by omega))
        · exact ofNat_cons_lt (by omega) (.inl (by omega))
  have one' : ¬n ≤ 0x7f := by omega
  rw [if_neg one, if_neg one']
  by_cases two : m ≤ 0x7ff
  · rw [if_pos two]
    split
    · rename_i two'
      exact twoBytes_lt lower rest others two'
    · split
      · exact ofNat_cons_lt (by omega) (.inl (by omega))
      · exact ofNat_cons_lt (by omega) (.inl (by omega))
  have two' : ¬n ≤ 0x7ff := by omega
  rw [if_neg two, if_neg two']
  by_cases three : m ≤ 0xffff
  · rw [if_pos three]
    split
    · rename_i three'
      exact threeBytes_lt lower rest others three'
    · exact ofNat_cons_lt (by omega) (.inl (by omega))
  have three' : ¬n ≤ 0xffff := by omega
  rw [if_neg three, if_neg three']
  exact fourBytes_lt lower rest others bound

theorem flatMap_utf8EncodeChar_lt {a b : List Char} (below : a < b) :
    a.flatMap String.utf8EncodeChar < b.flatMap String.utf8EncodeChar := by
  induction below with
  | @nil c rest =>
    rw [List.flatMap_nil, List.flatMap_cons]
    cases encoded : String.utf8EncodeChar c with
    | nil => exact absurd encoded String.utf8EncodeChar_ne_nil
    | cons byte bytes => exact List.nil_lt_cons byte _
  | rel below =>
    rw [List.flatMap_cons, List.flatMap_cons]
    exact utf8EncodeChar_append_lt below _ _
  | cons later ih =>
    rw [List.flatMap_cons, List.flatMap_cons]
    exact List.append_left_lt ih

theorem bytes_lt_of_lt {a b : String} (below : a < b) : bytes a < bytes b := by
  rw [bytes_eq_flatMap, bytes_eq_flatMap]
  exact flatMap_utf8EncodeChar_lt below

theorem bytes_lt_iff {a b : String} : bytes a < bytes b ↔ a < b := by
  constructor
  · intro below
    by_cases before : a < b
    · exact before
    · by_cases after : b < a
      · exact absurd below (List.lt_asymm (bytes_lt_of_lt after))
      · rw [NameSet.eq_of_not_lt before after] at below
        exact absurd below (List.lt_irrefl (bytes b))
  · exact bytes_lt_of_lt

end JobMatrix.Text
