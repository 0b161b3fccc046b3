import JobMatrix.Decimal.Layout
import JobMatrix.Json.Value
import JobMatrix.Text.Hex

/-!
Numbers and escapes as JSON text has them. Any character has an escape by its code units, of which
one beyond the first plane has two.
-/
namespace JobMatrix.Json

def realLayout : Decimal.Layout := ⟨-5, 15⟩

def codeUnits (c : Char) : List Nat :=
  if c.toNat < 0x10000 then [c.toNat]
  else [0xD800 + (c.toNat - 0x10000) / 0x400, 0xDC00 + (c.toNat - 0x10000) % 0x400]

def escapeUnit (unit : Nat) : List Char := '\\' :: 'u' :: Text.hexDigits 4 unit

def printInteger (n : Int) : List Char :=
  if n < 0 then '-' :: Nat.toDigits 10 n.natAbs else Nat.toDigits 10 n.natAbs

def integerText (n : Int) : String := String.ofList (printInteger n)

theorem integerText_eq (n : Int) : integerText n = toString n := by
  apply String.toList_injective
  rw [integerText, String.toList_ofList, printInteger]
  cases n with
  | ofNat m =>
    have natural : ¬Int.ofNat m < 0 := Int.not_lt.mpr (Int.natCast_nonneg m)
    rw [if_neg natural]
    exact Nat.toList_repr.symm
  | negSucc m =>
    rw [if_pos (Int.negSucc_lt_zero m)]
    change _ = ("-" ++ Nat.repr (m + 1)).toList
    rw [String.toList_append, Nat.toList_repr]
    rfl

def realText (x : Binary64) : String := realLayout.write x

end JobMatrix.Json
