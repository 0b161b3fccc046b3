/-!
Finite binary floating-point numbers with 53 significant bits, kept as exact integers. Every
operation gives the number nearest to the exact result, a tie going to the even significand. A
decimal is made by operations, so it need not be the number nearest to what was written.
-/
namespace JobMatrix

/-- The number `significand * 2 ^ exponent`, with a sign that zero has too. -/
structure Binary64 where
  negative : Bool
  significand : Nat
  exponent : Int
  deriving DecidableEq

namespace Binary64

def twoTo (n : Nat) : Nat := Nat.pow 2 n
def tenTo (n : Nat) : Nat := Nat.pow 10 n

def leastExponent : Int := -1074
def greatestExponent : Int := 971

def isZero (x : Binary64) : Bool := x.significand == 0

def zero (negative : Bool) : Binary64 := ⟨negative, 0, leastExponent⟩

/-- A fraction, numerator first, divided by a power of two. -/
def scaled (num den : Nat) (exponent : Int) : Nat × Nat :=
  if 0 ≤ exponent then (num, den * twoTo exponent.toNat) else (num * twoTo (-exponent).toNat, den)

def roundHalfEven (num den : Nat) : Nat :=
  let down := num / den
  let rest := 2 * (num % den)
  if rest < den ∨ (rest = den ∧ down % 2 = 0) then down else down + 1

/-- The exponent that leaves 53 bits before the point, or the least one. The first guess is at
most one too large. -/
def exponentOf (num den : Nat) : Int :=
  let guess : Int := (Nat.log2 num : Int) - (Nat.log2 den : Int) - 52
  let (n, d) := scaled num den guess
  let exponent := if twoTo 52 ≤ n / d then guess else guess - 1
  if exponent < leastExponent then leastExponent else exponent

def ofFraction? (negative : Bool) (num den : Nat) : Option Binary64 :=
  if num = 0 then some (zero negative)
  else
    let exponent := exponentOf num den
    let (n, d) := scaled num den exponent
    let significand := roundHalfEven n d
    let x : Binary64 :=
      if significand = twoTo 53 then ⟨negative, twoTo 52, exponent + 1⟩
      else ⟨negative, significand, exponent⟩
    if x.exponent ≤ greatestExponent then some x else none

def ratio (x : Binary64) : Nat × Nat := scaled x.significand 1 (-x.exponent)

/-! Magnitudes: the signs of the operands are left aside. -/

def times? (x y : Binary64) : Option Binary64 :=
  ofFraction? false (x.ratio.1 * y.ratio.1) (x.ratio.2 * y.ratio.2)

def over? (x y : Binary64) : Option Binary64 :=
  ofFraction? false (x.ratio.1 * y.ratio.2) (x.ratio.2 * y.ratio.1)

def greatestPower : Nat := 308

def powerOfTen? (power : Nat) : Option Binary64 :=
  if power ≤ greatestPower then ofFraction? false (tenTo power) 1 else none

def overGreatest? (x : Binary64) : Nat → Option Binary64
  | 0 => some x
  | times + 1 =>
    if x.isZero then some x
    else do
      let x ← x.over? (← powerOfTen? greatestPower)
      x.overGreatest? times

/-- Multiplies or divides by a power of ten. A power that is too large to multiply by leaves zero
alone, one that is too large to divide by is taken in parts. -/
def timesPower? (x : Binary64) (power : Int) : Option Binary64 := do
  if 0 ≤ power then
    if x.isZero then some x else x.times? (← powerOfTen? power.toNat)
  else
    let places := (-power).toNat
    let steps := (places - 1) / greatestPower
    let x ← x.overGreatest? steps
    x.over? (← powerOfTen? (places - steps * greatestPower))

/-- What is read for `significand * 10 ^ power`. The significand is rounded before the power is
applied, and what comes of that is rounded again. -/
def ofDecimal? (negative : Bool) (significand : Nat) (power : Int) : Option Binary64 := do
  let x ← ofFraction? false significand 1
  let x ← x.timesPower? power
  return { x with negative }

end Binary64
end JobMatrix
