import JobMatrix.Decimal.Binary64

/-!
The fewest decimal digits that read back as a given binary number, and among those the nearest to
it. For each count of digits only the two neighbours of the number on that grid can be nearest.
-/
namespace JobMatrix.Decimal

open Binary64 (twoTo tenTo)

/-- A positive decimal: `digits` with the leading one at the place `10 ^ leading`. -/
structure Digits where
  digits : List Char
  leading : Int
  deriving DecidableEq

def leadingPlace (num den : Nat) : Int :=
  if den ≤ num then (Nat.toDigits 10 (num / den)).length - 1
  else
    let places := (Nat.toDigits 10 (den / num)).length
    if den ≤ num * tenTo (places - 1) then -((places : Int) - 1) else -(places : Int)

/-- A positive number in quarters of its last binary place, between the two bounds of what rounds
to it. All three are numerators over `den`. -/
structure Interval where
  low : Nat
  value : Nat
  high : Nat
  den : Nat
  closed : Bool

def Interval.ofBinary (x : Binary64) : Interval :=
  let below := if x.significand = twoTo 52 ∧ x.exponent ≠ Binary64.leastExponent then 1 else 2
  let quarter := x.exponent - 2
  let up := if 0 ≤ quarter then twoTo quarter.toNat else 1
  let den := if 0 ≤ quarter then 1 else twoTo (-quarter).toNat
  ⟨(4 * x.significand - below) * up, 4 * x.significand * up, (4 * x.significand + 2) * up, den,
    x.significand % 2 = 0⟩

def Interval.holds (i : Interval) (n : Nat) (place : Int) : Bool :=
  let point := n * tenTo place.toNat * i.den
  let scale := tenTo (-place).toNat
  if i.closed then i.low * scale ≤ point && point ≤ i.high * scale
  else i.low * scale < point && point < i.high * scale

/-- The nearer of the neighbours `n` and `n + 1` of the value on the grid of a place; the even one
if they are equally near. -/
def Interval.nearer (i : Interval) (n : Nat) (place : Int) : Nat :=
  let twice := 2 * i.value * tenTo (-place).toNat
  let middle := (2 * n + 1) * tenTo place.toNat * i.den
  if twice < middle then n
  else if middle < twice then n + 1
  else if n % 2 = 0 then n
  else n + 1

def Interval.onGrid? (i : Interval) (place : Int) : Option Nat :=
  let n := i.value * tenTo (-place).toNat / (tenTo place.toNat * i.den)
  match i.holds n place, i.holds (n + 1) place with
  | true, true => some (i.nearer n place)
  | true, false => some n
  | false, true => some (n + 1)
  | false, false => none

def Interval.refine (i : Interval) (place : Int) : Nat → Nat × Int
  | 0 => (i.value, place)
  | count + 1 =>
    match i.onGrid? place with
    | some n => (n, place)
    | none => i.refine (place - 1) count

/-- Seventeen digits always suffice. -/
def shortest (x : Binary64) : Digits :=
  let i := Interval.ofBinary x
  let (n, place) := i.refine (leadingPlace i.value i.den) 17
  let written := Nat.toDigits 10 n
  ⟨(written.reverse.dropWhile (· == '0')).reverse, place + written.length - 1⟩

end JobMatrix.Decimal
