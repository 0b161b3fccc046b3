import JobMatrix.Json.Fault
import JobMatrix.Json.Value

/-!
Numbers in JSON text. A literal without point and power is an integer if it is in range. Any other
one is made from as many of its digits as a significand of 64 bits takes.
-/
namespace JobMatrix.Json

def startsNumber (c : Char) : Bool := c == '-' || c.isDigit

def digitValue (c : Char) : Nat := c.toNat - '0'.toNat

def digitsValue (digits : List Char) : Nat :=
  digits.foldl (fun n c => n * 10 + digitValue c) 0

def readDigits (cs : List Char) : Reading (List Char) :=
  match cs with
  | [] => stop .openValue []
  | c :: _ =>
    if c.isDigit then .ok (cs.takeWhile Char.isDigit, cs.dropWhile Char.isDigit)
    else stopAfter .badNumber cs

def readWhole (cs : List Char) : Reading (List Char) :=
  match readDigits cs with
  | .ok ('0' :: _ :: others, rest) => stop .badNumber (others ++ rest)
  | reading => reading

def readFraction : List Char → Reading (Option (List Char))
  | '.' :: cs => (readDigits cs).map fun (digits, rest) => (some digits, rest)
  | cs => .ok (none, cs)

structure Power where
  negative : Bool
  digits : List Char

def readPower : List Char → Reading Power
  | '-' :: cs => (readDigits cs).map fun (digits, rest) => (⟨true, digits⟩, rest)
  | '+' :: cs => (readDigits cs).map fun (digits, rest) => (⟨false, digits⟩, rest)
  | cs => (readDigits cs).map fun (digits, rest) => (⟨false, digits⟩, rest)

def readExponent : List Char → Reading (Option Power)
  | 'e' :: cs => (readPower cs).map fun (power, rest) => (some power, rest)
  | 'E' :: cs => (readPower cs).map fun (power, rest) => (some power, rest)
  | cs => .ok (none, cs)

/-- Appends digits to a number until one would take it beyond the limit; that one and all after it
are left over. -/
def takeUpTo (limit n : Nat) : List Char → Nat × List Char
  | [] => (n, [])
  | c :: digits =>
    let next := n * 10 + digitValue c
    if next ≤ limit then takeUpTo limit next digits else (n, c :: digits)

def significandLimit : Nat := 0xFFFFFFFFFFFFFFFF
def powerLimit : Nat := 0x7FFFFFFF

/-- The significand of a literal and the power of ten that its point stands for. Digits that are
left over before the point count in the power, and a digit after the point may still be appended. -/
def significandOf (whole fraction : List Char) : Nat × Int :=
  let (front, passed) := takeUpTo significandLimit 0 whole
  let (significand, dropped) := takeUpTo significandLimit front fraction
  (significand, passed.length - (fraction.length - dropped.length : Nat))

/-- The real number that a literal stands for, behind which the text goes on with `rest`. A power
beyond its limit is out of range at the digit that takes it there, unless it makes zero. -/
def realOf (negative : Bool) (whole fraction : List Char) (power : Option Power)
    (rest : List Char) : Except Refusal Binary64 :=
  let (significand, point) := significandOf whole fraction
  let apply (power : Int) : Except Refusal Binary64 :=
    match Binary64.ofDecimal? negative significand (point + power) with
    | some x => .ok x
    | none => stop .outOfRange rest
  match power with
  | none => apply 0
  | some power =>
    match takeUpTo powerLimit 0 power.digits with
    | (n, []) => apply (if power.negative then -n else n)
    | (_, _ :: others) =>
      if significand = 0 ∨ power.negative then .ok (Binary64.zero negative)
      else stop .outOfRange (others ++ rest)

/-- A literal is an integer if it has neither point nor power, is in range and is not `-0`. -/
def numberOf (negative : Bool) (whole : List Char) (fraction : Option (List Char))
    (power : Option Power) (rest : List Char) : Except Refusal Json :=
  let n := digitsValue whole
  let signed : Int := if negative then -(n : Int) else n
  if fraction.isNone ∧ power.isNone ∧ IsIntegral signed ∧ ¬(negative ∧ n = 0) then
    .ok (.integer signed)
  else (realOf negative whole (fraction.getD []) power rest).map .real

def readMagnitude (negative : Bool) (cs : List Char) : Except Refusal (Json × List Char) := do
  let (whole, cs) ← readWhole cs
  let (fraction, cs) ← readFraction cs
  let (power, cs) ← readExponent cs
  let number ← numberOf negative whole fraction power cs
  return (number, cs)

def readNumber : List Char → Reading Json
  | '-' :: cs => readMagnitude true cs
  | cs => readMagnitude false cs

end JobMatrix.Json
