import JobMatrix.Decimal.Shortest

/-!
How the digits of a number are set out. A layout says which places of the leading digit are
written with a plain decimal point; beyond them a power of ten follows.
-/
namespace JobMatrix.Decimal

/-- `least` and `greatest` bound the leading places written without a power of ten. -/
structure Layout where
  least : Int
  greatest : Int
  deriving DecidableEq

def Layout.isPlain (layout : Layout) (leading : Int) : Bool :=
  layout.least ≤ leading && leading ≤ layout.greatest

def plain (d : Digits) : List Char :=
  if d.leading < 0 then
    '0' :: '.' :: (List.replicate (-d.leading - 1).toNat '0' ++ d.digits)
  else
    let whole := d.leading.toNat + 1
    let front := d.digits.take whole ++ List.replicate (whole - d.digits.length) '0'
    let back := d.digits.drop whole
    front ++ '.' :: (if back.isEmpty then ['0'] else back)

def withPower (d : Digits) : List Char :=
  let front := d.digits.take 1
  let back := d.digits.drop 1
  let sign := if d.leading < 0 then '-' else '+'
  front ++ (if back.isEmpty then [] else '.' :: back)
    ++ 'e' :: sign :: Nat.toDigits 10 d.leading.natAbs

def Layout.write (layout : Layout) (x : Binary64) : String :=
  let magnitude :=
    if x.isZero then ['0', '.', '0']
    else
      let d := shortest x
      if layout.isPlain d.leading then plain d else withPower d
  String.ofList (if x.negative then '-' :: magnitude else magnitude)

end JobMatrix.Decimal
