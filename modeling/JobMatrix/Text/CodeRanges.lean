/-!
Sets of code points written as ascending, disjoint inclusive ranges. A search stops at the first
range that begins beyond the code point, so low code points cost little.
-/
namespace JobMatrix.Text

/-- Inclusive ranges, each ending before the next begins. -/
abbrev CodeRanges := List (Nat × Nat)

def CodeRanges.has : CodeRanges → Nat → Bool
  | [], _ => false
  | (first, last) :: rest, code => first ≤ code && (code ≤ last || CodeRanges.has rest code)

end JobMatrix.Text
