import JobMatrix.Text.LetterCase

/-!
Lowercase text. Every character goes to its own lowercase form, except a capital sigma, whose
form depends on whether it ends a word.
-/
namespace JobMatrix.Text

/-- The first character that a word boundary does not look through has case. -/
def meetsCased (cs : List Char) : Bool :=
  match cs.dropWhile isCaseIgnorable with
  | [] => false
  | c :: _ => isCased c

/-- A sigma is final when a letter comes before it and none after it. -/
def sigma (before after : List Char) : Char :=
  if meetsCased before && !meetsCased after then 'ς' else 'σ'

/-- `before` holds the characters already passed, nearest first. -/
def lowerFrom (before : List Char) : List Char → List Char
  | [] => []
  | c :: after =>
    (if c = 'Σ' then [sigma before after] else lowerChar c) ++ lowerFrom (c :: before) after

def lowercase (text : String) : String := String.ofList (lowerFrom [] text.toList)

end JobMatrix.Text
