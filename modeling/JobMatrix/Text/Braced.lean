import JobMatrix.Text.Combining
import JobMatrix.Text.Printable

/-!
Text between double quotation marks, as messages about a found value show it. A character that
cannot stand alone is written as its code in braces.
-/
namespace JobMatrix.Text

/-- The letters that hold a place in a Hangul syllable and show nothing. -/
def isFiller (c : Char) : Bool := c ∈ ['\u115F', '\u1160', '\u3164', '\uFFA0']

def bracedChar (c : Char) : List Char :=
  if c = '\x00' then ['\\', '0']
  else if c = '\t' then ['\\', 't']
  else if c = '\r' then ['\\', 'r']
  else if c = '\n' then ['\\', 'n']
  else if c = '"' then ['\\', '"']
  else if c = '\\' then ['\\', '\\']
  else if isCombining c || isFiller c || !isPrintable c then
    ['\\', 'u', '\x7b'] ++ Nat.toDigits 16 c.toNat ++ ['\x7d']
  else [c]

def braced (text : String) : String :=
  String.ofList ('"' :: (text.toList.flatMap bracedChar ++ ['"']))

end JobMatrix.Text
