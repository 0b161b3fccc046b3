import JobMatrix.Text.Hex
import JobMatrix.Text.Printable

/-!
Text between quotation marks, as skip lines show it: every character of the result is printable,
by the table of the earlier Unicode version, and the marks and backslashes inside are escaped, so
that the closing mark can be found.
-/
namespace JobMatrix.Text

/-- Single marks, unless only the double ones are free of a clash. -/
def quoteMark (cs : List Char) : Char :=
  if '\'' ∈ cs ∧ '"' ∉ cs then '"' else '\''

def escapeCode (code : Nat) : List Char :=
  if code < 0x100 then '\\' :: 'x' :: hexDigits 2 code
  else if code < 0x10000 then '\\' :: 'u' :: hexDigits 4 code
  else '\\' :: 'U' :: hexDigits 8 code

def quoteChar (mark c : Char) : List Char :=
  if c = '\\' then ['\\', '\\']
  else if c = '\n' then ['\\', 'n']
  else if c = '\r' then ['\\', 'r']
  else if c = '\t' then ['\\', 't']
  else if c = mark then ['\\', mark]
  else if isWidelyPrintable c then [c]
  else escapeCode c.toNat

def quoteChars (cs : List Char) : List Char :=
  quoteMark cs :: (cs.flatMap (quoteChar (quoteMark cs)) ++ [quoteMark cs])

def quote (text : String) : String := String.ofList (quoteChars text.toList)

def quoteListChars (items : List (List Char)) : List Char :=
  '[' :: (List.intercalate [',', ' '] (items.map quoteChars) ++ [']'])

def quoteList (items : List String) : String :=
  String.ofList (quoteListChars (items.map String.toList))

end JobMatrix.Text
