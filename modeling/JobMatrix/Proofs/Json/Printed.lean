import JobMatrix.Json.Printer

/-!
JSON text as a whole: on one line and in printable ASCII, a blank after every comma and colon, and
any other character escaped, one beyond the first plane as a pair of surrogates.
-/
namespace JobMatrix.Json

def printChar (c : Char) : List Char :=
  if c = '"' then ['\\', '"']
  else if c = '\\' then ['\\', '\\']
  else if c = '\x08' then ['\\', 'b']
  else if c = '\x0c' then ['\\', 'f']
  else if c = '\n' then ['\\', 'n']
  else if c = '\r' then ['\\', 'r']
  else if c = '\t' then ['\\', 't']
  else if ' ' ≤ c ∧ c ≤ '~' then [c]
  else (codeUnits c).flatMap escapeUnit

def printString (text : String) : List Char :=
  '"' :: (text.toList.flatMap printChar ++ ['"'])

def commaSeparated (parts : List (List Char)) : List Char := List.intercalate [',', ' '] parts

mutual

def print : Json → List Char
  | .null => ['n', 'u', 'l', 'l']
  | .bool true => ['t', 'r', 'u', 'e']
  | .bool false => ['f', 'a', 'l', 's', 'e']
  | .integer n => printInteger n
  | .real x => (realLayout.write x).toList
  | .string text => printString text
  | .array items => '[' :: (commaSeparated (printItems items) ++ [']'])
  | .object members => '\x7b' :: (commaSeparated (printMembers members) ++ ['\x7d'])

def printItems : List Json → List (List Char)
  | [] => []
  | item :: rest => print item :: printItems rest

def printMembers : List (String × Json) → List (List Char)
  | [] => []
  | (key, value) :: rest =>
    (printString key ++ ':' :: ' ' :: print value) :: printMembers rest

end

def render (value : Json) : String := String.ofList (print value)

end JobMatrix.Json
