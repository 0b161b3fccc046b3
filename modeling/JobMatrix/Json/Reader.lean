import JobMatrix.Json.Mention
import JobMatrix.Json.Number

/-!
Strict reading of JSON text. The first fault met from the left is the one reported. Containers may
be nested 127 deep.
-/
namespace JobMatrix.Json

def depthLimit : Nat := 127

def isBlankChar (c : Char) : Bool := c == ' ' || c == '\t' || c == '\n' || c == '\r'

def skipBlanks (cs : List Char) : List Char := cs.dropWhile isBlankChar

def readWord : List Char → List Char → Except Refusal (List Char)
  | [], cs => .ok cs
  | _ :: _, [] => stop .openValue []
  | w :: word, c :: cs => if c = w then readWord word cs else stopAfter .noWord (c :: cs)

/-! Strings -/

def shortEscape? (c : Char) : Option Char :=
  if c = '"' then some '"'
  else if c = '\\' then some '\\'
  else if c = '/' then some '/'
  else if c = 'b' then some '\x08'
  else if c = 'f' then some '\x0c'
  else if c = 'n' then some '\n'
  else if c = 'r' then some '\r'
  else if c = 't' then some '\t'
  else none

/-- What stands in the place of four digits is none. Text of less than four bytes ends the string
too early, whatever it holds. -/
def cutEscape (cs : List Char) : Refusal :=
  if 4 ≤ size cs then ⟨.badEscape, size cs - 4⟩ else ⟨.openString, 0⟩

def isLeading (unit : Nat) : Bool := 0xD800 ≤ unit && unit ≤ 0xDBFF
def isTrailing (unit : Nat) : Bool := 0xDC00 ≤ unit && unit ≤ 0xDFFF

def joinPair (leading trailing : Nat) : Char :=
  Char.ofNat (0x10000 + (leading - 0xD800) * 0x400 + (trailing - 0xDC00))

def consChar (c : Char) : Reading (List Char) → Reading (List Char) :=
  Except.map fun (text, rest) => (c :: text, rest)

def readText : List Char → Reading (List Char)
  | [] => stop .openString []
  | '"' :: rest => .ok ([], rest)
  | '\\' :: 'u' :: a :: b :: c :: d :: rest =>
    match Text.hexQuad? a b c d with
    | none => .error (cutEscape (a :: b :: c :: d :: rest))
    | some unit =>
      if isTrailing unit then stop .loneSurrogate rest
      else if isLeading unit then
        match rest with
        | [] => stop .openString []
        | '\\' :: [] => stop .openString []
        | '\\' :: 'u' :: e :: f :: g :: h :: rest =>
          match Text.hexQuad? e f g h with
          | none => .error (cutEscape (e :: f :: g :: h :: rest))
          | some second =>
            if isTrailing second then consChar (joinPair unit second) (readText rest)
            else stop .loneSurrogate rest
        | '\\' :: 'u' :: rest => .error (cutEscape rest)
        | '\\' :: rest => stopAfter .brokenPair rest
        | rest => stopAfter .brokenPair rest
      else consChar (Char.ofNat unit) (readText rest)
  | '\\' :: 'u' :: rest => .error (cutEscape rest)
  | '\\' :: [] => stop .openString []
  | '\\' :: c :: rest =>
    match shortEscape? c with
    | some meant => consChar meant (readText rest)
    | none => stopAfter .badEscape (c :: rest)
  | c :: rest => if c < ' ' then stop .controlCharacter rest else consChar c (readText rest)

def readString (cs : List Char) : Reading String :=
  (readText cs).map fun (text, rest) => (String.ofList text, rest)

/-! Containers -/

/-- The bracket that closes a container, and the faults of items that are not followed by a comma
or that bracket. -/
structure Bracket where
  close : Char
  unfinished : Reason
  unparted : Reason

def listBracket : Bracket := ⟨']', .openList, .noListEnd⟩
def objectBracket : Bracket := ⟨'\x7d', .openObject, .noObjectEnd⟩

/-- Items separated by commas up to the closing bracket; the first one begins here. `budget`
bounds their number. -/
def readListed {α : Type} (bracket : Bracket) (item : List Char → Reading α) :
    Nat → List Char → Reading (List α)
  | 0, _ => stop bracket.unparted []
  | budget + 1, cs =>
    match item cs with
    | .error refusal => .error refusal
    | .ok (first, cs) =>
      match skipBlanks cs with
      | [] => stop bracket.unfinished []
      | c :: cs =>
        if c = bracket.close then .ok ([first], cs)
        else if c = ',' then
          (readListed bracket item budget cs).map fun (others, cs) => (first :: others, cs)
        else stopAfter bracket.unparted (c :: cs)

def readItem (item : List Char → Reading Json) (cs : List Char) : Reading Json :=
  match skipBlanks cs with
  | ']' :: cs => stop .trailingComma cs
  | _ => item cs

def readMember (item : List Char → Reading Json) (cs : List Char) : Reading (String × Json) :=
  match skipBlanks cs with
  | [] => stop .openValue []
  | '"' :: cs =>
    match readString cs with
    | .error refusal => .error refusal
    | .ok (key, cs) =>
      match skipBlanks cs with
      | [] => stop .openObject []
      | ':' :: cs => (item cs).map fun (value, cs) => ((key, value), cs)
      | cs => stopAfter .noColon cs
  | '\x7d' :: cs => stop .trailingComma cs
  | cs => stopAfter .keyNotString cs

def readArray (item : List Char → Reading Json) (cs : List Char) : Reading Json :=
  match skipBlanks cs with
  | [] => stop .openList []
  | ']' :: cs => .ok (.array [], cs)
  | _ => (readListed listBracket (readItem item) (cs.length + 1) cs).map fun (items, cs) =>
      (.array items, cs)

/-- A repeated key keeps its first place and takes its last value. -/
def readObject (item : List Char → Reading Json) (cs : List Char) : Reading Json :=
  match skipBlanks cs with
  | [] => stop .openObject []
  | '\x7d' :: cs => .ok (.object [], cs)
  | _ => (readListed objectBracket (readMember item) (cs.length + 1) cs).map fun (members, cs) =>
      (.object (Table.ofPairs members), cs)

def readScalar (c : Char) (cs : List Char) : Reading Json :=
  if c = 'n' then (readWord ['u', 'l', 'l'] cs).map (Json.null, ·)
  else if c = 't' then (readWord ['r', 'u', 'e'] cs).map (Json.bool true, ·)
  else if c = 'f' then (readWord ['a', 'l', 's', 'e'] cs).map (Json.bool false, ·)
  else if c = '"' then (readString cs).map fun (text, cs) => (.string text, cs)
  else if startsNumber c then readNumber (c :: cs)
  else stopAfter .noValue (c :: cs)

def readValue : Nat → List Char → Reading Json
  | depth, cs =>
    match skipBlanks cs with
    | [] => stop .openValue []
    | c :: cs =>
      if c = '[' then
        match depth with
        | 0 => stop .tooDeep cs
        | depth + 1 => readArray (readValue depth) cs
      else if c = '\x7b' then
        match depth with
        | 0 => stop .tooDeep cs
        | depth + 1 => readObject (readValue depth) cs
      else readScalar c cs

def finish : Reading Json → Except Refusal Json
  | .error refusal => .error refusal
  | .ok (value, rest) =>
    match skipBlanks rest with
    | [] => .ok value
    | rest => stopAfter .trailingCharacters rest

def read (text : String) : Except Fault Json :=
  (finish (readValue depthLimit text.toList)).mapError (·.fault text)

def notObject {α : Type} (found : Json) (cs : List Char) : Except Refusal α :=
  stop (.notObject found.mention) cs

/-- The members of the object that begins the text. A scalar is read before it is refused, an array
is refused at its bracket. -/
def readMembers (cs : List Char) : Except Refusal (List (String × Json)) :=
  match skipBlanks cs with
  | [] => stop .openValue []
  | c :: cs =>
    if c = '[' then notObject (.array []) (c :: cs)
    else if c = '\x7b' then
      match finish (readValue depthLimit (c :: cs)) with
      | .error refusal => .error refusal
      | .ok (.object members) => .ok members
      | .ok found => notObject found []
    else
      match readScalar c cs with
      | .error refusal => .error refusal
      | .ok (found, rest) => notObject found rest

def readMembersOf (text : String) : Except Fault (List (String × Json)) :=
  (readMembers text.toList).mapError (·.fault text)

end JobMatrix.Json
