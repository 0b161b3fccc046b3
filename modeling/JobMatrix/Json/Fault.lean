/-!
Why a text is no JSON, and where. A reader knows what it has not read yet; the place is told by line
and column only when the whole text is at hand again.
-/
namespace JobMatrix.Json

inductive Reason where
  | openList
  | openObject
  | openString
  | openValue
  | noColon
  | noListEnd
  | noObjectEnd
  | noWord
  | noValue
  | badEscape
  | badNumber
  | outOfRange
  | controlCharacter
  | keyNotString
  | loneSurrogate
  | brokenPair
  | trailingComma
  | trailingCharacters
  | tooDeep
  /-- The text holds a value, but an object was wanted. -/
  | notObject (found : String)
  deriving DecidableEq

def Reason.text : Reason → String
  | .openList => "EOF while parsing a list"
  | .openObject => "EOF while parsing an object"
  | .openString => "EOF while parsing a string"
  | .openValue => "EOF while parsing a value"
  | .noColon => "expected `:`"
  | .noListEnd => "expected `,` or `]`"
  | .noObjectEnd => "expected `,` or `\x7d`"
  | .noWord => "expected ident"
  | .noValue => "expected value"
  | .badEscape => "invalid escape"
  | .badNumber => "invalid number"
  | .outOfRange => "number out of range"
  | .controlCharacter => "control character (\\u0000-\\u001F) found while parsing a string"
  | .keyNotString => "key must be a string"
  | .loneSurrogate => "lone leading surrogate in hex escape"
  | .brokenPair => "unexpected end of hex escape"
  | .trailingComma => "trailing comma"
  | .trailingCharacters => "trailing characters"
  | .tooDeep => "recursion limit exceeded"
  | .notObject found => "invalid type: " ++ found ++ ", expected a map"

structure Fault where
  reason : Reason
  line : Nat
  column : Nat
  deriving DecidableEq

def Fault.message (fault : Fault) : String :=
  fault.reason.text ++ " at line " ++ toString fault.line ++ " column " ++ toString fault.column

/-- A fault and the number of bytes behind its place. -/
structure Refusal where
  reason : Reason
  left : Nat
  deriving DecidableEq

abbrev Reading (α : Type) := Except Refusal (α × List Char)

def size (cs : List Char) : Nat := cs.foldl (fun size c => size + c.utf8Size) 0

def stop {α : Type} (reason : Reason) (cs : List Char) : Except Refusal α :=
  .error ⟨reason, size cs⟩

/-- Refuses a text for the next byte, which the place of the fault includes. -/
def stopAfter {α : Type} (reason : Reason) (cs : List Char) : Except Refusal α :=
  .error ⟨reason, size cs - 1⟩

/-- Lines count from one, columns are the bytes of the line up to the place. -/
def Refusal.fault (refusal : Refusal) (text : String) : Fault :=
  let read := text.toUTF8.toList.take (text.utf8ByteSize - refusal.left)
  let isBreak (byte : UInt8) : Bool := byte == 10
  ⟨refusal.reason, read.countP isBreak + 1, (read.reverse.takeWhile (!isBreak ·)).length⟩

end JobMatrix.Json
