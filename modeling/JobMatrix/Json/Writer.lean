import JobMatrix.Json.Printer

/-!
JSON text written piece by piece. The serializer hands a string over in fragments, between which it
writes the escapes of marks and control characters; within a fragment everything else outside
printable ASCII is escaped. What parts items or members is written before each but the first.
-/
namespace JobMatrix.Json

/-- A place that takes bytes, or fails with the text of the system. -/
structure Sink (σ : Type) where
  write : ByteArray → σ → Except String σ

def Sink.memory : Sink ByteArray := ⟨fun bytes taken => .ok (taken ++ bytes)⟩

namespace Sink

variable {σ : Type} (sink : Sink σ)

def writeText (text : String) (out : σ) : Except String σ := sink.write text.toUTF8 out

def writeUnits : List Nat → σ → Except String σ
  | [], out => .ok out
  | unit :: units, out => do
    let out ← sink.writeText (String.ofList (escapeUnit unit)) out
    writeUnits units out

/-- Goes on at the byte `idx` of a fragment, of which the bytes from `start` are not written yet. -/
def writeFragmentFrom (fragment : String) (start idx : Nat) (out : σ) :
    List Char → Except String σ
  | [] => sink.write (fragment.toUTF8.extract start fragment.utf8ByteSize) out
  | c :: rest =>
    let next := idx + c.utf8Size
    if c.toNat < 0x80 ∧ c ≠ '\x7f' then writeFragmentFrom fragment start next out rest
    else do
      let out ← sink.write (fragment.toUTF8.extract start idx) out
      let out ← sink.writeUnits (codeUnits c) out
      writeFragmentFrom fragment next next out rest

def writeFragment (fragment : String) (out : σ) : Except String σ :=
  sink.writeFragmentFrom fragment 0 0 out fragment.toList

def charEscape? (c : Char) : Option (List Char) :=
  if c = '"' then some ['\\', '"']
  else if c = '\\' then some ['\\', '\\']
  else if c = '\x08' then some ['\\', 'b']
  else if c = '\x0c' then some ['\\', 'f']
  else if c = '\n' then some ['\\', 'n']
  else if c = '\r' then some ['\\', 'r']
  else if c = '\t' then some ['\\', 't']
  else if c < ' ' then some (escapeUnit c.toNat)
  else none

def writePending (pending : List Char) (out : σ) : Except String σ :=
  if pending.isEmpty then .ok out else sink.writeFragment (String.ofList pending) out

def writeContents (pending : List Char) (out : σ) : List Char → Except String σ
  | [] => sink.writePending pending out
  | c :: rest =>
    match charEscape? c with
    | none => writeContents (pending ++ [c]) out rest
    | some escape => do
      let out ← sink.writePending pending out
      let out ← sink.writeText (String.ofList escape) out
      writeContents [] out rest

def writeString (text : String) (out : σ) : Except String σ := do
  let out ← sink.writeText "\"" out
  let out ← sink.writeContents [] out text.toList
  sink.writeText "\"" out

def beginItem (first : Bool) (out : σ) : Except String σ :=
  if first then .ok out else sink.writeText ", " out

mutual

def writeValue : Json → σ → Except String σ
  | .null, out => sink.writeText "null" out
  | .bool true, out => sink.writeText "true" out
  | .bool false, out => sink.writeText "false" out
  | .integer n, out => sink.writeText (integerText n) out
  | .real x, out => sink.writeText (realText x) out
  | .string text, out => sink.writeString text out
  | .array items, out => do
    let out ← sink.writeText "[" out
    let out ← writeItems items true out
    sink.writeText "]" out
  | .object members, out => do
    let out ← sink.writeText "\x7b" out
    let out ← writeMembers members true out
    sink.writeText "\x7d" out

def writeItems : List Json → Bool → σ → Except String σ
  | [], _, out => .ok out
  | item :: rest, first, out => do
    let out ← sink.beginItem first out
    let out ← writeValue item out
    writeItems rest false out

def writeMembers : List (String × Json) → Bool → σ → Except String σ
  | [], _, out => .ok out
  | (key, value) :: rest, first, out => do
    let out ← sink.beginItem first out
    let out ← sink.writeString key out
    let out ← sink.writeText ": " out
    let out ← writeValue value out
    writeMembers rest false out

end

end Sink

inductive WriteFault where
  | unserialized (cause : String)
  | notText
  deriving DecidableEq

def WriteFault.message : WriteFault → String
  | .unserialized cause => "Failed to serialize JSON output: " ++ cause
  | .notText => "Serialized JSON was not valid UTF-8"

def toSpacedJson (value : Json) : Except WriteFault String :=
  match Sink.memory.writeValue value .empty with
  | .error cause => .error (.unserialized cause)
  | .ok bytes =>
    match String.fromUTF8? bytes with
    | some text => .ok text
    | none => .error .notText

end JobMatrix.Json
