import JobMatrix.Json.Printer
import JobMatrix.Json.Reader
import JobMatrix.Repro
import JobMatrix.Text.Lowercase

/-!
The repro document: an object whose `repros` are an array of definitions. A definition is read
leniently: a lone string is a list of one, and what is not a string is passed over. One without a
usable name is dropped unread. The first definition that is no object, or has limits that are
neither absent nor an object, spoils the document.
-/
namespace JobMatrix.Repro

open JobMatrix (Json)

def lenientStrings : Option Json → List String
  | some (.string text) => [text]
  | some (.array items) => items.filterMap fun
    | .string text => some text
    | _ => none
  | _ => []

def platformSet (value : Option Json) : NameSet :=
  NameSet.ofList ((lenientStrings value).map Text.lowercase)

def labelSet (value : Option Json) : NameSet := NameSet.ofList (lenientStrings value)

def usableName? : Option Json → Option String
  | some (.string text) => if text.isEmpty then none else some text
  | some (.integer n) => if n = 0 then none else some (Json.integerText n)
  | some (.real x) => if x.isZero then none else some (Json.realText x)
  | some (.bool true) => some "True"
  | _ => none

structure LimitsFault where
  found : Json
  deriving DecidableEq

def LimitsFault.message (fault : LimitsFault) : String :=
  "`os` constraints must be an object, found " ++ fault.found.kind

def limitsOf (members : List (String × Json)) : Limits where
  given := !members.isEmpty
  includePlatforms := platformSet (Table.get? "includePlatforms" members)
  includeLabels := labelSet (Table.get? "includeLabels" members)
  excludePlatforms := platformSet (Table.get? "excludePlatforms" members)
  excludeLabels := labelSet (Table.get? "excludeLabels" members)

def readLimits : Option Json → Except LimitsFault Limits
  | none => .ok Limits.none
  | some value =>
    if value.isBlank then .ok Limits.none
    else
      match value with
      | .object members => .ok (limitsOf members)
      | found => .error ⟨found⟩

def nameOf? (members : List (String × Json)) : Option String :=
  usableName? (Table.get? "name" members) <|> usableName? (Table.get? "id" members)

def ofMembers (members : List (String × Json)) : Except LimitsFault (Option Repro) :=
  match nameOf? members with
  | none => .ok none
  | some name =>
    match readLimits (Table.get? "os" members) with
    | .error fault => .error fault
    | .ok limits => .ok (some ⟨name, platformSet (Table.get? "supports" members), limits⟩)

inductive DocumentFault where
  | unreadable (fault : Json.Fault)
  | notArray (found : Json)
  | notObject (position : Nat) (found : Json)
  | badLimits (position : Nat) (fault : LimitsFault)
  deriving DecidableEq

def DocumentFault.message : DocumentFault → String
  | .unreadable fault => "Repro definitions must be a JSON object: " ++ fault.message
  | .notArray found => "`repros` must be an array, found " ++ found.kind
  | .notObject position found =>
    "Repro #" ++ toString position ++ " must be an object, found " ++ found.kind
  | .badLimits position fault => "Invalid repro #" ++ toString position ++ ": " ++ fault.message

def readItems (position : Nat) : List Json → Except DocumentFault (List Repro)
  | [] => .ok []
  | .object members :: rest =>
    match ofMembers members with
    | .error fault => .error (.badLimits position fault)
    | .ok found => (readItems (position + 1) rest).map (found.toList ++ ·)
  | found :: _ => .error (.notObject position found)

def readMembers (members : List (String × Json)) : Except DocumentFault (List Repro) :=
  match Table.get? "repros" members with
  | none => .ok []
  | some value =>
    if value.isBlank then .ok []
    else
      match value with
      | .array items => readItems 0 items
      | found => .error (.notArray found)

def readDocument (text : String) : Except DocumentFault (List Repro) :=
  match Json.readMembersOf text with
  | .error fault => .error (.unreadable fault)
  | .ok members => readMembers members

end JobMatrix.Repro
