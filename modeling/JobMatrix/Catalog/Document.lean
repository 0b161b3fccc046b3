import JobMatrix.Json.Mention
import JobMatrix.Json.Reader

/-!
The platform document: an object whose members map a platform to the array of its labels. The
first member that does not is reported, by its first wrong item if it is an array.
-/
namespace JobMatrix.Catalog

inductive DocumentFault where
  | unreadable (fault : Json.Fault)
  | notArray (platform : String) (found : Json)
  | notLabel (platform : String) (found : Json)
  deriving DecidableEq

namespace DocumentFault

def expectation (platform : String) : String :=
  "Platform '" ++ platform ++ "' must map to an array of label strings: invalid type: "

def message : DocumentFault → String
  | .unreadable fault => "Platform map must be a JSON object: " ++ fault.message
  | .notArray platform found =>
    expectation platform ++ found.mention ++ ", expected a sequence"
  | .notLabel platform found =>
    expectation platform ++ found.mention ++ ", expected a string"

end DocumentFault

def readItems (platform : String) : List Json → Except DocumentFault (List String)
  | [] => .ok []
  | .string label :: rest => (readItems platform rest).map (label :: ·)
  | found :: _ => .error (.notLabel platform found)

def readLabels (platform : String) : Json → Except DocumentFault (List String)
  | .array items => readItems platform items
  | found => .error (.notArray platform found)

def readPlatforms :
    List (String × Json) → Except DocumentFault (List (String × List String))
  | [] => .ok []
  | (platform, value) :: rest =>
    match readLabels platform value with
    | .error fault => .error fault
    | .ok labels => (readPlatforms rest).map ((platform, labels) :: ·)

def readDocument (text : String) : Except DocumentFault (List (String × List String)) :=
  match Json.readMembersOf text with
  | .error fault => .error (.unreadable fault)
  | .ok members => readPlatforms members

end JobMatrix.Catalog
