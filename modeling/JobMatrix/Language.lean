/-!
The languages that messages are written in, and how a request picks one.
-/
namespace JobMatrix

inductive Language where
  | english
  | chinese
  deriving DecidableEq

namespace Language

def tag : Language → String
  | .english => "en"
  | .chinese => "zh-CN"

def ofTag? (text : String) : Option Language :=
  [english, chinese].find? (·.tag == text)

def primary (request : String) : String :=
  String.ofList (request.toList.takeWhile fun c => c != '-' && c != '_')

/-- The language requested as a whole, else by its first part, else English. -/
def select (request : String) : Language :=
  ofTag? request <|> ofTag? (primary request) |>.getD .english

end Language
end JobMatrix
