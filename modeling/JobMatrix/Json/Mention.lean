import JobMatrix.Json.Printer
import JobMatrix.Text.Braced

/-!
How a message mentions a value that was found in place of another.
-/
namespace JobMatrix.Json

def mention : Json → String
  | .null => "null"
  | .bool true => "boolean `true`"
  | .bool false => "boolean `false`"
  | .integer n => "integer `" ++ integerText n ++ "`"
  | .real x => "floating point `" ++ realText x ++ "`"
  | .string text => "string " ++ Text.braced text
  | .array _ => "sequence"
  | .object _ => "map"

end JobMatrix.Json
