/-!
Texts made of lines, each of them ended by a line feed.
-/
namespace JobMatrix

def endedLine (line : String) : String := line ++ "\n"

def linesText (lines : List String) : String := String.join (lines.map endedLine)

end JobMatrix
