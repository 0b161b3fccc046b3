/-!
Why a file could not be read or appended to.
-/
namespace JobMatrix

inductive FileFault where
  | missing
  | notDirectory
  | isDirectory
  | noSpace
  | nameTooLong
  | zeroByteInName
  /-- The file holds bytes that are not UTF-8 text. -/
  | notText
  /-- Any other reason, in the words of the system. -/
  | system (text : String)
  deriving DecidableEq

def FileFault.message : FileFault → String
  | .missing => "No such file or directory (os error 2)"
  | .notDirectory => "Not a directory (os error 20)"
  | .isDirectory => "Is a directory (os error 21)"
  | .noSpace => "No space left on device (os error 28)"
  | .nameTooLong => "File name too long (os error 36)"
  | .zeroByteInName => "file name contained an unexpected NUL byte"
  | .notText => "stream did not contain valid UTF-8"
  | .system text => text

/-- Appending has two steps, and either may fail. -/
inductive AppendFault where
  | opening (fault : FileFault)
  | writing (fault : FileFault)
  deriving DecidableEq

def FileFault.readMessage (path : String) (fault : FileFault) : String :=
  "Failed to read file: " ++ path ++ ": " ++ fault.message

def AppendFault.message (path : String) : AppendFault → String
  | .opening fault => "Failed to open file for appending: " ++ path ++ ": " ++ fault.message
  | .writing fault => "Failed to append to file: " ++ path ++ ": " ++ fault.message

end JobMatrix
