import JobMatrix.CommandLine.Call

/-!
The program itself: acts a call out on the real files and the real terminal.
-/
namespace JobMatrix.Main

/-- Faults of one kind differ by the number of the system's error, whose sign varies. -/
def isError (code number : UInt32) : Bool := code == number || code == 0 - number

def faultOf (error : IO.Error) : FileFault :=
  match error with
  | .noFileOrDirectory .. => .missing
  | .resourceExhausted .. => .noSpace
  | .inappropriateType _ code _ => if isError code 20 then .notDirectory else .isDirectory
  | .invalidArgument _ code _ => if isError code 36 then .nameTooLong else .system (toString error)
  | .permissionDenied .. => .system "Permission denied (os error 13)"
  | _ => .system (toString error)

def readFile (path : String) : IO (Except FileFault String) := do
  match ← (IO.FS.readBinFile path).toBaseIO with
  | .error fault => return .error (faultOf fault)
  | .ok content =>
    match String.fromUTF8? content with
    | some text => return .ok text
    | none => return .error .notText

def writeAll (handle : IO.FS.Handle) (text : String) : IO Unit := do
  handle.write text.toUTF8
  handle.flush

def appendFile (path text : String) : IO (Except AppendFault Unit) := do
  match ← (IO.FS.Handle.mk path .append).toBaseIO with
  | .error fault => return .error (.opening (faultOf fault))
  | .ok handle =>
    match ← (writeAll handle text).toBaseIO with
    | .error fault => return .error (.writing (faultOf fault))
    | .ok () => return .ok ()

def act {α : Type} : Script α → IO α
  | .done result => return result
  | .display lines next => do
    IO.print (linesText lines)
    act next
  | .read path next => do act (next (← readFile path))
  | .append path text next => do act (next (← appendFile path text))

end JobMatrix.Main

open JobMatrix in
def main (arguments : List String) : IO UInt32 := do
  let names := ["GITHUB_WORKSPACE", "GITHUB_STEP_SUMMARY", "GITHUB_OUTPUT", "LANGUAGE", "LC_ALL",
    "LC_MESSAGES", "LANG", "CLICOLOR_FORCE"]
  let values ← names.filterMapM fun name => do
    return (← IO.getEnv name).map fun value => (name, value)
  let environment : CommandLine.Environment := fun name => Table.get? name values
  let directory ← IO.currentDir
  let exit ← Main.act (CommandLine.call environment directory.toString arguments)
  IO.eprint (linesText exit.complaint)
  return exit.code
