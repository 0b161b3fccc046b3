import JobMatrix.CommandLine.Arguments
import JobMatrix.Run

/-!
One call of the program, from its arguments to its exit code.
-/
namespace JobMatrix.CommandLine

structure Exit where
  code : UInt32
  complaint : List String
  deriving DecidableEq

def versionLine : String := programName ++ " " ++ programVersion

def Flag.usage (flag : Flag) : String :=
  "--" ++ flag.name ++ flag.valueName?.elim "" fun value => " <" ++ value ++ ">"

def flagLine (language : Language) (flag : Flag) : String :=
  "  " ++ flag.usage ++ "  " ++ flag.help language

def helpLines (language : Language) : List String :=
  [about language, "", "Usage: " ++ programName ++ " [OPTIONS]", "", "Options:"]
    ++ Flag.all.map (flagLine language) ++ ["  -h, --help", "  -V, --version"]

def UsageFault.text : UsageFault → String
  | .unknown argument => "unexpected argument '" ++ argument ++ "' found"
  | .valueMissing flag => "a value is required for '" ++ flag.usage ++ "' but none was supplied"
  | .valueUnwanted name value =>
    "unexpected value '" ++ value ++ "' for '" ++ name ++ "' found; no more were expected"
  | .repeated flag => "the argument '" ++ flag.usage ++ "' cannot be used multiple times"

def stopped (language : Language) : Stop → Script Exit
  | .help => .display (helpLines language) (.done ⟨0, []⟩)
  | .version => .display [versionLine] (.done ⟨0, []⟩)
  | .badUsage fault =>
    .done ⟨2, ["error: " ++ fault.text, "", "For more information, try '--help'."]⟩

def call (environment : Environment) (workingDirectory : String) (arguments : List String) :
    Script Exit :=
  let screen : Screen := ⟨language environment arguments, forcesColour environment⟩
  match given environment arguments with
  | .error stop => stopped screen.language stop
  | .ok given =>
    ((given.settings workingDirectory).run screen).andThen fun
      | .ok _ => .done ⟨0, []⟩
      | .error fault => .done ⟨1, [fault.report screen]⟩

end JobMatrix.CommandLine
