import JobMatrix.CommandLine.Flag
import JobMatrix.Settings

/-!
Reading the arguments of a call. They are read from left to right, and the first thing that ends
the reading decides: a request for help or for the version, or a fault. A flag with a value in the
next argument waits: it is looked at only when another flag is reached, or the end, so a fault of an
argument in between goes before its own. After the arguments the environment fills in flags that
were not given.
-/
namespace JobMatrix.CommandLine

inductive UsageFault where
  /-- As far as the argument is shown: a value after an equals sign is left out. -/
  | unknown (argument : String)
  | valueMissing (flag : Flag)
  | valueUnwanted (name value : String)
  | repeated (flag : Flag)
  deriving DecidableEq

inductive Stop where
  | help
  | version
  | badUsage (fault : UsageFault)
  deriving DecidableEq

/-- The flags given so far with their values; a flag without a value has an empty one. -/
structure Given where
  values : List (Flag × String)
  deriving DecidableEq

namespace Given

def empty : Given := ⟨[]⟩

def value? (given : Given) (flag : Flag) : Option String :=
  (given.values.find? (·.1 = flag)).map Prod.snd

def has (given : Given) (flag : Flag) : Bool := (given.value? flag).isSome

-- An empty path is refused like one that is left out.
def add (given : Given) (flag : Flag) (value : String) : Except Stop Given :=
  if given.has flag then .error (.badUsage (.repeated flag))
  else if flag.takesPath && value.isEmpty then .error (.badUsage (.valueMissing flag))
  else .ok ⟨given.values ++ [(flag, value)]⟩

end Given

inductive Argument where
  /-- `--name`, or `--name=value`. -/
  | long (name : String) (value : Option String)
  | short (letter : Char)
  /-- `--`, after which nothing is a flag. -/
  | endOfFlags
  | plain
  deriving DecidableEq

def Argument.ofString (text : String) : Argument :=
  match text.toList with
  | ['-', '-'] => .endOfFlags
  | '-' :: '-' :: rest =>
    let name := String.ofList (rest.takeWhile (· != '='))
    match rest.dropWhile (· != '=') with
    | [] => .long name none
    | _ :: value => .long name (some (String.ofList value))
  | '-' :: letter :: _ => .short letter
  | _ => .plain

def standsAsValue (text : String) : Bool := Argument.ofString text == .plain

def stopOfName? (name : String) : Option Stop :=
  if name = "help" then some .help else if name = "version" then some .version else none

def stopOfLetter? (letter : Char) : Option Stop :=
  if letter = 'h' then some .help else if letter = 'V' then some .version else none

/-- The flag that is not looked at yet. -/
inductive Waiting where
  | nothing
  | forValue (flag : Flag)
  | withValue (flag : Flag) (value : String)
  deriving DecidableEq

structure Progress where
  given : Given
  waiting : Waiting
  deriving DecidableEq

namespace Progress

def idle (given : Given) : Progress := ⟨given, .nothing⟩

def settle (progress : Progress) : Except Stop Given :=
  match progress.waiting with
  | .nothing => .ok progress.given
  | .forValue flag => .error (.badUsage (.valueMissing flag))
  | .withValue flag value => progress.given.add flag value

/-- A request ends the reading, unless the flag that waits does. -/
def firstStop (progress : Progress) (stop : Stop) : Stop :=
  match progress.settle with
  | .error fault => fault
  | .ok _ => stop

def takeFlag (progress : Progress) (flag : Flag) (value : Option String) :
    Except Stop Progress :=
  match value with
  | some value =>
    if flag.takesValue then do
      let given ← progress.settle
      let given ← given.add flag value
      return idle given
    else .error (.badUsage (.valueUnwanted ("--" ++ flag.name) value))
  | none => do
    let given ← progress.settle
    if flag.takesValue then return ⟨given, .forValue flag⟩
    else
      let given ← given.add flag ""
      return idle given

def takeLong (progress : Progress) (name : String) (value : Option String) :
    Except Stop Progress :=
  match Flag.ofName? name with
  | some flag => progress.takeFlag flag value
  | none =>
    match stopOfName? name, value with
    | some stop, none => .error (progress.firstStop stop)
    | some _, some value => .error (.badUsage (.valueUnwanted ("--" ++ name) value))
    | none, _ => .error (.badUsage (.unknown ("--" ++ name)))

def takeShort (progress : Progress) (letter : Char) : Stop :=
  match stopOfLetter? letter with
  | some stop => progress.firstStop stop
  | none => .badUsage (.unknown (String.ofList ['-', letter]))

def takePlain (progress : Progress) (text : String) : Except Stop Progress :=
  match progress.waiting with
  | .forValue flag => .ok ⟨progress.given, .withValue flag text⟩
  | _ => .error (.badUsage (.unknown text))

def close (progress : Progress) : List String → Except Stop Given
  | [] => progress.settle
  | extra :: _ => .error (.badUsage (.unknown extra))

def read (progress : Progress) : List String → Except Stop Given
  | [] => progress.settle
  | text :: rest =>
    match Argument.ofString text with
    | .long name value => do (← progress.takeLong name value).read rest
    | .short letter => .error (progress.takeShort letter)
    | .endOfFlags => progress.close rest
    | .plain => do (← progress.takePlain text).read rest

end Progress

def readArguments (arguments : List String) : Except Stop Given :=
  (Progress.idle Given.empty).read arguments

/-- The variables of an environment. An empty value is a value. -/
abbrev Environment := String → Option String

def fillIn (environment : Environment) (given : Given) (flag : Flag) : Except Stop Given :=
  if given.has flag then .ok given
  else
    match flag.variableName? with
    | none => .ok given
    | some name =>
      match environment name with
      | none => .ok given
      | some value => given.add flag value

def fillInAll (environment : Environment) (given : Given) : List Flag → Except Stop Given
  | [] => .ok given
  | flag :: rest =>
    match fillIn environment given flag with
    | .error stop => .error stop
    | .ok given => fillInAll environment given rest

def given (environment : Environment) (arguments : List String) : Except Stop Given :=
  match readArguments arguments with
  | .error stop => .error stop
  | .ok given => fillInAll environment given Flag.all

def Given.settings (workingDirectory : String) (given : Given) : Settings :=
  (Settings.ofWorkspace
      ((Settings.nonEmpty (given.value? .workspace)).getD workingDirectory))
    |>.withPlatformMap (given.value? .platformMap)
    |>.withRepros (given.value? .repros)
    |>.withStepSummary (given.value? .stepSummary)
    |>.withOutput (given.value? .output)
    |>.withStrictLabels (given.has .strictLabels)

/-! The language -/

/-- Looks for the language in the bare arguments, before they are known to be in order. The first
`--lang` that stands alone goes before any with an inline value. -/
def languageArgument? (arguments : List String) : Option String :=
  match arguments.dropWhile (· != "--lang") with
  | _ :: rest => rest.head?
  | [] =>
    arguments.findSome? fun text =>
      match Argument.ofString text with
      | .long "lang" value => value
      | _ => none

def firstNonEmpty (texts : List String) : Option String := texts.find? fun text => !text.isEmpty

def before (marks : List Char) (text : String) : String :=
  String.ofList (text.toList.takeWhile fun c => c ∉ marks)

/-- The locale that the environment asks for. `LANGUAGE` is a list between colons, and its first
entry decides, even an empty one; each other variable names one locale. An empty variable counts
as absent. -/
def locale? (environment : Environment) : Option String :=
  let value (name : String) := (environment name).getD ""
  if (value "LANGUAGE").isEmpty then
    firstNonEmpty [value "LC_ALL", value "LC_MESSAGES", value "LANG"]
  else some (before [':'] (value "LANGUAGE"))

def localeTag (locale : String) : String :=
  String.ofList ((before ['.', '@'] locale).toList.map fun c => if c = '_' then '-' else c)

def language (environment : Environment) (arguments : List String) : Language :=
  Language.select
    ((languageArgument? arguments <|> (locale? environment).map localeTag).getD
      Language.english.tag)

def forcesColour (environment : Environment) : Bool :=
  match environment "CLICOLOR_FORCE" with
  | none => false
  | some value => value != "0"

end JobMatrix.CommandLine
