import JobMatrix.Language

/-!
The flags of the command line. Each may be given once; all but the last take a value.
-/
namespace JobMatrix.CommandLine

inductive Flag where
  | lang
  | workspace
  | platformMap
  | repros
  | stepSummary
  | output
  | strictLabels
  deriving DecidableEq

namespace Flag

def all : List Flag :=
  [lang, workspace, platformMap, repros, stepSummary, output, strictLabels]

def name : Flag → String
  | .lang => "lang"
  | .workspace => "workspace"
  | .platformMap => "platform-map"
  | .repros => "repros"
  | .stepSummary => "step-summary"
  | .output => "output"
  | .strictLabels => "strict-labels"

def valueName? : Flag → Option String
  | .lang => some "LANGUAGE"
  | .workspace => some "WORKSPACE"
  | .platformMap => some "PLATFORM_MAP"
  | .repros => some "REPROS"
  | .stepSummary => some "STEP_SUMMARY"
  | .output => some "OUTPUT"
  | .strictLabels => none

def takesValue (flag : Flag) : Bool := flag.valueName?.isSome

def variableName? : Flag → Option String
  | .workspace => some "GITHUB_WORKSPACE"
  | .stepSummary => some "GITHUB_STEP_SUMMARY"
  | .output => some "GITHUB_OUTPUT"
  | _ => none

/-- A value that is a path may not be empty. -/
def takesPath : Flag → Bool
  | .lang => false
  | .strictLabels => false
  | _ => true

def ofName? (name : String) : Option Flag := all.find? (·.name == name)

def englishHelp : Flag → String
  | .lang => "Language for console messages (e.g. en, zh-CN)."
  | .workspace => "Workspace root containing .github/os-matrix.json and repros.json."
  | .platformMap =>
    "Path to the platform map document (defaults to <workspace>/.github/os-matrix.json)."
  | .repros => "Path to the repro definitions document (defaults to <workspace>/repros.json)."
  | .stepSummary => "File the step summary is appended to."
  | .output => "File the pipeline outputs are appended to."
  | .strictLabels =>
    "Reject platform maps that declare the same label under more than one platform."

def chineseHelp : Flag → String
  | .lang => "控制台消息使用的语言（例如 en、zh-CN）。"
  | .workspace => "包含 .github/os-matrix.json 和 repros.json 的工作区根目录。"
  | .platformMap => "平台映射文档路径（默认为 <workspace>/.github/os-matrix.json）。"
  | .repros => "复现用例定义文档路径（默认为 <workspace>/repros.json）。"
  | .stepSummary => "追加步骤摘要的文件。"
  | .output => "追加流水线输出的文件。"
  | .strictLabels => "拒绝在多个平台下声明同一标签的平台映射。"

def help (language : Language) (flag : Flag) : String :=
  match language with
  | .english => flag.englishHelp
  | .chinese => flag.chineseHelp

end Flag

def programName : String := "repro-matrix"
def programVersion : String := "0.1.0"

def about : Language → String
  | .english => "Composes the repro job matrix for CI from the platform map and repro definitions."
  | .chinese => "根据平台映射和复现用例定义，为 CI 生成复现任务矩阵。"

end JobMatrix.CommandLine
