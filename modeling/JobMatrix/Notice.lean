import JobMatrix.Catalog
import JobMatrix.Language

/-!
Everything a run says to the one who watches it, in each language. What a notice quotes is put in
as it is.
-/
namespace JobMatrix

inductive Notice where
  | workspace (path : String)
  | readingPlatforms (path : String)
  | readingRepros (path : String)
  | platformsIndexed (platforms labels : Nat)
  | reprosLoaded (count : Nat)
  | labelReassigned (reassignment : Reassignment)
  | labelContested (reassignment : Reassignment)
  | jobsCollapsed (count : Nat)
  | matrixBanner
  | noJobs
  | totalJobs (count : Nat)
  | skipsBanner
  | unknownPlatformsBanner
  | unknownLabelsBanner
  | summaryWritten (path : String)
  | summaryNotWanted
  | outputsWritten (path : String)
  | outputsNotWanted
  | platformsUnread (path : String)
  | platformsUnparsed (path : String)
  | reprosUnread (path : String)
  | reprosUnparsed (path : String)
  | summaryUnwritten (path : String)
  | outputsUnwritten (path : String)
  | runFailed
  deriving DecidableEq

namespace Notice

def english : Notice → String
  | .workspace path => "Workspace: " ++ path
  | .readingPlatforms path => "Loading platform map: " ++ path
  | .readingRepros path => "Loading repro definitions: " ++ path
  | .platformsIndexed platforms labels =>
    "Indexed " ++ toString platforms ++ " platform(s) with " ++ toString labels
      ++ " runner label(s)."
  | .reprosLoaded count => "Loaded " ++ toString count ++ " repro definition(s)."
  | .labelReassigned r =>
    "Label '" ++ r.label ++ "' is declared under both '" ++ r.previous ++ "' and '" ++ r.current
      ++ "'; '" ++ r.current ++ "' wins."
  | .labelContested r =>
    "Label '" ++ r.label ++ "' is declared under both '" ++ r.previous ++ "' and '" ++ r.current
      ++ "'."
  | .jobsCollapsed count =>
    "Collapsed " ++ toString count ++ " duplicate job(s) caused by repeated repro names."
  | .matrixBanner => "--- Repro Matrix ---"
  | .noJobs => "No repro jobs were produced."
  | .totalJobs count => "Total repro jobs: " ++ toString count
  | .skipsBanner => "Skipped repros:"
  | .unknownPlatformsBanner => "Unknown platforms encountered:"
  | .unknownLabelsBanner => "Unknown labels encountered:"
  | .summaryWritten path => "Step summary appended to " ++ path
  | .summaryNotWanted => "GITHUB_STEP_SUMMARY is not set; skipping step summary."
  | .outputsWritten path => "Pipeline outputs appended to " ++ path
  | .outputsNotWanted => "GITHUB_OUTPUT is not defined."
  | .platformsUnread path => "Failed to read platform map: " ++ path
  | .platformsUnparsed path => "Failed to parse platform map: " ++ path
  | .reprosUnread path => "Failed to read repro definitions: " ++ path
  | .reprosUnparsed path => "Failed to parse repro definitions: " ++ path
  | .summaryUnwritten path => "Failed to write step summary: " ++ path
  | .outputsUnwritten path => "Failed to write pipeline outputs: " ++ path
  | .runFailed => "Failed to compose repro matrix"

def chinese : Notice → String
  | .workspace path => "工作区：" ++ path
  | .readingPlatforms path => "正在加载平台映射：" ++ path
  | .readingRepros path => "正在加载复现用例定义：" ++ path
  | .platformsIndexed platforms labels =>
    "已索引 " ++ toString platforms ++ " 个平台，共 " ++ toString labels ++ " 个运行器标签。"
  | .reprosLoaded count => "已加载 " ++ toString count ++ " 个复现用例定义。"
  | .labelReassigned r =>
    "标签 '" ++ r.label ++ "' 同时声明在 '" ++ r.previous ++ "' 和 '" ++ r.current ++ "' 下；以 '"
      ++ r.current ++ "' 为准。"
  | .labelContested r =>
    "标签 '" ++ r.label ++ "' 同时声明在 '" ++ r.previous ++ "' 和 '" ++ r.current ++ "' 下。"
  | .jobsCollapsed count => "由于复现用例名称重复，已合并 " ++ toString count ++ " 个重复任务。"
  | .matrixBanner => "--- 复现矩阵 ---"
  | .noJobs => "没有生成任何复现任务。"
  | .totalJobs count => "复现任务总数：" ++ toString count
  | .skipsBanner => "已跳过的复现用例："
  | .unknownPlatformsBanner => "遇到的未知平台："
  | .unknownLabelsBanner => "遇到的未知标签："
  | .summaryWritten path => "步骤摘要已追加到 " ++ path
  | .summaryNotWanted => "未设置 GITHUB_STEP_SUMMARY；跳过步骤摘要。"
  | .outputsWritten path => "流水线输出已追加到 " ++ path
  | .outputsNotWanted => "未定义 GITHUB_OUTPUT。"
  | .platformsUnread path => "读取平台映射失败：" ++ path
  | .platformsUnparsed path => "解析平台映射失败：" ++ path
  | .reprosUnread path => "读取复现用例定义失败：" ++ path
  | .reprosUnparsed path => "解析复现用例定义失败：" ++ path
  | .summaryUnwritten path => "写入步骤摘要失败：" ++ path
  | .outputsUnwritten path => "写入流水线输出失败：" ++ path
  | .runFailed => "生成复现矩阵失败"

def text (language : Language) (notice : Notice) : String :=
  match language with
  | .english => notice.english
  | .chinese => notice.chinese

end Notice
end JobMatrix
