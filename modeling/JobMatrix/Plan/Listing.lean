import JobMatrix.Notice
import JobMatrix.Plan
import JobMatrix.Screen

/-!
The lines a run shows: first what is odd about the documents, then the matrix.
-/
namespace JobMatrix

namespace Screen

def say (screen : Screen) (notice : Notice) : String := notice.text screen.language

def sayIn (screen : Screen) (style : Style) (notice : Notice) : String :=
  screen.paint style (screen.say notice)

def listed (text : String) : String := "  - " ++ text

def bannered (screen : Screen) (style : Style) (banner : Notice) (items : List String) :
    List String :=
  if items.isEmpty then [] else "" :: screen.sayIn style banner :: items.map listed

def jobLine (screen : Screen) (job : Job) : String :=
  listed (padded 40 job.repro ++ " | " ++ screen.paintPadded .cyan 20 job.label ++ " | "
    ++ screen.paint .dimmed job.platform)

end Screen

namespace Plan

def warningLines (plan : Plan) (screen : Screen) (reassignments : List Reassignment) :
    List String :=
  reassignments.map (fun r => screen.sayIn .yellow (.labelReassigned r))
    ++ (if plan.collapsed = 0 then [] else [screen.sayIn .yellow (.jobsCollapsed plan.collapsed)])
    ++ screen.bannered .boldYellow .skipsBanner (plan.findings.skips.map Skip.line)
    ++ screen.bannered .red .unknownPlatformsBanner plan.findings.unknown.platforms.toList
    ++ screen.bannered .red .unknownLabelsBanner plan.findings.unknown.labels.toList

def matrixLines (plan : Plan) (screen : Screen) : List String :=
  ["", screen.sayIn .bold .matrixBanner]
    ++ (if plan.jobs.isEmpty then [screen.sayIn .yellow .noJobs] else [])
    ++ plan.jobs.map screen.jobLine
    ++ [screen.sayIn .boldGreen (.totalJobs plan.count)]

end Plan
end JobMatrix
