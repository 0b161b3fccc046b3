import JobMatrix.Catalog.Document
import JobMatrix.Plan.Listing
import JobMatrix.Plan.Outputs
import JobMatrix.Plan.Summary
import JobMatrix.Repro.Document
import JobMatrix.Script
import JobMatrix.Settings

/-!
One run, from the two documents to the appended results. It stops at the first step that fails, and
every step before it stays done.
-/
namespace JobMatrix

inductive RunFault where
  | platformsUnread (path : String) (fault : FileFault)
  | platformsUnparsed (path : String) (fault : Catalog.DocumentFault)
  | labelContested (reassignment : Reassignment)
  | reprosUnread (path : String) (fault : FileFault)
  | reprosUnparsed (path : String) (fault : Repro.DocumentFault)
  | summaryUnwritten (path : String) (fault : AppendFault)
  | outputsNotWanted
  | outputsUnrendered (fault : Json.WriteFault)
  | outputsUnwritten (path : String) (fault : AppendFault)

namespace RunFault

def message (language : Language) : RunFault → String
  | .platformsUnread path fault =>
    (Notice.platformsUnread path).text language ++ ": " ++ fault.readMessage path
  | .platformsUnparsed path fault =>
    (Notice.platformsUnparsed path).text language ++ ": " ++ fault.message
  | .labelContested reassignment => (Notice.labelContested reassignment).text language
  | .reprosUnread path fault =>
    (Notice.reprosUnread path).text language ++ ": " ++ fault.readMessage path
  | .reprosUnparsed path fault =>
    (Notice.reprosUnparsed path).text language ++ ": " ++ fault.message
  | .summaryUnwritten path fault =>
    (Notice.summaryUnwritten path).text language ++ ": " ++ fault.message path
  | .outputsNotWanted => Notice.outputsNotWanted.text language
  | .outputsUnrendered fault => fault.message
  | .outputsUnwritten path fault =>
    (Notice.outputsUnwritten path).text language ++ ": " ++ fault.message path

def report (screen : Screen) (fault : RunFault) : String :=
  screen.paint .boldRed (screen.say .runFailed ++ ":") ++ " " ++ fault.message screen.language

end RunFault

abbrev RunResult := Except RunFault Plan

namespace Run

def readingCatalog (settings : Settings) (next : Catalog → Script RunResult) : Script RunResult :=
  .read settings.platformMap fun
    | .error fault => .done (.error (.platformsUnread settings.platformMap fault))
    | .ok text =>
      match Catalog.readDocument text with
      | .error fault => .done (.error (.platformsUnparsed settings.platformMap fault))
      | .ok declarations =>
        match Catalog.build settings.strictLabels declarations with
        | .error reassignment => .done (.error (.labelContested reassignment))
        | .ok catalog => next catalog

def readingRepros (settings : Settings) (next : List Repro → Script RunResult) : Script RunResult :=
  .read settings.repros fun
    | .error fault => .done (.error (.reprosUnread settings.repros fault))
    | .ok text =>
      match Repro.readDocument text with
      | .error fault => .done (.error (.reprosUnparsed settings.repros fault))
      | .ok repros => next repros

def appendingSummary (settings : Settings) (screen : Screen) (plan : Plan)
    (next : Script RunResult) : Script RunResult :=
  match settings.stepSummary with
  | none => .display [screen.sayIn .dimmed .summaryNotWanted] next
  | some path =>
    .append path plan.summary fun
      | .error fault => .done (.error (.summaryUnwritten path fault))
      | .ok () => .display [screen.sayIn .green (.summaryWritten path)] next

def appendingOutputs (settings : Settings) (screen : Screen) (plan : Plan)
    (next : Script RunResult) : Script RunResult :=
  match settings.output with
  | none => .done (.error .outputsNotWanted)
  | some path =>
    match plan.renderOutputs with
    | .error fault => .done (.error (.outputsUnrendered fault))
    | .ok outputs =>
      .append path outputs fun
        | .error fault => .done (.error (.outputsUnwritten path fault))
        | .ok () => .display [screen.sayIn .green (.outputsWritten path)] next

end Run

open Run in
/-- The whole run. The summary is appended before the place for the outputs is looked at. -/
def Settings.run (settings : Settings) (screen : Screen) : Script RunResult :=
  .display [screen.say (.workspace settings.workspace),
      screen.say (.readingPlatforms settings.platformMap)] <|
  readingCatalog settings fun catalog =>
  .display [screen.sayIn .cyan (.platformsIndexed catalog.platformCount catalog.labelCount),
      screen.say (.readingRepros settings.repros)] <|
  readingRepros settings fun repros =>
  let plan := catalog.plan repros
  .display (screen.sayIn .cyan (.reprosLoaded repros.length)
      :: (plan.warningLines screen catalog.reassignments ++ plan.matrixLines screen)) <|
  appendingSummary settings screen plan <|
  appendingOutputs settings screen plan <|
  .done (.ok plan)

end JobMatrix
