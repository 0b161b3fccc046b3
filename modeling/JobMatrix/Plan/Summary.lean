import JobMatrix.Lines
import JobMatrix.Plan

/-!
The step summary: the number of jobs, and after a blank line each list that is not empty. Its
words are the same in every language.
-/
namespace JobMatrix

namespace Summary

def total (count : Nat) : String := "Total repro jobs: " ++ toString count
def skipTitle : String := "Skipped repros:"
def platformTitle : String := "Unknown platforms encountered:"
def labelTitle : String := "Unknown labels encountered:"
def item (text : String) : String := "- " ++ text

def titled (title : String) (items : List String) : List String :=
  if items.isEmpty then [] else "" :: title :: items.map item

end Summary

open Summary in
def Plan.summaryLines (plan : Plan) : List String :=
  total plan.count ::
    (titled skipTitle (plan.findings.skips.map Skip.line)
      ++ titled platformTitle plan.findings.unknown.platforms.toList
      ++ titled labelTitle plan.findings.unknown.labels.toList)

def Plan.summary (plan : Plan) : String := linesText plan.summaryLines

end JobMatrix
