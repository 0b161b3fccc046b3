import JobMatrix.Json.Writer
import JobMatrix.Lines
import JobMatrix.Plan

/-!
The pipeline outputs: one line each for the matrix, the number of jobs and the skip lines. The
two lists are JSON text, which holds no line feed whatever the names hold.
-/
namespace JobMatrix

def Job.toJson (job : Job) : Json :=
  .object [("os", .string job.label), ("repro", .string job.repro),
    ("platform", .string job.platform)]

namespace Plan

def matrixJson (plan : Plan) : Json := .object [("include", .array (plan.jobs.map Job.toJson))]

def skipsJson (plan : Plan) : Json :=
  .array (plan.findings.skips.map fun skip => .string skip.line)

def renderOutputs (plan : Plan) : Except Json.WriteFault String := do
  let matrix ← plan.matrixJson.toSpacedJson
  let skipped ← plan.skipsJson.toSpacedJson
  return linesText ["matrix=" ++ matrix, "count=" ++ toString plan.count, "skipped=" ++ skipped]

end Plan
end JobMatrix
