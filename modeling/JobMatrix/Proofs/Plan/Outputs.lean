import JobMatrix.Plan.Outputs
import JobMatrix.Proofs.Json.RoundTrip
import JobMatrix.Proofs.Json.Writing

/-!
The pipeline outputs read back. Whatever the names of a plan hold, the text is three lines of
visible ASCII, so no name can end a line or begin an output of its own, and the two JSON texts give
back every job and every skip line.
-/
namespace JobMatrix

open Json

theorem Job.toJson_readable (job : Job) (depth : Nat) : Readable (depth + 1) job.toJson := by
  apply Readable.object (by simp [Table.names])
  intro member among
  simp only [List.mem_cons, List.not_mem_nil, or_false] at among
  rcases among with rfl | rfl | rfl
  · exact .string job.label
  · exact .string job.repro
  · exact .string job.platform

namespace Plan

theorem matrixJson_readable (plan : Plan) (depth : Nat) :
    Readable (depth + 3) plan.matrixJson := by
  apply Readable.object (by simp [Table.names])
  intro member among
  obtain rfl := List.mem_singleton.mp among
  apply Readable.array
  intro value inside
  obtain ⟨job, _, rfl⟩ := List.mem_map.mp inside
  exact job.toJson_readable depth

theorem skipsJson_readable (plan : Plan) (depth : Nat) :
    Readable (depth + 1) plan.skipsJson := by
  apply Readable.array
  intro value inside
  obtain ⟨skip, _, rfl⟩ := List.mem_map.mp inside
  exact .string skip.line

theorem count_visible (n : Nat) : ∀ c ∈ (toString n).toList, Visible c := by
  intro c member
  rw [Nat.toString_eq_ofList_toDigits, String.toList_ofList] at member
  exact digit_visible (digit_of_mem_toDigits member)

theorem render_visible {depth : Nat} {value : Json} (readable : Readable depth value) :
    ∀ c ∈ value.render.toList, Visible c := by
  rw [render, String.toList_ofList]
  exact print_visible readable

def outputs (plan : Plan) : String :=
  linesText ["matrix=" ++ plan.matrixJson.render, "count=" ++ toString plan.count,
    "skipped=" ++ plan.skipsJson.render]

theorem renderOutputs_eq (plan : Plan) : plan.renderOutputs = .ok plan.outputs := by
  rw [renderOutputs, toSpacedJson_eq, toSpacedJson_eq]
  rfl

theorem outputs_eq (plan : Plan) : plan.outputs =
    "matrix=" ++ plan.matrixJson.render ++ "\n" ++ "count=" ++ toString plan.count ++ "\n" ++
      "skipped=" ++ plan.skipsJson.render ++ "\n" := by
  simp only [outputs, linesText, endedLine, List.map_cons, List.map_nil, String.join_cons,
    String.join_nil, String.append_empty, String.append_assoc]

/-- The outputs can always be rendered. They are three lines of visible ASCII, and they tell the
jobs, their number and the skips. -/
theorem outputs_read_back (plan : Plan) : ∃ matrix count skipped : String,
    plan.renderOutputs = .ok plan.outputs ∧
    plan.outputs = "matrix=" ++ matrix ++ "\n" ++ "count=" ++ count ++ "\n" ++
      "skipped=" ++ skipped ++ "\n" ∧
    (∀ c ∈ ("matrix=" ++ matrix ++ "count=" ++ count ++ "skipped=" ++ skipped).toList,
      ' ' ≤ c ∧ c ≤ '~') ∧
    read matrix = .ok (.object [("include", .array (plan.jobs.map fun job =>
      .object [("os", .string job.label), ("repro", .string job.repro),
        ("platform", .string job.platform)]))]) ∧
    count = toString plan.jobs.length ∧
    read skipped = .ok (.array (plan.findings.skips.map fun skip => .string skip.line)) := by
  have matrix := plan.matrixJson_readable 124
  have skipped := plan.skipsJson_readable 126
  refine ⟨plan.matrixJson.render, toString plan.count, plan.skipsJson.render,
    plan.renderOutputs_eq, plan.outputs_eq, ?_, read_render matrix, rfl, read_render skipped⟩
  intro c member
  simp only [String.toList_append, List.mem_append, or_assoc] at member
  rcases member with key | inMatrix | key | inCount | key | inSkipped
  · exact visible_of_all (by decide) c key
  · exact render_visible matrix c inMatrix
  · exact visible_of_all (by decide) c key
  · exact count_visible plan.count c inCount
  · exact visible_of_all (by decide) c key
  · exact render_visible skipped c inSkipped

end Plan
end JobMatrix
