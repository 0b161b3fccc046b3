import JobMatrix.Proofs.Plan.Jobs
import JobMatrix.Proofs.Plan.Outputs
import JobMatrix.Proofs.Resolution.Agreement
import JobMatrix.Proofs.Resolution.References

/-!
Plans and the order of the documents. Sorting settles the order of the jobs by their slots, and all
else but the list of skips is a count or a set, so the order of the repros only moves skips. The
order of the platforms does not even do that, where no declaration replaces another.
-/
namespace JobMatrix

/-- Plans that differ at most in the order of their skips. -/
structure Plan.Alike (plan other : Plan) : Prop where
  jobs : other.jobs = plan.jobs
  collapsed : other.collapsed = plan.collapsed
  unknown : other.findings.unknown = plan.findings.unknown
  skips : other.findings.skips.Perm plan.findings.skips

theorem Job.eq_of_ascending {jobs others : List Job} (ascending : jobs.Pairwise Before)
    (also : others.Pairwise Before) (same : ∀ job, job ∈ jobs ↔ job ∈ others) :
    jobs = others := by
  have distinct {list : List Job} (sorted : list.Pairwise Before) : list.Nodup := by
    apply sorted.imp
    intro a b before same
    exact before_irrefl a (same ▸ before)
  have perm : jobs.Perm others :=
    (List.perm_ext_iff_of_nodup (distinct ascending) (distinct also)).mpr same
  apply perm.eq_of_pairwise _ ascending also
  intro a b _ _ before after
  exact absurd (before_trans before after) (before_irrefl a)

theorem Ledger.surplus_of_perm {jobs others : List Job} (perm : jobs.Perm others) :
    surplus jobs = surplus others := by
  rw [surplus_eq_length_sub, surplus_eq_length_sub, perm.length_eq,
    List.toFinset_eq_of_perm _ _ (perm.map Job.slot)]

namespace Catalog

variable {catalog : Catalog} {repros others : List Repro}

theorem plan_jobs_of_perm (perm : repros.Perm others) :
    (catalog.plan repros).jobs = (catalog.plan others).jobs := by
  have ascending (repros : List Repro) : (catalog.plan repros).jobs.Pairwise Job.Before :=
    Ledger.plan_ascending
  apply Job.eq_of_ascending (ascending repros) (ascending others)
  intro job
  rw [mem_plan_jobs, mem_plan_jobs]
  exact (perm.flatMap_right _).mem_iff

theorem plan_collapsed_of_perm (perm : repros.Perm others) :
    (catalog.plan repros).collapsed = (catalog.plan others).collapsed := by
  rw [plan, plan, Ledger.plan_collapsed, Ledger.plan_collapsed, ofRepros_jobs, ofRepros_jobs]
  exact Ledger.surplus_of_perm (perm.flatMap_right _)

theorem plan_unknown_of_perm (perm : repros.Perm others) :
    (catalog.plan repros).findings.unknown = (catalog.plan others).findings.unknown := by
  apply Unknowns.eq_of_sides
  intro side none union name
  simp only [mem_plan_side side none union, perm.mem_iff]

theorem plan_skips_of_perm (perm : repros.Perm others) :
    (catalog.plan repros).findings.skips.Perm (catalog.plan others).findings.skips := by
  rw [plan_skips, plan_skips]
  exact perm.filterMap _

theorem plan_alike_of_perm (perm : repros.Perm others) :
    (catalog.plan repros).Alike (catalog.plan others) where
  jobs := plan_jobs_of_perm perm.symm
  collapsed := plan_collapsed_of_perm perm.symm
  unknown := plan_unknown_of_perm perm.symm
  skips := plan_skips_of_perm perm.symm

end Catalog

namespace Plan

theorem not_newline_of_visible {text : String} (visible : ∀ c ∈ text.toList, Json.Visible c) :
    '\n' ∉ text.toList := by
  intro member
  exact absurd (visible '\n' member) (by decide)

def SameMatrix (outputs other : String) : Prop :=
  ∃ matrix count skipped otherSkipped : String,
    outputs = "matrix=" ++ matrix ++ "\n" ++ "count=" ++ count ++ "\n" ++
      "skipped=" ++ skipped ++ "\n" ∧
    other = "matrix=" ++ matrix ++ "\n" ++ "count=" ++ count ++ "\n" ++
      "skipped=" ++ otherSkipped ++ "\n" ∧
    ∀ text ∈ [matrix, count, skipped, otherSkipped], '\n' ∉ text.toList

theorem outputs_of_alike {plan other : Plan} (alike : plan.Alike other) :
    SameMatrix plan.outputs other.outputs := by
  have matrix : other.matrixJson = plan.matrixJson := by
    rw [matrixJson, alike.jobs, matrixJson]
  have count : other.count = plan.count := by rw [Plan.count, alike.jobs, Plan.count]
  refine ⟨plan.matrixJson.render, toString plan.count, plan.skipsJson.render,
    other.skipsJson.render, plan.outputs_eq, ?_, ?_⟩
  · rw [← matrix, ← count]
    exact other.outputs_eq
  · intro text member
    apply not_newline_of_visible
    simp only [List.mem_cons, List.not_mem_nil, or_false] at member
    rcases member with rfl | rfl | rfl | rfl
    · exact render_visible (plan.matrixJson_readable 0)
    · exact count_visible plan.count
    · exact render_visible (plan.skipsJson_readable 0)
    · exact render_visible (other.skipsJson_readable 0)

end Plan

namespace Catalog

/-- Where no declaration replaces another, neither the order and spelling of the platforms nor the
order of the repros tells in a plan, but for the order of its skips. -/
theorem plan_of_rearranged {declarations others : Declarations} {repros permuted : List Repro}
    (distinct : (lowercaseNames declarations).Nodup)
    (quiet : (ofDeclarations declarations).reassignments = [])
    (rearranged : Rearranged declarations others) (perm : repros.Perm permuted) :
    (ofDeclarations others).reassignments = [] ∧
    ((ofDeclarations declarations).plan repros).Alike ((ofDeclarations others).plan permuted) ∧
    Plan.SameMatrix ((ofDeclarations declarations).plan repros).outputs
      ((ofDeclarations others).plan permuted).outputs := by
  have settled := reassignments_eq_nil_iff.mp quiet
  have still := settled_of_rearranged rearranged settled
  have agrees := agrees_of_rearranged distinct settled rearranged
  have alike : ((ofDeclarations declarations).plan repros).Alike
      ((ofDeclarations others).plan permuted) := by
    rw [agrees.plan]
    exact plan_alike_of_perm perm
  exact ⟨reassignments_eq_nil_iff.mpr still, alike, Plan.outputs_of_alike alike⟩

def twoPlatforms : Declarations := [("Linux", ["a", "b"]), ("macOS", ["m"])]

def twoPlatformsRespelled : Declarations := [("MACOS", ["m", "m"]), ("linux", ["b", "a", "b"])]

def everywhere (name : String) : Repro := ⟨name, ∅, Limits.none⟩

def only (name platform : String) : Repro := ⟨name, NameSet.ofList [platform], Limits.none⟩

theorem plan_of_two_platforms :
    (lowercaseNames twoPlatforms).Nodup ∧ (ofDeclarations twoPlatforms).reassignments = [] ∧
    Rearranged twoPlatforms twoPlatformsRespelled ∧
    [everywhere "p", only "q" "bsd", only "r" "qnx"].Perm
      [only "q" "bsd", everywhere "p", only "r" "qnx"] ∧
    ((ofDeclarations twoPlatforms).plan [everywhere "p", only "q" "bsd", only "r" "qnx"]).Alike
      ((ofDeclarations twoPlatformsRespelled).plan
        [only "q" "bsd", everywhere "p", only "r" "qnx"]) := by
  have distinct : (lowercaseNames twoPlatforms).Nodup := by decide
  have quiet : (ofDeclarations twoPlatforms).reassignments = [] := by decide
  have rearranged : Rearranged twoPlatforms twoPlatformsRespelled := by
    refine ⟨[("macOS", ["m"]), ("Linux", ["a", "b"])], List.Perm.swap _ _ _, ?_⟩
    apply List.Forall₂.cons
    · exact ⟨by decide, by simp⟩
    · exact .cons ⟨by decide, by grind⟩ .nil
  have perm := List.Perm.swap (only "q" "bsd") (everywhere "p") [only "r" "qnx"]
  exact ⟨distinct, quiet, rearranged, perm, (plan_of_rearranged distinct quiet rearranged perm).2.1⟩

end Catalog
end JobMatrix
