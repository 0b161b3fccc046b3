import JobMatrix.Resolution

/-!
The plan of a whole run: every repro is resolved in turn into a ledger, then the jobs are sorted by
repro and label, and of several jobs with the same repro and label one is kept.
-/
namespace JobMatrix

namespace Ledger

def recordTimes (ledger : Ledger) (outcome : Outcome) : Nat → Ledger
  | 0 => ledger
  | times + 1 => (ledger.record outcome).recordTimes outcome times

def enter (catalog : Catalog) (ledger : Ledger) (repro : Repro) : Ledger :=
  let (outcome, ledger) := ledger.resolve catalog repro
  ledger.record outcome

def ofRepros (catalog : Catalog) (repros : List Repro) : Ledger :=
  repros.foldl (enter catalog) empty

end Ledger

namespace Job

def slot (job : Job) : String × String := (job.repro, job.label)

def notAfter (a b : Job) : Bool :=
  if a.repro < b.repro then true
  else if b.repro < a.repro then false
  else decide (a.label ≤ b.label)

/-- Keeps the first job of each run of jobs with one slot; `kept` opens the first run. -/
def collapseAfter (kept : Job) : List Job → List Job
  | [] => [kept]
  | job :: rest =>
    if job.slot = kept.slot then collapseAfter kept rest else kept :: collapseAfter job rest

def collapse : List Job → List Job
  | [] => []
  | job :: rest => collapseAfter job rest

end Job

structure Plan where
  jobs : List Job
  findings : Findings
  /-- How many jobs were dropped because another one has their repro and label. -/
  collapsed : Nat
  deriving DecidableEq

def Plan.count (plan : Plan) : Nat := plan.jobs.length

def Ledger.plan (ledger : Ledger) : Plan :=
  let sorted := ledger.jobs.mergeSort Job.notAfter
  let jobs := Job.collapse sorted
  ⟨jobs, ledger.findings, sorted.length - jobs.length⟩

def Catalog.plan (catalog : Catalog) (repros : List Repro) : Plan :=
  (Ledger.ofRepros catalog repros).plan

end JobMatrix
