import JobMatrix.Skip

/-!
What a run has come to so far. One ledger goes through the whole run: the unknown names are written
into it where they are met, jobs and skips when the outcome of a repro is recorded.
-/
namespace JobMatrix

structure Job where
  label : String
  repro : String
  platform : String
  deriving DecidableEq

inductive Outcome where
  /-- One job for each label that is left, by ascending label. -/
  | scheduled (jobs : List Job)
  | skipped (skip : Skip)
  deriving DecidableEq

structure Findings where
  skips : List Skip
  unknown : Unknowns
  deriving DecidableEq

def Findings.none : Findings := ⟨[], Unknowns.none⟩

structure Ledger where
  jobs : List Job
  findings : Findings
  deriving DecidableEq

namespace Ledger

def empty : Ledger := ⟨[], Findings.none⟩

def note (add : Unknowns → String → Unknowns) (ledger : Ledger) (name : String) : Ledger :=
  { ledger with
    findings := { ledger.findings with unknown := add ledger.findings.unknown name } }

def record (ledger : Ledger) : Outcome → Ledger
  | .scheduled jobs => { ledger with jobs := ledger.jobs ++ jobs }
  | .skipped skip =>
    { ledger with findings := { ledger.findings with skips := ledger.findings.skips ++ [skip] } }

end Ledger
end JobMatrix
