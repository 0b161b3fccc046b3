import JobMatrix.Proofs.Plan.Jobs

/-!
One ledger for many repros. A repro comes to the same outcome in a ledger that others have used as
in one of its own, and the ledger holds what was recorded, in order, and the unknown names of all
that was resolved, recorded or not.
-/
namespace JobMatrix.Ledger

structure Turn where
  repro : Repro
  times : Nat

def take (catalog : Catalog) (turn : Turn) (ledger : Ledger) : Outcome × Ledger :=
  let (outcome, noted) := ledger.resolve catalog turn.repro
  (outcome, noted.recordTimes outcome turn.times)

/-- Each outcome of some turns in one ledger, with the ledger as it then stands. -/
def takeEach (catalog : Catalog) (ledger : Ledger) : List Turn → List (Outcome × Ledger)
  | [] => []
  | turn :: rest =>
    let taken := ledger.take catalog turn
    taken :: takeEach catalog taken.2 rest

/-- What some turns record if each repro has a ledger of its own. -/
def recorded (catalog : Catalog) (turns : List Turn) : List Outcome :=
  turns.flatMap fun turn => List.replicate turn.times (catalog.alone turn.repro).1

/-- The ledger holds what the turns come to, and nothing else. -/
structure Accounts (catalog : Catalog) (turns : List Turn) (ledger : Ledger) : Prop where
  jobs : ledger.jobs = (recorded catalog turns).flatMap Outcome.jobs
  skips : ledger.findings.skips = (recorded catalog turns).filterMap Outcome.skip?
  platforms : ∀ name, name ∈ ledger.findings.unknown.platforms ↔
    ∃ turn ∈ turns, name ∈ (catalog.missing turn.repro).platforms
  labels : ∀ name, name ∈ ledger.findings.unknown.labels ↔
    ∃ turn ∈ turns, name ∈ (catalog.missing turn.repro).labels

variable {catalog : Catalog} {ledger : Ledger}

/-! Recording -/

theorem recordTimes_eq_foldl (outcome : Outcome) (times : Nat) :
    ledger.recordTimes outcome times = (List.replicate times outcome).foldl record ledger := by
  induction times generalizing ledger with
  | zero => rfl
  | succ times ih => rw [recordTimes, ih, List.replicate_succ, List.foldl_cons]

theorem foldl_record_jobs (outcomes : List Outcome) : (outcomes.foldl record ledger).jobs =
    ledger.jobs ++ outcomes.flatMap Outcome.jobs := by
  induction outcomes generalizing ledger with
  | nil => simp
  | cons outcome outcomes ih =>
    rw [List.foldl_cons, ih, record_jobs, List.flatMap_cons, List.append_assoc]

theorem foldl_record_skips (outcomes : List Outcome) :
    (outcomes.foldl record ledger).findings.skips =
      ledger.findings.skips ++ outcomes.filterMap Outcome.skip? := by
  induction outcomes generalizing ledger with
  | nil => simp
  | cons outcome outcomes ih =>
    rw [List.foldl_cons, ih, record_skips, List.append_assoc]
    cases outcome with
    | scheduled jobs => rfl
    | skipped skip => rfl

theorem foldl_record_unknown (outcomes : List Outcome) :
    (outcomes.foldl record ledger).findings.unknown = ledger.findings.unknown := by
  induction outcomes generalizing ledger with
  | nil => rfl
  | cons outcome outcomes ih => rw [List.foldl_cons, ih, record_unknown]

/-! Resolving -/

theorem resolve_outcome (repro : Repro) :
    (ledger.resolve catalog repro).1 = (catalog.alone repro).1 := by
  rw [resolve_eq]
  rfl

theorem resolve_ledger (repro : Repro) :
    (ledger.resolve catalog repro).2 = ledger.noting (catalog.missing repro) := by
  rw [resolve_eq, Catalog.resolve_unknown]

/-! Turns -/

theorem recorded_concat (turns : List Turn) (turn : Turn) : recorded catalog (turns ++ [turn]) =
    recorded catalog turns ++ List.replicate turn.times (catalog.alone turn.repro).1 := by
  rw [recorded, List.flatMap_append, List.flatMap_singleton]
  rfl

theorem accounts_empty : Accounts catalog [] empty where
  jobs := rfl
  skips := rfl
  platforms := by
    intro name
    simp [empty, Findings.none, Unknowns.none, NameSet.not_mem_empty]
  labels := by
    intro name
    simp [empty, Findings.none, Unknowns.none, NameSet.not_mem_empty]

theorem accounts_take {turns : List Turn} (accounts : Accounts catalog turns ledger)
    (turn : Turn) : Accounts catalog (turns ++ [turn]) (ledger.take catalog turn).2 := by
  have outcome : (ledger.resolve catalog turn.repro).1 = (catalog.alone turn.repro).1 :=
    resolve_outcome turn.repro
  have taken : (ledger.take catalog turn).2 =
      (List.replicate turn.times (catalog.alone turn.repro).1).foldl record
        (ledger.noting (catalog.missing turn.repro)) := by
    rw [← resolve_ledger, ← outcome]
    exact recordTimes_eq_foldl _ _
  constructor
  case jobs =>
    rw [taken, foldl_record_jobs, recorded_concat, List.flatMap_append, ← accounts.jobs]
    rfl
  case skips =>
    rw [taken, foldl_record_skips, recorded_concat, List.filterMap_append, ← accounts.skips]
    rfl
  case platforms =>
    intro name
    rw [taken, foldl_record_unknown, noting, Unknowns.mem_union_platforms, accounts.platforms]
    simp
  case labels =>
    intro name
    rw [taken, foldl_record_unknown, noting, Unknowns.mem_union_labels, accounts.labels]
    simp

theorem accounts_takeEach {done : List Turn} (accounts : Accounts catalog done ledger)
    (before : List Turn) (turn : Turn) (after : List Turn) :
    ∃ standing, (ledger.takeEach catalog (before ++ turn :: after))[before.length]? =
        some ((catalog.alone turn.repro).1, standing) ∧
      Accounts catalog (done ++ before ++ [turn]) standing := by
  induction before generalizing ledger done with
  | nil =>
    rw [List.append_nil]
    have outcome : (ledger.take catalog turn).1 = (catalog.alone turn.repro).1 :=
      resolve_outcome turn.repro
    exact ⟨(ledger.take catalog turn).2, congrArg some (Prod.ext outcome rfl),
      accounts_take accounts turn⟩
  | cons first before ih =>
    obtain ⟨standing, found, holds⟩ := ih (accounts_take accounts first)
    rw [List.append_assoc done, List.singleton_append] at holds
    exact ⟨standing, found, holds⟩

theorem Accounts.holds_cause {turns : List Turn} (accounts : Accounts catalog turns ledger)
    {turn : Turn} (among : turn ∈ turns) {skip : Skip}
    (skipped : (catalog.alone turn.repro).1 = .skipped skip) :
    (∀ name ∈ skip.cause.unknown.platforms, name ∈ ledger.findings.unknown.platforms) ∧
      ∀ name ∈ skip.cause.unknown.labels, name ∈ ledger.findings.unknown.labels := by
  have cause : skip.cause.unknown = catalog.missing turn.repro := by
    have found : (catalog.resolve turn.repro).outcome.skip? = some skip := by
      rw [show (catalog.resolve turn.repro).outcome = .skipped skip from skipped, Outcome.skip?]
    rw [Catalog.resolve_skip?] at found
    split at found
    · rw [← Option.some.inj found]
    · cases found
  rw [cause]
  constructor
  · intro name member
    exact (accounts.platforms name).mpr ⟨turn, among, member⟩
  · intro name member
    exact (accounts.labels name).mpr ⟨turn, among, member⟩

/-- However the turns are mixed, each repro comes to the outcome that it has alone, the names that
it refers to in vain are noted for it and in the ledger, and the ledger holds at every point just
what the turns so far have come to. -/
theorem turns_add_up (catalog : Catalog) :
    (∀ (ledger : Ledger) (repro : Repro),
      (ledger.resolve catalog repro).1 = (catalog.alone repro).1 ∧
      (ledger.resolve catalog repro).2.jobs = ledger.jobs ∧
      (ledger.resolve catalog repro).2.findings.skips = ledger.findings.skips ∧
      (catalog.select repro ledger).notes.unknown = catalog.missing repro ∧
      (∀ name, name ∈ (ledger.resolve catalog repro).2.findings.unknown.platforms ↔
        name ∈ ledger.findings.unknown.platforms ∨ name ∈ (catalog.missing repro).platforms) ∧
      ∀ name, name ∈ (ledger.resolve catalog repro).2.findings.unknown.labels ↔
        name ∈ ledger.findings.unknown.labels ∨ name ∈ (catalog.missing repro).labels) ∧
    ∀ (before : List Turn) (turn : Turn) (after : List Turn),
      ∃ standing, (empty.takeEach catalog (before ++ turn :: after))[before.length]? =
          some ((catalog.alone turn.repro).1, standing) ∧
        Accounts catalog (before ++ [turn]) standing ∧
        ∀ other ∈ before ++ [turn], ∀ skip, (catalog.alone other.repro).1 = .skipped skip →
          (∀ name ∈ skip.cause.unknown.platforms,
            name ∈ standing.findings.unknown.platforms) ∧
          ∀ name ∈ skip.cause.unknown.labels, name ∈ standing.findings.unknown.labels := by
  constructor
  · intro ledger repro
    rw [resolve_ledger, Catalog.select_notes]
    exact ⟨resolve_outcome repro, rfl, rfl, rfl, fun _ => Unknowns.mem_union_platforms,
      fun _ => Unknowns.mem_union_labels⟩
  · intro before turn after
    obtain ⟨standing, found, accounts⟩ := accounts_takeEach accounts_empty before turn after
    rw [List.nil_append] at accounts
    refine ⟨standing, found, accounts, ?_⟩
    intro other among skip skipped
    exact accounts.holds_cause among skipped

/-- A repro for a platform that is not there, never recorded, after one recorded twice. -/
def strayTurns : List Turn :=
  [⟨⟨"s", ∅, Limits.none⟩, 2⟩, ⟨⟨"t", NameSet.ofList ["bsd"], Limits.none⟩, 0⟩]

def straySkip : Skip :=
  ⟨"t", NameSet.ofList ["bsd"], false, NameSet.ofList ["bsd"], ∅⟩

theorem stray_platform_noted :
    ((Catalog.ofDeclarations [("linux", ["a"])]).alone
      ⟨"t", NameSet.ofList ["bsd"], Limits.none⟩).1 = .skipped straySkip ∧
    ∃ standing, (empty.takeEach (Catalog.ofDeclarations [("linux", ["a"])]) strayTurns)[1]? =
        some (.skipped straySkip, standing) ∧
      standing.jobs = [⟨"a", "s", "linux"⟩, ⟨"a", "s", "linux"⟩] ∧
      standing.findings.skips = [] ∧ "bsd" ∈ standing.findings.unknown.platforms := by
  have skipped : ((Catalog.ofDeclarations [("linux", ["a"])]).alone
      ⟨"t", NameSet.ofList ["bsd"], Limits.none⟩).1 = .skipped straySkip := by decide
  obtain ⟨standing, found, accounts, causes⟩ :=
    (turns_add_up (Catalog.ofDeclarations [("linux", ["a"])])).2
      [⟨⟨"s", ∅, Limits.none⟩, 2⟩] ⟨⟨"t", NameSet.ofList ["bsd"], Limits.none⟩, 0⟩ []
  rw [skipped] at found
  have noted := (causes _ (List.mem_append_right _ List.mem_cons_self) straySkip skipped).1
  refine ⟨skipped, standing, found, ?_, ?_, noted "bsd" (by decide)⟩
  · rw [accounts.jobs]
    decide
  · rw [accounts.skips]
    decide

end JobMatrix.Ledger
