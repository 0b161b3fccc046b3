import Mathlib
import JobMatrix.Proofs.Catalog.Settled
import JobMatrix.Proofs.Files.Append
import JobMatrix.Proofs.Plan.Outputs
import JobMatrix.Run

/-!
What a run comes to, step by step. Each step is told by the tree of files before the run, so the
first step that fails settles both the fault of a run and the files it leaves.
-/
namespace JobMatrix

inductive Step where
  | readPlatforms
  | parsePlatforms
  | checkLabels
  | readRepros
  | parseRepros
  | appendSummary
  | findOutput
  | appendOutputs
  deriving DecidableEq

namespace Step

def order : List Step :=
  [readPlatforms, parsePlatforms, checkLabels, readRepros, parseRepros, appendSummary, findOutput,
    appendOutputs]

def earlier (step : Step) : List Step := order.takeWhile (· ≠ step)

theorem earlier_or_eq_or_earlier (step other : Step) :
    step ∈ other.earlier ∨ step = other ∨ other ∈ step.earlier := by
  cases step <;> cases other <;> decide

theorem earlier_subset {step other : Step} (before : other ∈ step.earlier) :
    other.earlier ⊆ step.earlier := by
  revert before
  cases step <;> cases other <;> decide

theorem earlier_or_eq_last (step : Step) :
    step ∈ appendOutputs.earlier ∨ step = appendOutputs := by
  cases step <;> decide

end Step

def fault? {ε α : Type} : Except ε α → Option ε
  | .error fault => some fault
  | .ok _ => none

@[simp] theorem fault?_error {ε α : Type} (fault : ε) :
    fault? (.error fault : Except ε α) = some fault := rfl

@[simp] theorem fault?_ok {ε α : Type} (value : α) : fault? (.ok value : Except ε α) = none := rfl

namespace Settings

variable (settings : Settings) (tree : FileTree)

def declarationsIn : Option (List (String × List String)) := do
  let text ← (tree.read settings.platformMap).toOption
  (Catalog.readDocument text).toOption

def reprosIn : Option (List Repro) := do
  let text ← (tree.read settings.repros).toOption
  (Repro.readDocument text).toOption

def planIn : Option Plan := do
  let declarations ← settings.declarationsIn tree
  let repros ← settings.reprosIn tree
  return (Catalog.ofDeclarations declarations).plan repros

def summarize (plan : Plan) : Except AppendFault FileTree :=
  match settings.stepSummary with
  | none => .ok tree
  | some path => tree.append path plan.summary

/-- How a step fails that is reached in a run on the tree. -/
def faultAt : Step → Option RunFault
  | .readPlatforms => do
    let fault ← fault? (tree.read settings.platformMap)
    return .platformsUnread settings.platformMap fault
  | .parsePlatforms => do
    let text ← (tree.read settings.platformMap).toOption
    let fault ← fault? (Catalog.readDocument text)
    return .platformsUnparsed settings.platformMap fault
  | .checkLabels => do
    let declarations ← settings.declarationsIn tree
    let first ← Catalog.contested? settings.strictLabels declarations
    return .labelContested first
  | .readRepros => do
    let fault ← fault? (tree.read settings.repros)
    return .reprosUnread settings.repros fault
  | .parseRepros => do
    let text ← (tree.read settings.repros).toOption
    let fault ← fault? (Repro.readDocument text)
    return .reprosUnparsed settings.repros fault
  | .appendSummary => do
    let plan ← settings.planIn tree
    let path ← settings.stepSummary
    let fault ← fault? (tree.append path plan.summary)
    return .summaryUnwritten path fault
  | .findOutput => if settings.output = none then some .outputsNotWanted else none
  | .appendOutputs => do
    let plan ← settings.planIn tree
    let summarized ← (settings.summarize tree plan).toOption
    let path ← settings.output
    let fault ← fault? (summarized.append path plan.outputs)
    return .outputsUnwritten path fault

def Reaches (step : Step) : Prop := ∀ earlier ∈ step.earlier, settings.faultAt tree earlier = none

def Completes (step : Step) : Prop :=
  settings.Reaches tree step ∧ settings.faultAt tree step = none

def FailsFirst (step : Step) (fault : RunFault) : Prop :=
  settings.Reaches tree step ∧ settings.faultAt tree step = some fault

end Settings

namespace Script

variable {α : Type}

/-- What a script comes to, but for what it shows. -/
def ending (tree : FileTree) (script : Script α) : α × FileTree :=
  ((script.perform tree).result, (script.perform tree).tree)

theorem ending_done (tree : FileTree) (result : α) :
    (done result).ending tree = (result, tree) := rfl

theorem ending_display (tree : FileTree) (lines : List String) (next : Script α) :
    (display lines next).ending tree = next.ending tree := rfl

theorem ending_read (tree : FileTree) (path : String)
    (next : Except FileFault String → Script α) :
    (read path next).ending tree = (next (tree.read path)).ending tree := rfl

theorem ending_append_ok {tree after : FileTree} {path text : String}
    (appended : tree.append path text = .ok after) (next : Except AppendFault Unit → Script α) :
    (append path text next).ending tree = (next (.ok ())).ending after := by
  simp only [ending, perform, appended]

theorem ending_append_error {tree : FileTree} {path text : String} {fault : AppendFault}
    (refused : tree.append path text = .error fault)
    (next : Except AppendFault Unit → Script α) :
    (append path text next).ending tree = (next (.error fault)).ending tree := by
  simp only [ending, perform, refused]

end Script

namespace Settings

variable {settings : Settings} {tree : FileTree}

theorem reaches_readPlatforms : settings.Reaches tree .readPlatforms := by
  intro earlier member
  cases member

theorem reaches_next {step : Step} (next : Step) (follows : next.earlier = step.earlier ++ [step])
    (reached : settings.Reaches tree step) (done : settings.faultAt tree step = none) :
    settings.Reaches tree next := by
  intro earlier member
  rw [follows, List.mem_append, List.mem_singleton] at member
  rcases member with before | rfl
  · exact reached earlier before
  · exact done

theorem Reaches.completes {step other : Step} (reached : settings.Reaches tree step)
    (before : other ∈ step.earlier) : settings.Completes tree other := by
  constructor
  · intro earlier member
    exact reached earlier (Step.earlier_subset before member)
  · exact reached other before

inductive Ends (settings : Settings) (tree : FileTree) : RunResult × FileTree → Prop where
  | unwritten {step : Step} {fault : RunFault} (first : settings.FailsFirst tree step fault)
      (early : step ≠ .findOutput ∧ step ≠ .appendOutputs) :
      Ends settings tree (.error fault, tree)
  | summarized {step : Step} {fault : RunFault} {plan : Plan} {after : FileTree}
      (first : settings.FailsFirst tree step fault)
      (late : step = .findOutput ∨ step = .appendOutputs)
      (planned : settings.planIn tree = some plan)
      (summarized : settings.summarize tree plan = .ok after) :
      Ends settings tree (.error fault, after)
  | finished {plan : Plan} {path : String} {after last : FileTree}
      (completed : settings.Completes tree .appendOutputs)
      (planned : settings.planIn tree = some plan)
      (summarized : settings.summarize tree plan = .ok after)
      (wanted : settings.output = some path)
      (appended : after.append path plan.outputs = .ok last) :
      Ends settings tree (.ok plan, last)

end Settings

namespace Run

open Settings

variable {settings : Settings} {tree : FileTree}

/-! The stages of a run. Each is followed by any script that ends well from where the stage leaves
off, so one stage can change without the others. -/

theorem ends_readingCatalog {next : Catalog → Script RunResult}
    (goesOn : ∀ declarations, settings.Reaches tree .readRepros →
      settings.declarationsIn tree = some declarations →
      settings.Ends tree ((next (Catalog.ofDeclarations declarations)).ending tree)) :
    settings.Ends tree ((readingCatalog settings next).ending tree) := by
  have begun : settings.Reaches tree .readPlatforms := reaches_readPlatforms
  unfold readingCatalog
  rw [Script.ending_read]
  cases read : tree.read settings.platformMap with
  | error fault =>
    have failed : settings.faultAt tree .readPlatforms =
        some (.platformsUnread settings.platformMap fault) := by simp [faultAt, read]
    exact .unwritten ⟨begun, failed⟩ (by decide)
  | ok text =>
    have done : settings.faultAt tree .readPlatforms = none := by simp [faultAt, read]
    have reached := reaches_next .parsePlatforms rfl begun done
    dsimp only
    cases parsed : Catalog.readDocument text with
    | error fault =>
      have failed : settings.faultAt tree .parsePlatforms =
          some (.platformsUnparsed settings.platformMap fault) := by
        simp [faultAt, read, parsed, Except.toOption]
      exact .unwritten ⟨reached, failed⟩ (by decide)
    | ok declarations =>
      have done : settings.faultAt tree .parsePlatforms = none := by
        simp [faultAt, read, parsed, Except.toOption]
      have reached := reaches_next .checkLabels rfl reached done
      have declared : settings.declarationsIn tree = some declarations := by
        simp [declarationsIn, read, parsed, Except.toOption]
      dsimp only
      rw [Catalog.build_eq]
      cases contested : Catalog.contested? settings.strictLabels declarations with
      | some first =>
        have failed : settings.faultAt tree .checkLabels = some (.labelContested first) := by
          simp [faultAt, declared, contested]
        exact .unwritten ⟨reached, failed⟩ (by decide)
      | none =>
        have done : settings.faultAt tree .checkLabels = none := by
          simp [faultAt, declared, contested]
        exact goesOn declarations (reaches_next _ rfl reached done) declared

theorem ends_readingRepros (reached : settings.Reaches tree .readRepros)
    {next : List Repro → Script RunResult}
    (goesOn : ∀ repros, settings.Reaches tree .appendSummary →
      settings.reprosIn tree = some repros → settings.Ends tree ((next repros).ending tree)) :
    settings.Ends tree ((readingRepros settings next).ending tree) := by
  unfold readingRepros
  rw [Script.ending_read]
  cases read : tree.read settings.repros with
  | error fault =>
    have failed : settings.faultAt tree .readRepros =
        some (.reprosUnread settings.repros fault) := by simp [faultAt, read]
    exact .unwritten ⟨reached, failed⟩ (by decide)
  | ok text =>
    have done : settings.faultAt tree .readRepros = none := by simp [faultAt, read]
    have reached := reaches_next .parseRepros rfl reached done
    dsimp only
    cases parsed : Repro.readDocument text with
    | error fault =>
      have failed : settings.faultAt tree .parseRepros =
          some (.reprosUnparsed settings.repros fault) := by
        simp [faultAt, read, parsed, Except.toOption]
      exact .unwritten ⟨reached, failed⟩ (by decide)
    | ok repros =>
      have done : settings.faultAt tree .parseRepros = none := by
        simp [faultAt, read, parsed, Except.toOption]
      have found : settings.reprosIn tree = some repros := by
        simp [reprosIn, read, parsed, Except.toOption]
      exact goesOn repros (reaches_next _ rfl reached done) found

theorem ends_appendingSummary {plan : Plan} (screen : Screen)
    (reached : settings.Reaches tree .appendSummary) (planned : settings.planIn tree = some plan)
    {next : Script RunResult}
    (goesOn : ∀ after, settings.Reaches tree .findOutput →
      settings.summarize tree plan = .ok after → settings.Ends tree (next.ending after)) :
    settings.Ends tree ((appendingSummary settings screen plan next).ending tree) := by
  unfold appendingSummary
  cases wanted : settings.stepSummary with
  | none =>
    have done : settings.faultAt tree .appendSummary = none := by
      simp [faultAt, planned, wanted]
    dsimp only
    rw [Script.ending_display]
    exact goesOn tree (reaches_next _ rfl reached done) (by simp [summarize, wanted])
  | some path =>
    dsimp only
    cases appended : tree.append path plan.summary with
    | error fault =>
      have failed : settings.faultAt tree .appendSummary =
          some (.summaryUnwritten path fault) := by
        simp [faultAt, planned, wanted, appended]
      rw [Script.ending_append_error appended, Script.ending_done]
      exact .unwritten ⟨reached, failed⟩ (by decide)
    | ok after =>
      have done : settings.faultAt tree .appendSummary = none := by
        simp [faultAt, planned, wanted, appended]
      rw [Script.ending_append_ok appended, Script.ending_display]
      exact goesOn after (reaches_next _ rfl reached done)
        (by simp [summarize, wanted, appended])

theorem ends_appendingOutputs {plan : Plan} {after : FileTree} (screen : Screen)
    (reached : settings.Reaches tree .findOutput) (planned : settings.planIn tree = some plan)
    (summarized : settings.summarize tree plan = .ok after) :
    settings.Ends tree
      ((appendingOutputs settings screen plan (.done (.ok plan))).ending after) := by
  unfold appendingOutputs
  cases wanted : settings.output with
  | none =>
    have failed : settings.faultAt tree .findOutput = some .outputsNotWanted := by
      simp [faultAt, wanted]
    exact .summarized ⟨reached, failed⟩ (.inl rfl) planned summarized
  | some path =>
    have done : settings.faultAt tree .findOutput = none := by simp [faultAt, wanted]
    have reached := reaches_next .appendOutputs rfl reached done
    dsimp only
    rw [plan.renderOutputs_eq]
    dsimp only
    cases appended : after.append path plan.outputs with
    | error fault =>
      have failed : settings.faultAt tree .appendOutputs =
          some (.outputsUnwritten path fault) := by
        simp [faultAt, planned, summarized, wanted, appended, Except.toOption]
      rw [Script.ending_append_error appended, Script.ending_done]
      exact .summarized ⟨reached, failed⟩ (.inr rfl) planned summarized
    | ok last =>
      have done : settings.faultAt tree .appendOutputs = none := by
        simp [faultAt, planned, summarized, wanted, appended, Except.toOption]
      rw [Script.ending_append_ok appended, Script.ending_display, Script.ending_done]
      exact .finished ⟨reached, done⟩ planned summarized wanted appended

end Run

namespace Settings

variable {settings : Settings} {tree : FileTree}

theorem run_ends (settings : Settings) (screen : Screen) (tree : FileTree) :
    settings.Ends tree ((settings.run screen).ending tree) := by
  unfold run
  rw [Script.ending_display]
  apply Run.ends_readingCatalog
  intro declarations reached declared
  rw [Script.ending_display]
  apply Run.ends_readingRepros reached
  intro repros reached found
  dsimp only
  rw [Script.ending_display]
  have planned : settings.planIn tree =
      some ((Catalog.ofDeclarations declarations).plan repros) := by
    simp [planIn, declared, found]
  apply Run.ends_appendingSummary screen reached planned
  intro after reached summarized
  exact Run.ends_appendingOutputs screen reached planned summarized

theorem FailsFirst.fails {step : Step} {fault : RunFault}
    (first : settings.FailsFirst tree step fault) : settings.faultAt tree step ≠ none := by
  rw [first.2]
  exact Option.some_ne_none fault

theorem FailsFirst.unique {step other : Step} {fault found : RunFault}
    (first : settings.FailsFirst tree step fault) (also : settings.FailsFirst tree other found) :
    step = other ∧ fault = found := by
  rcases step.earlier_or_eq_or_earlier other with before | rfl | after
  · exact absurd (also.1 step before) first.fails
  · exact ⟨rfl, Option.some.inj (first.2.symm.trans also.2)⟩
  · exact absurd (first.1 other after) also.fails

theorem completes_last_iff : settings.Completes tree .appendOutputs ↔
    ∀ step, settings.faultAt tree step = none := by
  constructor
  · intro completed step
    rcases step.earlier_or_eq_last with before | rfl
    · exact completed.1 step before
    · exact completed.2
  · intro none
    exact ⟨fun step _ => none step, none _⟩

/-- The summary of the plan is appended, if one is wanted, and nothing else is changed. -/
def OnlySummarized (settings : Settings) (tree : FileTree) (plan : Plan) (after : FileTree) :
    Prop :=
  match settings.stepSummary with
  | none => after = tree
  | some path => ∃ place, tree.locateEntry path = .ok place ∧ tree.Extends place plan.summary after

theorem onlySummarized_of_summarize {plan : Plan} {after : FileTree}
    (summarized : settings.summarize tree plan = .ok after) :
    settings.OnlySummarized tree plan after := by
  unfold summarize at summarized
  unfold OnlySummarized
  split at summarized
  · exact (Except.ok.inj summarized).symm
  · exact FileTree.extends_of_append summarized

theorem Ends.of_failsFirst {ending : RunResult × FileTree} (ends : settings.Ends tree ending)
    {step : Step} {fault : RunFault} (first : settings.FailsFirst tree step fault) :
    ending.1 = .error fault ∧
      if step = .findOutput ∨ step = .appendOutputs then
        ∃ plan, settings.planIn tree = some plan ∧ settings.OnlySummarized tree plan ending.2
      else ending.2 = tree := by
  -- Only one step fails first, so it is the one at which the run ended.
  cases ends with
  | unwritten failed early =>
    obtain ⟨rfl, rfl⟩ := failed.unique first
    rw [if_neg (not_or.mpr early)]
    exact ⟨rfl, rfl⟩
  | summarized failed late planned summarized =>
    obtain ⟨rfl, rfl⟩ := failed.unique first
    rw [if_pos late]
    exact ⟨rfl, _, planned, onlySummarized_of_summarize summarized⟩
  | finished completed => exact absurd (completes_last_iff.mp completed step) first.fails

theorem Ends.ok_iff {ending : RunResult × FileTree} (ends : settings.Ends tree ending) :
    (∃ plan, ending.1 = .ok plan) ↔ ∀ step, settings.faultAt tree step = none := by
  have failed {step : Step} {fault : RunFault} (first : settings.FailsFirst tree step fault) :
      ¬∀ step, settings.faultAt tree step = none := by
    intro none
    exact first.fails (none step)
  cases ends with
  | unwritten first => simpa using failed first
  | summarized first => simpa using failed first
  | finished completed => simpa using completes_last_iff.mp completed

/-- The step that fails first settles the fault of a run and what the run leaves behind: nothing,
or only the summary if just the outputs are missing. -/
theorem run_fails_first (settings : Settings) (screen : Screen) (tree : FileTree) :
    (∀ step fault, settings.FailsFirst tree step fault →
      ((settings.run screen).perform tree).result = .error fault ∧
      if step = .findOutput ∨ step = .appendOutputs then
        ∃ plan, settings.planIn tree = some plan ∧
          settings.OnlySummarized tree plan ((settings.run screen).perform tree).tree
      else ((settings.run screen).perform tree).tree = tree) ∧
    ((∃ plan, ((settings.run screen).perform tree).result = .ok plan) ↔
      ∀ step, settings.faultAt tree step = none) := by
  have ends := settings.run_ends screen tree
  constructor
  · intro step fault first
    exact ends.of_failsFirst first
  · exact ends.ok_iff

def twoDocuments : FileTree where
  nodes := [(["map"], .file "\x7b\"linux\":[\"a\"]\x7d".toUTF8),
    (["rep"], .file "\x7b\"repros\":[\x7b\"name\":\"t\"\x7d]\x7d".toUTF8)]
  workingDirectory := []

def summaryOnly : Settings := ⟨"", "map", "rep", some "sum", none, true⟩

theorem summaryOnly_reaches :
    summaryOnly.planIn twoDocuments = some ⟨[⟨"a", "t", "linux"⟩], Findings.none, 0⟩ ∧
    summaryOnly.Reaches twoDocuments .findOutput := by
  have map : twoDocuments.read summaryOnly.platformMap =
      .ok "\x7b\"linux\":[\"a\"]\x7d" := by cbv
  have platforms : Catalog.readDocument "\x7b\"linux\":[\"a\"]\x7d" =
      .ok [("linux", ["a"])] := by cbv
  have rep : twoDocuments.read summaryOnly.repros =
      .ok "\x7b\"repros\":[\x7b\"name\":\"t\"\x7d]\x7d" := by cbv
  have repros : Repro.readDocument "\x7b\"repros\":[\x7b\"name\":\"t\"\x7d]\x7d" =
      .ok [⟨"t", ∅, Limits.none⟩] := by cbv
  have declared : summaryOnly.declarationsIn twoDocuments = some [("linux", ["a"])] := by
    simp [declarationsIn, map, platforms, Except.toOption]
  have plan : (Catalog.ofDeclarations [("linux", ["a"])]).plan [⟨"t", ∅, Limits.none⟩] =
      ⟨[⟨"a", "t", "linux"⟩], Findings.none, 0⟩ := by decide +kernel
  have planned : summaryOnly.planIn twoDocuments =
      some ⟨[⟨"a", "t", "linux"⟩], Findings.none, 0⟩ := by
    simp [planIn, declared, reprosIn, rep, repros, Except.toOption, plan]
  have located : twoDocuments.locateEntry "sum" = .ok ["sum"] := by cbv
  have free : twoDocuments.node? ["sum"] = none := by cbv
  have wanted : summaryOnly.stepSummary = some "sum" := rfl
  have uncontested : Catalog.contested? summaryOnly.strictLabels [("linux", ["a"])] = none := by
    decide
  refine ⟨planned, ?_⟩
  intro step member
  cases step with
  | readPlatforms => simp [faultAt, map]
  | parsePlatforms => simp [faultAt, map, platforms, Except.toOption]
  | checkLabels => simp [faultAt, declared, uncontested]
  | readRepros => simp [faultAt, rep]
  | parseRepros => simp [faultAt, rep, repros, Except.toOption]
  | appendSummary =>
    simp [faultAt, planned, wanted, FileTree.append, located, free]
  | findOutput => exact absurd member (by decide)
  | appendOutputs => exact absurd member (by decide)

theorem unset_output_leaves_summary :
    summaryOnly.FailsFirst twoDocuments .findOutput .outputsNotWanted ∧
    ((summaryOnly.run ⟨.english, false⟩).perform twoDocuments).result = .error .outputsNotWanted ∧
    ∃ plan, summaryOnly.planIn twoDocuments = some plan ∧
      summaryOnly.OnlySummarized twoDocuments plan
        ((summaryOnly.run ⟨.english, false⟩).perform twoDocuments).tree := by
  have first : summaryOnly.FailsFirst twoDocuments .findOutput .outputsNotWanted :=
    ⟨summaryOnly_reaches.2, rfl⟩
  obtain ⟨failed, left⟩ := (run_fails_first summaryOnly ⟨.english, false⟩ twoDocuments).1 _ _ first
  exact ⟨first, failed, left⟩

end Settings
end JobMatrix
