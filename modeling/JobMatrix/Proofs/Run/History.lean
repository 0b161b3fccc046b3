import JobMatrix.Proofs.Run.Steps

/-!
Runs one after the other on one tree of files. Each run adds at most its summary and its outputs to
the ends of two places, which may be one place or one of the documents, so after any number of runs
a file holds what it held at first and then what the runs have added.
-/
namespace JobMatrix

namespace Settings

instance (settings : Settings) (tree : FileTree) (step : Step) :
    Decidable (settings.Reaches tree step) :=
  inferInstanceAs (Decidable (∀ earlier ∈ step.earlier, settings.faultAt tree earlier = none))

instance (settings : Settings) (tree : FileTree) (step : Step) :
    Decidable (settings.Completes tree step) :=
  inferInstanceAs (Decidable (_ ∧ _))

/-- What a run adds at the end of a place: its summary and its outputs, each if it gets so far and
they go there. -/
def textsFor (settings : Settings) (tree : FileTree) (place : Place) : List String :=
  match settings.planIn tree with
  | none => []
  | some plan =>
    (if settings.Completes tree .appendSummary ∧
        tree.destination? settings.stepSummary = some place then [plan.summary] else []) ++
    (if settings.Completes tree .appendOutputs ∧
        tree.destination? settings.output = some place then [plan.outputs] else [])

end Settings

namespace FileTree

def afterRun (tree : FileTree) (run : Settings × Screen) : FileTree :=
  ((run.1.run run.2).perform tree).tree

def afterRuns (tree : FileTree) (runs : List (Settings × Screen)) : FileTree :=
  runs.foldl afterRun tree

/-- What runs add at the end of a place, each on the files that the ones before it left. -/
def textsOf (place : Place) : FileTree → List (Settings × Screen) → List String
  | _, [] => []
  | tree, run :: rest => run.1.textsFor tree place ++ textsOf place (tree.afterRun run) rest

end FileTree

def FileNode.extendAll (texts : List String) (node : Option FileNode) : Option FileNode :=
  texts.foldl (fun node text => extend text node) node

namespace Settings

variable {settings : Settings} {tree : FileTree}

theorem FailsFirst.completes_iff {step : Step} {fault : RunFault}
    (first : settings.FailsFirst tree step fault) {other : Step} :
    settings.Completes tree other ↔ other ∈ step.earlier := by
  constructor
  · intro completed
    rcases step.earlier_or_eq_or_earlier other with before | rfl | after
    · exact absurd (completed.1 step before) first.fails
    · exact absurd completed.2 first.fails
    · exact after
  · exact first.1.completes

theorem node?_summarize {plan : Plan} {after : FileTree}
    (summarized : settings.summarize tree plan = .ok after) (place : Place) :
    after.node? place =
      if tree.destination? settings.stepSummary = some place then
        FileNode.extend plan.summary (tree.node? place)
      else tree.node? place := by
  unfold summarize at summarized
  split at summarized
  · rename_i unwanted
    obtain rfl := Except.ok.inj summarized
    simp [unwanted, FileTree.destination?]
  · rename_i path wanted
    rw [wanted]
    exact FileTree.node?_append summarized place

theorem sameDirectories_of_summarize {plan : Plan} {after : FileTree}
    (summarized : settings.summarize tree plan = .ok after) : tree.SameDirectories after := by
  unfold summarize at summarized
  split at summarized
  · exact Except.ok.inj summarized ▸ .refl tree
  · exact FileTree.SameDirectories.of_append summarized

theorem Ends.sameDirectories {ending : RunResult × FileTree} (ends : settings.Ends tree ending) :
    tree.SameDirectories ending.2 := by
  cases ends with
  | unwritten => exact .refl tree
  | summarized _ _ _ summarized => exact sameDirectories_of_summarize summarized
  | finished _ _ summarized _ appended =>
    exact (sameDirectories_of_summarize summarized).trans (.of_append appended)

/-- A run puts its texts at the end of a place, one after the other. -/
theorem Ends.node?_eq {ending : RunResult × FileTree} (ends : settings.Ends tree ending)
    (place : Place) : ending.2.node? place =
      FileNode.extendAll (settings.textsFor tree place) (tree.node? place) := by
  unfold textsFor FileNode.extendAll
  cases ends with
  | @unwritten step fault first early =>
    have noSummary : ¬settings.Completes tree .appendSummary := by
      rw [first.completes_iff]
      revert early
      cases step <;> decide
    have noOutputs : ¬settings.Completes tree .appendOutputs := by
      rw [first.completes_iff]
      cases step <;> decide
    cases settings.planIn tree with
    | none => rfl
    | some plan => simp [noSummary, noOutputs]
  | @summarized step fault plan after first late planned summarized =>
    have summary : settings.Completes tree .appendSummary := by
      rw [first.completes_iff]
      revert late
      cases step <;> decide
    have noOutputs : ¬settings.Completes tree .appendOutputs := by
      rw [first.completes_iff]
      cases step <;> decide
    rw [node?_summarize summarized]
    simp only [planned, summary, noOutputs, true_and, false_and, if_false, List.append_nil]
    split
    · rfl
    · rfl
  | @finished plan path after last completed planned summarized wanted appended =>
    have summary : settings.Completes tree .appendSummary := by
      have none := completes_last_iff.mp completed
      exact ⟨fun step _ => none step, none _⟩
    -- The summary made no directory, so the outputs go where they would have gone before it.
    have output := FileTree.node?_append appended place
    rw [(sameDirectories_of_summarize summarized).destination?, ← wanted,
      node?_summarize summarized] at output
    rw [output]
    simp only [planned, summary, completed, true_and, List.foldl_append]
    split
    · split
      · rfl
      · rfl
    · split
      · rfl
      · rfl

/-- A run adds only to its own two destinations. -/
theorem textsFor_eq_nil {place : Place}
    (elsewhere : tree.destination? settings.stepSummary ≠ some place ∧
      tree.destination? settings.output ≠ some place) : settings.textsFor tree place = [] := by
  unfold textsFor
  split
  · rfl
  · simp [elsewhere]

end Settings

namespace FileNode

theorem extendAll_append (texts more : List String) (node : Option FileNode) :
    extendAll (texts ++ more) node = extendAll more (extendAll texts node) :=
  List.foldl_append

theorem extendAll_file (texts : List String) (content : ByteArray) :
    extendAll texts (some (.file content)) =
      some (.file (content ++ (String.join texts).toUTF8)) := by
  induction texts generalizing content with
  | nil =>
    have empty : content ++ (String.join []).toUTF8 = content := ByteArray.append_empty
    rw [empty]
    rfl
  | cons first rest ih =>
    have joined : (String.join (first :: rest)).toUTF8 =
        first.toUTF8 ++ (String.join rest).toUTF8 := by
      rw [String.join_cons]
      exact String.toByteArray_append
    rw [joined, ← ByteArray.append_assoc, ← ih]
    rfl

theorem extendAll_none {texts : List String} (written : texts ≠ []) :
    extendAll texts none = some (.file (String.join texts).toUTF8) := by
  cases texts with
  | nil => exact absurd rfl written
  | cons first rest =>
    have begun : extendAll (first :: rest) none = extendAll rest (some (.file first.toUTF8)) := rfl
    rw [begun, extendAll_file, String.join_cons]
    exact congrArg _ (congrArg _ String.toByteArray_append.symm)

theorem extendAll_of_not_file {node : FileNode} (kind : ∀ content, node ≠ .file content)
    (texts : List String) : extendAll texts (some node) = some node := by
  have kept (text : String) : extend text (some node) = some node := by
    cases node with
    | file content => exact absurd rfl (kind content)
    | directory => rfl
    | full => rfl
    | sink => rfl
  induction texts with
  | nil => rfl
  | cons first rest ih =>
    have step : extendAll (first :: rest) (some node) =
        extendAll rest (extend first (some node)) := rfl
    rw [step, kept, ih]

end FileNode

namespace FileTree

theorem sameDirectories_afterRun (tree : FileTree) (run : Settings × Screen) :
    tree.SameDirectories (tree.afterRun run) :=
  (run.1.run_ends run.2 tree).sameDirectories

theorem node?_afterRun (tree : FileTree) (run : Settings × Screen) (place : Place) :
    (tree.afterRun run).node? place =
      FileNode.extendAll (run.1.textsFor tree place) (tree.node? place) :=
  (run.1.run_ends run.2 tree).node?_eq place

theorem node?_afterRuns (tree : FileTree) (runs : List (Settings × Screen)) (place : Place) :
    (tree.afterRuns runs).node? place =
      FileNode.extendAll (textsOf place tree runs) (tree.node? place) := by
  induction runs generalizing tree with
  | nil => rfl
  | cons run rest ih =>
    rw [textsOf, FileNode.extendAll_append, ← node?_afterRun]
    exact ih (tree.afterRun run)

theorem textsOf_eq_nil {tree : FileTree} {runs : List (Settings × Screen)} {place : Place}
    (elsewhere : ∀ run ∈ runs, tree.destination? run.1.stepSummary ≠ some place ∧
      tree.destination? run.1.output ≠ some place) : textsOf place tree runs = [] := by
  induction runs generalizing tree with
  | nil => rfl
  | cons run rest ih =>
    have nothing := Settings.textsFor_eq_nil (elsewhere run List.mem_cons_self)
    rw [textsOf, nothing, List.nil_append]
    apply ih
    -- The paths of the later runs lead where they led before this run.
    intro later member
    have same := tree.sameDirectories_afterRun run
    rw [same.destination?, same.destination?]
    exact elsewhere later (List.mem_cons_of_mem run member)

/-- After any runs a file holds what it held at first and then the texts of the runs, in their
order; what was no file stays as it is, and so does every place that no run appends to. -/
theorem runs_only_append (tree : FileTree) (runs : List (Settings × Screen)) (place : Place) :
    (∀ content, tree.node? place = some (.file content) →
      (tree.afterRuns runs).node? place =
        some (.file (content ++ (String.join (textsOf place tree runs)).toUTF8))) ∧
    (tree.node? place = none → (tree.afterRuns runs).node? place =
      if textsOf place tree runs = [] then none
      else some (.file (String.join (textsOf place tree runs)).toUTF8)) ∧
    (∀ node, tree.node? place = some node → (∀ content, node ≠ .file content) →
      (tree.afterRuns runs).node? place = some node) ∧
    ((∀ run ∈ runs, tree.destination? run.1.stepSummary ≠ some place ∧
        tree.destination? run.1.output ≠ some place) →
      (tree.afterRuns runs).node? place = tree.node? place) := by
  rw [node?_afterRuns]
  refine ⟨?file, ?missing, ?other, ?elsewhere⟩
  case file =>
    intro content file
    rw [file, FileNode.extendAll_file]
  case missing =>
    intro missing
    rw [missing]
    split
    · rename_i nothing
      rw [nothing]
      rfl
    · rename_i something
      exact FileNode.extendAll_none something
  case other =>
    intro node found kind
    rw [found, FileNode.extendAll_of_not_file kind]
  case elsewhere =>
    intro elsewhere
    rw [textsOf_eq_nil elsewhere]
    rfl

/-- A run that appends its summary and its outputs to its own platform document. -/
def selfAppending : Settings := ⟨"", "map", "rep", some "map", some "map", false⟩

open Settings in
theorem documents_and_summary_grow :
    twoDocuments.node? ["map"] = some (.file "\x7b\"linux\":[\"a\"]\x7d".toUTF8) ∧
    (twoDocuments.afterRuns [(selfAppending, ⟨.english, false⟩),
        (selfAppending, ⟨.chinese, true⟩)]).node? ["map"] =
      some (.file ("\x7b\"linux\":[\"a\"]\x7d".toUTF8 ++
        (String.join (textsOf ["map"] twoDocuments [(selfAppending, ⟨.english, false⟩),
          (selfAppending, ⟨.chinese, true⟩)])).toUTF8)) ∧
    twoDocuments.node? ["sum"] = none ∧
    (twoDocuments.afterRuns [(summaryOnly, ⟨.english, false⟩)]).node? ["sum"] =
      some (.file "Total repro jobs: 1\n".toUTF8) := by
  have held : twoDocuments.node? ["map"] =
      some (.file "\x7b\"linux\":[\"a\"]\x7d".toUTF8) := by cbv
  have free : twoDocuments.node? ["sum"] = none := by cbv
  have written : textsOf ["sum"] twoDocuments [(summaryOnly, ⟨.english, false⟩)] =
      ["Total repro jobs: 1\n"] := by
    obtain ⟨planned, reached⟩ := summaryOnly_reaches
    have summarized : summaryOnly.Completes twoDocuments .appendSummary :=
      reached.completes (by decide)
    have place : twoDocuments.destination? summaryOnly.stepSummary = some ["sum"] :=
      destination?_eq_some_iff.mpr ⟨"sum", rfl, by cbv⟩
    have nowhere : twoDocuments.destination? summaryOnly.output = none := rfl
    have text : (Plan.mk [⟨"a", "t", "linux"⟩] Findings.none 0).summary =
        "Total repro jobs: 1\n" := by decide
    simp [textsOf, textsFor, planned, summarized, place, nowhere, text]
  refine ⟨held, (runs_only_append _ _ _).1 _ held, free, ?_⟩
  rw [(runs_only_append _ _ _).2.1 free, written]
  rfl

end FileTree
end JobMatrix
