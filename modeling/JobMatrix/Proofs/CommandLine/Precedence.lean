import JobMatrix.Proofs.CommandLine.LanguageFlag

/-!
Values chosen for some of the flags, written out as arguments. The flags may come in any order and
each value in the same argument as its flag or in the next one: the arguments are accepted, and
every setting is the value that was chosen, else that of its variable, else the default.
-/
namespace JobMatrix.CommandLine

def Flag.arguments (flag : Flag) (inline : Bool) (value : String) : List String :=
  if flag.takesValue then
    if inline then ["--" ++ flag.name ++ "=" ++ value] else ["--" ++ flag.name, value]
  else ["--" ++ flag.name]

/-- The arguments for the chosen values, in some order of the flags. A switch is chosen by any
value. -/
def written (values : Flag → Option String) (inline : Flag → Bool) (order : List Flag) :
    List String :=
  order.flatMap fun flag => (values flag).elim [] (flag.arguments (inline flag))

def Proper (value : String) : Prop := value ≠ "" ∧ value.toList.head? ≠ some '-'

/-! Single arguments -/

namespace Flag

theorem name_plain (flag : Flag) :
    flag.name.toList ≠ [] ∧ flag.name.toList.all (· != '=') = true := by
  cases flag <;> decide

theorem name_shape (flag : Flag) :
    ∃ c cs, flag.name.toList = c :: cs ∧ ∀ d ∈ c :: cs, (d != '=') = true := by
  obtain ⟨nonempty, plain⟩ := flag.name_plain
  obtain ⟨c, cs, shape⟩ := List.exists_cons_of_ne_nil nonempty
  rw [shape] at plain
  exact ⟨c, cs, shape, List.all_eq_true.mp plain⟩

theorem ofString_bare (flag : Flag) :
    Argument.ofString ("--" ++ flag.name) = .long flag.name none := by
  obtain ⟨c, cs, shape, plain⟩ := flag.name_shape
  have dashes : "--".toList = ['-', '-'] := rfl
  have taken := List.takeWhile_eq_self_iff.mpr plain
  have left := List.dropWhile_eq_nil_iff.mpr plain
  unfold Argument.ofString
  rw [String.toList_append, dashes, shape]
  simp only [List.cons_append, List.nil_append, taken, left]
  rw [← shape, String.ofList_toList]

theorem ofString_inline (flag : Flag) (value : String) :
    Argument.ofString ("--" ++ flag.name ++ "=" ++ value) = .long flag.name (some value) := by
  obtain ⟨c, cs, shape, plain⟩ := flag.name_shape
  have dashes : "--".toList = ['-', '-'] := rfl
  have equals : "=".toList = ['='] := rfl
  have taken : (c :: cs ++ '=' :: value.toList).takeWhile (· != '=') = c :: cs := by
    rw [List.takeWhile_append_of_pos plain, List.takeWhile_cons_of_neg (by decide), List.append_nil]
  have left : (c :: cs ++ '=' :: value.toList).dropWhile (· != '=') = '=' :: value.toList := by
    rw [List.dropWhile_append_of_pos plain, List.dropWhile_cons_of_neg (by decide)]
  unfold Argument.ofString
  simp only [String.toList_append, dashes, equals, shape, List.append_assoc, List.cons_append,
    List.nil_append] at taken left ⊢
  simp only [taken, left, String.ofList_toList]
  rw [← shape, String.ofList_toList]

end Flag

theorem standsAsValue_of_proper {value : String} (proper : Proper value) :
    standsAsValue value = true := by
  have plain : Argument.ofString value = .plain := by
    unfold Argument.ofString
    split
    · rename_i shape
      exact absurd (by rw [shape]; rfl) proper.2
    · rename_i shape
      exact absurd (by rw [shape]; rfl) proper.2
    · rename_i shape
      exact absurd (by rw [shape]; rfl) proper.2
    · rfl
  rw [standsAsValue, plain]
  rfl

section Reading

variable {given next : Given} {flag : Flag} {value : String}

theorem takeLong_flag (progress : Progress) (value : Option String) :
    progress.takeLong flag.name value = progress.takeFlag flag value := by
  simp only [Progress.takeLong, Flag.ofName?_name]

/-- A flag that waits with a value of its own may as well be looked at right away. -/
theorem read_settled {progress : Progress} (settled : progress.settle = .ok next)
    (rest : List String) : progress.read rest = (Progress.idle next).read rest := by
  have unnamed (text : String) : progress.takePlain text = .error (.badUsage (.unknown text)) := by
    unfold Progress.takePlain
    split
    · rename_i flag waiting
      exact absurd waiting (Progress.not_forValue_of_settle settled)
    · rfl
  cases rest with
  | nil => rw [Progress.read, Progress.read, settled, Progress.settle_idle]
  | cons text rest =>
    rw [Progress.read, Progress.read]
    split
    · rename_i name value _
      have same : progress.takeLong name value = (Progress.idle next).takeLong name value := by
        simp only [Progress.takeLong, Progress.takeFlag, Progress.firstStop, settled,
          Progress.settle_idle]
      rw [same]
    · simp only [Progress.takeShort, Progress.firstStop, settled, Progress.settle_idle]
    · cases rest with
      | nil => rw [Progress.close, Progress.close, settled, Progress.settle_idle]
      | cons extra rest => rfl
    · rw [unnamed]
      rfl

theorem read_inline (takes : flag.takesValue = true)
    (added : given.add flag value = .ok next) (rest : List String) :
    (Progress.idle given).read (("--" ++ flag.name ++ "=" ++ value) :: rest) =
      (Progress.idle next).read rest := by
  have taken : (Progress.idle given).takeLong flag.name (some value) = .ok (.idle next) := by
    simp only [takeLong_flag, Progress.takeFlag, takes, if_true, Progress.settle_idle, added, bind,
      Except.bind, pure, Except.pure]
  simp only [Progress.read, Flag.ofString_inline, taken, bind, Except.bind]

theorem read_separate (takes : flag.takesValue = true)
    (stands : standsAsValue value = true) (added : given.add flag value = .ok next)
    (rest : List String) :
    (Progress.idle given).read (("--" ++ flag.name) :: value :: rest) =
      (Progress.idle next).read rest := by
  have taken : (Progress.idle given).takeLong flag.name none = .ok ⟨given, .forValue flag⟩ := by
    simp only [takeLong_flag, Progress.takeFlag, takes, if_true, Progress.settle_idle, bind,
      Except.bind, pure, Except.pure]
  have plain : Argument.ofString value = .plain := beq_iff_eq.mp stands
  have waits : (⟨given, .withValue flag value⟩ : Progress).settle = .ok next := added
  rw [← read_settled waits]
  simp only [Progress.read, Flag.ofString_bare, taken, plain, Progress.takePlain, bind, Except.bind]

theorem read_switch (takes : flag.takesValue = false)
    (added : given.add flag "" = .ok next) (rest : List String) :
    (Progress.idle given).read (("--" ++ flag.name) :: rest) = (Progress.idle next).read rest := by
  have taken : (Progress.idle given).takeLong flag.name none = .ok (.idle next) := by
    simp only [takeLong_flag, Progress.takeFlag, takes, Bool.false_eq_true, if_false,
      Progress.settle_idle, added, bind, Except.bind, pure, Except.pure]
  simp only [Progress.read, Flag.ofString_bare, taken, bind, Except.bind]

end Reading

/-! All arguments -/

def Flag.kept (flag : Flag) (value : String) : String := if flag.takesValue then value else ""

theorem Flag.takesValue_of_takesPath {flag : Flag} (path : flag.takesPath = true) :
    flag.takesValue = true := by
  cases flag with
  | strictLabels => cases path
  | _ => rfl

theorem add_kept {given : Given} {flag : Flag} {value : String}
    (absent : given.has flag = false) (proper : flag.takesValue = true → Proper value) :
    ∃ next, given.add flag (flag.kept value) = .ok next := by
  refine ⟨_, Given.add_eq_ok_iff.mpr ⟨absent, ?_, rfl⟩⟩
  cases path : flag.takesPath with
  | false => rfl
  | true =>
    have takes := Flag.takesValue_of_takesPath path
    rw [Flag.kept, if_pos takes, Bool.true_and, Bool.eq_false_iff, ne_eq, String.isEmpty_iff]
    exact (proper takes).1

theorem read_flag {given next : Given} {flag : Flag} {value : String}
    (proper : flag.takesValue = true → Proper value)
    (added : given.add flag (flag.kept value) = .ok next) (inline : Bool) (rest : List String) :
    (Progress.idle given).read (flag.arguments inline value ++ rest) =
      (Progress.idle next).read rest := by
  unfold Flag.arguments
  cases takes : flag.takesValue with
  | false =>
    rw [Flag.kept, takes] at added
    exact read_switch takes added rest
  | true =>
    rw [Flag.kept, takes] at added
    cases inline with
    | true => exact read_inline takes added rest
    | false =>
      have stands := standsAsValue_of_proper (proper takes)
      exact read_separate takes stands added rest

section Written

variable {values : Flag → Option String} {inline : Flag → Bool} {order : List Flag}

theorem written_cons (first : Flag) (order : List Flag) : written values inline (first :: order) =
    (values first).elim [] (first.arguments (inline first)) ++ written values inline order :=
  List.flatMap_cons

theorem read_written {given : Given} (distinct : order.Nodup)
    (absent : ∀ flag ∈ order, given.has flag = false)
    (proper : ∀ flag value, values flag = some value → flag.takesValue = true → Proper value) :
    ∃ final, (Progress.idle given).read (written values inline order) = .ok final ∧
      ∀ flag, final.value? flag = (given.value? flag).or
        (if flag ∈ order then (values flag).map flag.kept else none) := by
  induction order generalizing given with
  | nil =>
    refine ⟨given, by rw [written, List.flatMap_nil, Progress.read]; rfl, ?_⟩
    intro flag
    simp
  | cons first order ih =>
    obtain ⟨fresh, distinct⟩ := List.nodup_cons.mp distinct
    rw [List.forall_mem_cons] at absent
    rw [written_cons]
    cases chosen : values first with
    | none =>
      obtain ⟨final, read, kept⟩ := ih distinct absent.2
      refine ⟨final, read, ?_⟩
      intro flag
      rw [kept]
      by_cases same : flag = first
      · simp [same, chosen]
      · simp [same]
    | some value =>
      obtain ⟨next, added⟩ := add_kept absent.1 (proper first value chosen)
      have later : ∀ flag ∈ order, next.has flag = false := by
        intro flag member
        have differs : flag ≠ first := fun same => fresh (same ▸ member)
        rw [Given.has_add added, absent.2 flag member, decide_eq_false differs]
        rfl
      obtain ⟨final, read, kept⟩ := ih distinct later
      refine ⟨final, ?_, ?_⟩
      · rw [Option.elim_some, read_flag (proper first value chosen) added, read]
      · intro flag
        rw [kept, Given.value?_add added]
        by_cases same : flag = first
        · simp [same, chosen, Given.value?_of_has_eq_false absent.1]
        · simp [same]

theorem readArguments_complete (complete : order.Perm Flag.all)
    (proper : ∀ flag value, values flag = some value → flag.takesValue = true → Proper value) :
    ∃ taken, readArguments (written values inline order) = .ok taken ∧
      ∀ flag, taken.value? flag = (values flag).map flag.kept := by
  have distinct : order.Nodup := complete.nodup_iff.mpr (by decide)
  have absent : ∀ flag ∈ order, Given.empty.has flag = false := fun _ _ => rfl
  obtain ⟨taken, read, kept⟩ := read_written distinct absent proper
  refine ⟨taken, read, ?_⟩
  intro flag
  rw [kept, if_pos (complete.mem_iff.mpr flag.mem_all)]
  rfl

theorem map_kept {flag : Flag} (takes : flag.takesValue = true) :
    (values flag).map flag.kept = values flag := by
  have same : flag.kept = id := by
    funext value
    rw [Flag.kept, if_pos takes, id]
  rw [same, Option.map_id, id]

end Written

theorem fallback?_ne_empty {environment : Environment}
    (set : ∀ name ∈ ["GITHUB_WORKSPACE", "GITHUB_STEP_SUMMARY", "GITHUB_OUTPUT"],
      environment name ≠ some "") (flag : Flag) : flag.fallback? environment ≠ some "" := by
  cases flag with
  | workspace | stepSummary | output => exact set _ (by decide)
  | lang | platformMap | repros | strictLabels => exact nofun

theorem nonEmpty_of_ne {path : Option String} (nonempty : path ≠ some "") :
    Settings.nonEmpty path = path := by
  cases path with
  | none => rfl
  | some text =>
    have filled : text.isEmpty = false := by
      rw [Bool.eq_false_iff, ne_eq, String.isEmpty_iff]
      rintro rfl
      exact nonempty rfl
    rw [Settings.nonEmpty, Option.filter_some, filled]
    rfl

theorem pathBelow_eq (directory relative : String) : pathBelow directory relative =
    if directory = "" ∨ directory.toList.getLast? = some '/' then directory ++ relative
    else directory ++ "/" ++ relative := by
  simp only [pathBelow, Bool.or_eq_true, String.isEmpty_iff, beq_iff_eq]

/-- As long as no path is empty, the settings are the values that are kept and the defaults. -/
theorem settings_eq {final : Given} {workingDirectory : String}
    (nonempty : ∀ flag, flag.takesValue = true → final.value? flag ≠ some "") :
    let workspace := (final.value? .workspace).getD workingDirectory
    final.settings workingDirectory =
      { workspace
        platformMap :=
          (final.value? .platformMap).getD (pathBelow workspace ".github/os-matrix.json")
        repros := (final.value? .repros).getD (pathBelow workspace "repros.json")
        stepSummary := final.value? .stepSummary
        output := final.value? .output
        strictLabels := final.has .strictLabels } := by
  intro workspace
  have kept (flag : Flag) (takes : flag.takesValue = true) :
      Settings.nonEmpty (final.value? flag) = final.value? flag :=
    nonEmpty_of_ne (nonempty flag takes)
  simp only [Given.settings, Settings.withPlatformMap, Settings.withRepros,
    Settings.withStepSummary, Settings.withOutput, Settings.withStrictLabels,
    Settings.ofWorkspace, kept .workspace rfl, kept .platformMap rfl, kept .repros rfl,
    kept .stepSummary rfl, kept .output rfl]
  rfl

/-- Whatever the order of the flags and the spelling of their values, the arguments are accepted.
A setting is the chosen value, else the value of its variable, else its default, which for the
documents is a place below the workspace, after a slash of its own or another. -/
theorem settings_of_written (environment : Environment) (workingDirectory : String)
    (values : Flag → Option String) (inline : Flag → Bool) (order : List Flag)
    (complete : order.Perm Flag.all)
    (proper : ∀ flag value, values flag = some value → flag.takesValue = true → Proper value)
    (set : ∀ name ∈ ["GITHUB_WORKSPACE", "GITHUB_STEP_SUMMARY", "GITHUB_OUTPUT"],
      environment name ≠ some "") :
    let workspace :=
      ((values .workspace).or (environment "GITHUB_WORKSPACE")).getD workingDirectory
    let below (relative : String) :=
      if workspace = "" ∨ workspace.toList.getLast? = some '/' then workspace ++ relative
      else workspace ++ "/" ++ relative
    outcome environment workingDirectory (written values inline order) = .ok
      { workspace
        platformMap := (values .platformMap).getD (below ".github/os-matrix.json")
        repros := (values .repros).getD (below "repros.json")
        stepSummary := (values .stepSummary).or (environment "GITHUB_STEP_SUMMARY")
        output := (values .output).or (environment "GITHUB_OUTPUT")
        strictLabels := (values .strictLabels).isSome } ∧
    languageArgument? (written values inline order) = values .lang := by
  intro workspace below
  have joined (relative : String) : below relative = pathBelow workspace relative :=
    (pathBelow_eq workspace relative).symm
  obtain ⟨taken, read, kept⟩ := readArguments_complete complete proper
  have unset := fallback?_ne_empty set
  obtain ⟨final, done, merged⟩ :=
    outcome_of_not_blank workingDirectory read fun flag blank => unset flag blank.2
  have value (flag : Flag) (takes : flag.takesValue = true) :
      final.value? flag = (values flag).or (flag.fallback? environment) := by
    rw [merged, kept, map_kept takes]
  have nonempty (flag : Flag) (takes : flag.takesValue = true) : final.value? flag ≠ some "" := by
    rw [value flag takes]
    cases chosen : values flag with
    | none => exact unset flag
    | some text =>
      intro empty
      exact (proper flag text chosen takes).1 (Option.some.inj empty)
  have strict : final.has .strictLabels = (values .strictLabels).isSome := by
    rw [Given.has, merged, kept]
    cases values .strictLabels <;> rfl
  constructor
  · rw [done, joined, joined, settings_eq nonempty, strict]
    simp only [value .workspace rfl, value .platformMap rfl, value .repros rfl,
      value .stepSummary rfl, value .output rfl, Flag.fallback?, Flag.variableName?,
      Option.bind_some, Option.bind_none, Option.or_none]
    rfl
  · rw [(reads_of_readArguments read).languageArgument?_eq rfl, kept, map_kept rfl]

def outputAndLanguage : Flag → Option String
  | .output => some "=o"
  | .lang => some "zh"
  | .strictLabels => some ""
  | .workspace | .platformMap | .repros | .stepSummary => none

def everyFlag : Flag → Option String
  | .lang => some "en"
  | .workspace => some "/a"
  | .platformMap => some "m"
  | .repros => some "r"
  | .stepSummary => some "s"
  | .output => some "o"
  | .strictLabels => some ""

def shuffled : List Flag :=
  [.strictLabels, .output, .repros, .lang, .workspace, .platformMap, .stepSummary]

def runnerVariables (workspace : String) : Environment
  | "GITHUB_WORKSPACE" => some workspace
  | "GITHUB_OUTPUT" => some "old"
  | _ => none

/-- The output that is chosen goes before its variable, and the workspace is left to its own, where
a slash is added unless there is one. If every flag is chosen, the variables have no say. -/
theorem chosen_before_variables :
    written outputAndLanguage (· = .output) shuffled =
      ["--strict-labels", "--output==o", "--lang", "zh"] ∧
    outcome (runnerVariables "/w") "/work" ["--strict-labels", "--output==o", "--lang", "zh"] =
      .ok ⟨"/w", "/w/.github/os-matrix.json", "/w/repros.json", none, some "=o", true⟩ ∧
    outcome (runnerVariables "/w/") "/work" ["--strict-labels", "--output==o", "--lang", "zh"] =
      .ok ⟨"/w/", "/w/.github/os-matrix.json", "/w/repros.json", none, some "=o", true⟩ ∧
    languageArgument? ["--strict-labels", "--output==o", "--lang", "zh"] = some "zh" ∧
    outcome (runnerVariables "/w") "/work" ["--strict-labels", "--output", "o", "--repros", "r",
        "--lang=en", "--workspace=/a", "--platform-map=m", "--step-summary", "s"] =
      .ok ⟨"/a", "m", "r", some "s", some "o", true⟩ := by
  have arguments : written outputAndLanguage (· = .output) shuffled =
      ["--strict-labels", "--output==o", "--lang", "zh"] := by decide
  have allArguments : written everyFlag (· ∈ [.lang, .workspace, .platformMap]) shuffled =
      ["--strict-labels", "--output", "o", "--repros", "r", "--lang=en", "--workspace=/a",
        "--platform-map=m", "--step-summary", "s"] := by decide
  have proper : ∀ flag value, outputAndLanguage flag = some value → flag.takesValue = true →
      Proper value := by
    intro flag value chosen takes
    cases flag with
    | output | lang =>
      cases chosen
      exact ⟨by decide, by decide⟩
    | strictLabels => cases takes
    | workspace | platformMap | repros | stepSummary => cases chosen
  have allProper : ∀ flag value, everyFlag flag = some value → flag.takesValue = true →
      Proper value := by
    intro flag value chosen takes
    cases flag with
    | strictLabels => cases takes
    | _ =>
      cases chosen
      exact ⟨by decide, by decide⟩
  obtain ⟨settings, language⟩ := settings_of_written (runnerVariables "/w") "/work"
    outputAndLanguage (· = .output) shuffled (by decide) proper (by decide)
  obtain ⟨slashed, _⟩ := settings_of_written (runnerVariables "/w/") "/work"
    outputAndLanguage (· = .output) shuffled (by decide) proper (by decide)
  obtain ⟨allSettings, _⟩ := settings_of_written (runnerVariables "/w") "/work"
    everyFlag (· ∈ [.lang, .workspace, .platformMap]) shuffled (by decide) allProper (by decide)
  rw [arguments] at settings slashed language
  rw [allArguments] at allSettings
  exact ⟨arguments, settings, slashed, language, allSettings⟩

end JobMatrix.CommandLine
