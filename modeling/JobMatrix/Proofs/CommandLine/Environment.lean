import JobMatrix.Proofs.CommandLine.Reading

/-!
What the environment adds to the arguments. An absent flag takes the value of its variable, and an
empty value is refused there as it is among the arguments, although the settings themselves take an
empty path for none. So a blank variable spoils a call that would go through without it. Flags are
filled in one after another, and of several blank variables the first one is named.
-/
namespace JobMatrix.CommandLine

def Flag.fallback? (environment : Environment) (flag : Flag) : Option String :=
  flag.variableName?.bind environment

theorem Flag.takesPath_of_variableName? {flag : Flag} {name : String}
    (named : flag.variableName? = some name) : flag.takesPath = true := by
  cases flag with
  | workspace | stepSummary | output => rfl
  | lang | platformMap | repros | strictLabels => cases named

/-- An absent flag with a variable that is set, but to nothing. -/
def Blank (environment : Environment) (given : Given) (flag : Flag) : Prop :=
  given.has flag = false ∧ flag.fallback? environment = some ""

instance (environment : Environment) (given : Given) (flag : Flag) :
    Decidable (Blank environment given flag) :=
  inferInstanceAs (Decidable (_ ∧ _))

def firstBlank? (environment : Environment) (given : Given) (flags : List Flag) : Option Flag :=
  flags.find? fun flag => Blank environment given flag

section Filling

variable {environment : Environment} {given final : Given} {flag : Flag}

theorem fillIn_of_has (has : given.has flag = true) :
    fillIn environment given flag = .ok given := by
  rw [fillIn, if_pos has]

theorem fillIn_of_absent (absent : given.has flag = false) : fillIn environment given flag =
    match flag.fallback? environment with
    | none => .ok given
    | some value => given.add flag value := by
  rw [fillIn, absent, if_neg Bool.false_ne_true, Flag.fallback?]
  cases flag.variableName? with
  | none => rfl
  | some name => rfl

theorem fillIn_of_blank (blank : Blank environment given flag) :
    fillIn environment given flag = .error (.badUsage (.valueMissing flag)) := by
  obtain ⟨absent, empty⟩ := blank
  obtain ⟨name, named, _⟩ := Option.bind_eq_some_iff.mp empty
  rw [fillIn_of_absent absent, empty]
  simp [Given.add, absent, Flag.takesPath_of_variableName? named]

/-- Filling in keeps what is given and takes what the environment has for an absent flag. -/
theorem fillIn_of_not_blank (filled : ¬Blank environment given flag) :
    ∃ next, fillIn environment given flag = .ok next ∧ ∀ other, next.value? other =
      (given.value? other).or (if other = flag then other.fallback? environment else none) := by
  cases has : given.has flag with
  | true =>
    refine ⟨given, fillIn_of_has has, ?_⟩
    intro other
    split
    · rename_i same
      obtain ⟨value, found⟩ := Option.isSome_iff_exists.mp has
      rw [same, found, Option.some_or]
    · rw [Option.or_none]
  | false =>
    rw [fillIn_of_absent has]
    cases set : flag.fallback? environment with
    | none =>
      refine ⟨given, rfl, ?_⟩
      intro other
      split
      · rename_i same
        rw [same, set, Option.or_none]
      · rw [Option.or_none]
    | some value =>
      have written : value.isEmpty = false := by
        rw [Bool.eq_false_iff, ne_eq, String.isEmpty_iff]
        rintro rfl
        exact filled ⟨has, set⟩
      have added : given.add flag value = .ok ⟨given.values ++ [(flag, value)]⟩ := by
        rw [Given.add_eq_ok_iff, written, Bool.and_false]
        exact ⟨has, rfl, rfl⟩
      refine ⟨_, added, ?_⟩
      intro other
      rw [Given.value?_add added]
      split
      · rename_i same
        rw [same, set, Given.value?_of_has_eq_false has, Option.none_or]
      · rw [Option.or_none]

/-- Which flags are blank does not change while others are filled in. -/
theorem blank_filled_iff {next : Given} {other : Flag} (filled : ¬Blank environment given other)
    (values : ∀ flag, next.value? flag =
      (given.value? flag).or (if flag = other then flag.fallback? environment else none)) :
    Blank environment next flag ↔ Blank environment given flag := by
  unfold Blank at filled ⊢
  rw [Given.has, values]
  by_cases same : flag = other
  · subst same
    rw [if_pos rfl]
    apply iff_of_false _ filled
    rintro ⟨absent, empty⟩
    simp [empty] at absent
  · rw [if_neg same, Option.or_none, Given.has]

theorem fillInAll_of_first {flags : List Flag}
    (first : firstBlank? environment given flags = some flag) :
    fillInAll environment given flags = .error (.badUsage (.valueMissing flag)) := by
  induction flags generalizing given with
  | nil => cases first
  | cons head rest ih =>
    rw [fillInAll]
    by_cases refused : Blank environment given head
    · rw [firstBlank?, List.find?_cons_of_pos (by simpa using refused), Option.some.injEq] at first
      rw [fillIn_of_blank refused, first]
    · rw [firstBlank?, List.find?_cons_of_neg (by simpa using refused)] at first
      obtain ⟨next, done, values⟩ := fillIn_of_not_blank refused
      rw [done]
      apply ih
      rw [← first]
      simp only [firstBlank?, blank_filled_iff refused values]

theorem fillInAll_of_not_blank {flags : List Flag}
    (filled : ∀ flag ∈ flags, ¬Blank environment given flag) :
    ∃ final, fillInAll environment given flags = .ok final ∧ ∀ flag, final.value? flag =
      (given.value? flag).or (if flag ∈ flags then flag.fallback? environment else none) := by
  induction flags generalizing given with
  | nil => exact ⟨given, rfl, fun flag => by simp⟩
  | cons first rest ih =>
    rw [List.forall_mem_cons] at filled
    obtain ⟨next, done, values⟩ := fillIn_of_not_blank filled.1
    have later : ∀ flag ∈ rest, ¬Blank environment next flag := fun flag member blank =>
      filled.2 flag member ((blank_filled_iff filled.1 values).mp blank)
    obtain ⟨final, allDone, allValues⟩ := ih later
    refine ⟨final, ?_, ?_⟩
    · rw [fillInAll, done]
      exact allDone
    · intro flag
      rw [allValues, values, Option.or_assoc]
      by_cases same : flag = first
      · simp only [same, if_true, List.mem_cons, true_or]
        cases first.fallback? environment with
        | none => simp
        | some value => simp
      · simp [same]

/-- The environment has no say in a flag without a variable. -/
theorem value?_fillInAll {flags : List Flag} (none : flag.variableName? = none)
    (filled : fillInAll environment given flags = .ok final) :
    final.value? flag = given.value? flag := by
  cases first : firstBlank? environment given flags with
  | some other =>
    rw [fillInAll_of_first first] at filled
    cases filled
  | none =>
    obtain ⟨_, done, values⟩ := fillInAll_of_not_blank (by simpa [firstBlank?] using first)
    rw [done, Except.ok.injEq] at filled
    rw [← filled, values, Flag.fallback?, none, Option.bind_none, ite_self, Option.or_none]

end Filling

/-! Outcomes -/

/-- What becomes of a call: the settings of a run, or what stops it. -/
def outcome (environment : Environment) (workingDirectory : String) (arguments : List String) :
    Except Stop Settings :=
  (given environment arguments).map (Given.settings workingDirectory)

def withVariables (environment : Environment) (names : List String) (value : Option String) :
    Environment :=
  fun name => if name ∈ names then value else environment name

def Flag.FedBy (names : List String) (flag : Flag) : Prop :=
  ∃ name ∈ names, flag.variableName? = some name

theorem Flag.mem_all (flag : Flag) : flag ∈ Flag.all := by
  cases flag <;> decide

variable {environment : Environment} {names : List String} {value : Option String}
  {workingDirectory : String} {arguments : List String} {taken : Given} {flag : Flag}

theorem fallback?_of_fedBy (fed : flag.FedBy names) :
    flag.fallback? (withVariables environment names value) = value := by
  obtain ⟨name, member, named⟩ := fed
  rw [Flag.fallback?, named, Option.bind_some, withVariables, if_pos member]

theorem fallback?_of_not_fedBy (unfed : ¬flag.FedBy names) :
    flag.fallback? (withVariables environment names value) = flag.fallback? environment := by
  unfold Flag.fallback?
  cases named : flag.variableName? with
  | none => rfl
  | some name =>
    have other : name ∉ names := fun member => unfed ⟨name, member, named⟩
    rw [Option.bind_some, Option.bind_some, withVariables, if_neg other]

theorem settings_congr {final other : Given}
    (same : ∀ flag, final.value? flag = other.value? flag) :
    final.settings workingDirectory = other.settings workingDirectory := by
  simp only [Given.settings, Given.has, same]

theorem firstBlank?_eq_none_iff :
    firstBlank? environment taken Flag.all = none ↔ ∀ flag, ¬Blank environment taken flag := by
  simp [firstBlank?, Flag.mem_all]

theorem outcome_of_stop {stop : Stop} (read : readArguments arguments = .error stop) :
    outcome environment workingDirectory arguments = .error stop := by
  rw [outcome, given, read]
  rfl

theorem outcome_of_first (read : readArguments arguments = .ok taken)
    (first : firstBlank? environment taken Flag.all = some flag) :
    outcome environment workingDirectory arguments = .error (.badUsage (.valueMissing flag)) := by
  rw [outcome, given, read]
  dsimp only
  rw [fillInAll_of_first first]
  rfl

theorem outcome_of_not_blank (workingDirectory : String)
    (read : readArguments arguments = .ok taken)
    (filled : ∀ flag, ¬Blank environment taken flag) :
    ∃ final : Given, outcome environment workingDirectory arguments =
        .ok (final.settings workingDirectory) ∧
      ∀ flag, final.value? flag = (taken.value? flag).or (flag.fallback? environment) := by
  obtain ⟨final, done, values⟩ := fillInAll_of_not_blank fun flag _ => filled flag
  refine ⟨final, ?_, ?_⟩
  · rw [outcome, given, read]
    dsimp only
    rw [done]
    rfl
  · intro flag
    rw [values, if_pos flag.mem_all]

/-- Only the variables of absent flags have a say. -/
theorem outcome_congr {other : Environment}
    (read : readArguments arguments = .ok taken)
    (same : ∀ flag, taken.has flag = false →
      flag.fallback? environment = flag.fallback? other) :
    outcome environment workingDirectory arguments =
      outcome other workingDirectory arguments := by
  have alike : ∀ flag, Blank environment taken flag ↔ Blank other taken flag := by
    intro flag
    unfold Blank
    apply and_congr_right
    intro absent
    rw [same flag absent]
  have firstAlike : firstBlank? environment taken Flag.all = firstBlank? other taken Flag.all := by
    simp only [firstBlank?, alike]
  cases first : firstBlank? other taken Flag.all with
  | some flag => rw [outcome_of_first read (firstAlike.trans first), outcome_of_first read first]
  | none =>
    obtain ⟨final, done, values⟩ := outcome_of_not_blank workingDirectory read
      (firstBlank?_eq_none_iff.mp (firstAlike.trans first))
    obtain ⟨also, alsoDone, alsoValues⟩ := outcome_of_not_blank workingDirectory read
      (firstBlank?_eq_none_iff.mp first)
    rw [done, alsoDone]
    congr 1
    apply settings_congr
    intro flag
    rw [values, alsoValues]
    cases has : taken.has flag with
    | true =>
      obtain ⟨value, found⟩ := Option.isSome_iff_exists.mp has
      rw [found, Option.some_or, Option.some_or]
    | false => rw [same flag has]

/-! Blank variables -/

/-- The arguments are in order, and of the flags that they leave out this is the first one in the
list of flags whose variable is blank. -/
def Refuses (environment : Environment) (arguments : List String) (flag : Flag) : Prop :=
  ∃ taken, readArguments arguments = .ok taken ∧
    firstBlank? environment taken Flag.all = some flag

theorem outcome_of_refuses (refuses : Refuses environment arguments flag) :
    outcome environment workingDirectory arguments = .error (.badUsage (.valueMissing flag)) := by
  obtain ⟨taken, read, first⟩ := refuses
  exact outcome_of_first read first

theorem outcome_of_not_refuses (workingDirectory : String)
    (read : readArguments arguments = .ok taken)
    (unrefused : ∀ flag, ¬Refuses environment arguments flag) :
    ∃ settings, outcome environment workingDirectory arguments = .ok settings := by
  have filled : firstBlank? environment taken Flag.all = none :=
    Option.eq_none_iff_forall_ne_some.mpr fun flag first => unrefused flag ⟨taken, read, first⟩
  obtain ⟨final, done, _⟩ :=
    outcome_of_not_blank workingDirectory read (firstBlank?_eq_none_iff.mp filled)
  exact ⟨_, done⟩

theorem blank_of_unset (blank : Blank (withVariables environment names none) taken flag) :
    Blank (withVariables environment names (some "")) taken flag := by
  obtain ⟨absent, empty⟩ := blank
  refine ⟨absent, ?_⟩
  by_cases fed : flag.FedBy names
  · exact fallback?_of_fedBy fed
  · rw [fallback?_of_not_fedBy fed] at empty ⊢
    exact empty

theorem not_refuses_of_fedBy (fed : flag.FedBy names) :
    ¬Refuses (withVariables environment names none) arguments flag := by
  rintro ⟨taken, _, first⟩
  have blank : Blank (withVariables environment names none) taken flag := by
    simpa using List.find?_some first
  cases (fallback?_of_fedBy fed).symm.trans blank.2

/-- Where the first blank variable is not one of those blanked out, it is the first one without
them, too. -/
theorem first_of_unset (unfed : ¬flag.FedBy names)
    (first : firstBlank? (withVariables environment names (some "")) taken Flag.all = some flag) :
    firstBlank? (withVariables environment names none) taken Flag.all = some flag := by
  unfold firstBlank? at first ⊢
  rw [List.find?_eq_some_iff_append] at first ⊢
  obtain ⟨blank, before, after, split, filled⟩ := first
  simp only [decide_eq_true_eq, Bool.not_eq_true', decide_eq_false_iff_not] at blank filled ⊢
  refine ⟨⟨blank.1, ?_⟩, before, after, split, ?_⟩
  · rw [fallback?_of_not_fedBy unfed, ← fallback?_of_not_fedBy unfed]
    exact blank.2
  · intro other member
    exact mt blank_of_unset (filled other member)

theorem outcomes_of_unfed
    (unfed : ∀ flag, Refuses (withVariables environment names (some "")) arguments flag →
      ¬flag.FedBy names) :
    outcome (withVariables environment names (some "")) workingDirectory arguments =
      outcome (withVariables environment names none) workingDirectory arguments := by
  cases read : readArguments arguments with
  | error stop => rw [outcome_of_stop read, outcome_of_stop read]
  | ok taken =>
    cases first : firstBlank? (withVariables environment names (some "")) taken Flag.all with
    | some flag =>
      have also := first_of_unset (unfed flag ⟨taken, read, first⟩) first
      rw [outcome_of_first read first, outcome_of_first read also]
    | none =>
      apply outcome_congr read
      intro flag absent
      have unfed : ¬flag.FedBy names := fun fed =>
        firstBlank?_eq_none_iff.mp first flag ⟨absent, fallback?_of_fedBy fed⟩
      rw [fallback?_of_not_fedBy unfed, fallback?_of_not_fedBy unfed]

/-- Blank variables count as unset ones, except where one of them is refused: the first that is
blank among the flags left out. Unset, they let the call go through, or leave it to the refusal of
another variable. -/
theorem blank_counts_as_unset_iff (environment : Environment) (names : List String)
    (workingDirectory : String) (arguments : List String) :
    let blanked := withVariables environment names (some "")
    let unset := withVariables environment names none
    (outcome blanked workingDirectory arguments = outcome unset workingDirectory arguments ↔
      ∀ flag, Refuses blanked arguments flag → ¬flag.FedBy names) ∧
    ∀ flag, Refuses blanked arguments flag → flag.FedBy names →
      outcome blanked workingDirectory arguments = .error (.badUsage (.valueMissing flag)) ∧
      (∀ other, Refuses unset arguments other → other ≠ flag ∧
        outcome unset workingDirectory arguments = .error (.badUsage (.valueMissing other))) ∧
      ((∀ other, ¬Refuses unset arguments other) →
        ∃ settings, outcome unset workingDirectory arguments = .ok settings) := by
  intro blanked unset
  refine ⟨⟨?_, outcomes_of_unfed⟩, ?_⟩
  · intro same flag refuses fed
    obtain ⟨taken, read, first⟩ := refuses
    rw [outcome_of_first read first] at same
    by_cases other : ∃ other, Refuses unset arguments other
    · obtain ⟨other, refuses⟩ := other
      rw [outcome_of_refuses refuses] at same
      cases same
      exact not_refuses_of_fedBy fed refuses
    · obtain ⟨settings, accepted⟩ :=
        outcome_of_not_refuses workingDirectory read (not_exists.mp other)
      rw [accepted] at same
      cases same
  · intro flag refuses fed
    refine ⟨outcome_of_refuses refuses, ?_, ?_⟩
    · intro other also
      refine ⟨?_, outcome_of_refuses also⟩
      rintro rfl
      exact not_refuses_of_fedBy fed also
    · obtain ⟨taken, read, _⟩ := refuses
      exact outcome_of_not_refuses workingDirectory read

def noVariables : Environment := fun _ => none

/-- Without arguments a blank workspace is refused, while the working directory stands in for an
unset one. -/
theorem blank_workspace_refused :
    outcome (withVariables noVariables ["GITHUB_WORKSPACE"] (some "")) "/work" [] =
        .error (.badUsage (.valueMissing .workspace)) ∧
      outcome (withVariables noVariables ["GITHUB_WORKSPACE"] none) "/work" [] =
        .ok (Settings.ofWorkspace "/work") ∧
      outcome (withVariables noVariables ["GITHUB_WORKSPACE"] (some "")) "/work" [] ≠
        outcome (withVariables noVariables ["GITHUB_WORKSPACE"] none) "/work" [] := by
  have refused :
      outcome (withVariables noVariables ["GITHUB_WORKSPACE"] (some "")) "/work" [] =
        .error (.badUsage (.valueMissing .workspace)) := by rfl
  have accepted :
      outcome (withVariables noVariables ["GITHUB_WORKSPACE"] none) "/work" [] =
        .ok (Settings.ofWorkspace "/work") := by rfl
  refine ⟨refused, accepted, ?_⟩
  rw [refused, accepted]
  exact nofun

def blankSummary : Environment := fun name => if name = "GITHUB_STEP_SUMMARY" then some "" else none

/-- Beside a blank summary a blank output makes no difference, and a blank workspace does only as
long as no workspace is given. -/
theorem blank_beside_summary :
    outcome (withVariables blankSummary ["GITHUB_OUTPUT"] (some "")) "/work" ["--lang=en"] =
      outcome (withVariables blankSummary ["GITHUB_OUTPUT"] none) "/work" ["--lang=en"] ∧
    outcome (withVariables blankSummary ["GITHUB_WORKSPACE"] (some "")) "/work" ["--lang=en"] =
      .error (.badUsage (.valueMissing .workspace)) ∧
    outcome (withVariables blankSummary ["GITHUB_WORKSPACE"] none) "/work" ["--lang=en"] =
      .error (.badUsage (.valueMissing .stepSummary)) ∧
    outcome (withVariables blankSummary ["GITHUB_WORKSPACE"] (some "")) "/work"
        ["--workspace=/tree"] =
      outcome (withVariables blankSummary ["GITHUB_WORKSPACE"] none) "/work"
        ["--workspace=/tree"] := by
  have language : readArguments ["--lang=en"] = .ok ⟨[(.lang, "en")]⟩ := by rfl
  have tree : readArguments ["--workspace=/tree"] = .ok ⟨[(.workspace, "/tree")]⟩ := by rfl
  have unfed {names arguments : List String} {taken : Given}
      (read : readArguments arguments = .ok taken)
      (first : firstBlank? (withVariables blankSummary names (some "")) taken Flag.all =
        some .stepSummary)
      (other : "GITHUB_STEP_SUMMARY" ∉ names) (flag : Flag) :
      Refuses (withVariables blankSummary names (some "")) arguments flag →
        ¬flag.FedBy names := by
    rintro ⟨_, also, refused⟩ ⟨name, member, named⟩
    rw [read] at also
    cases also
    rw [first] at refused
    cases refused
    cases named
    exact other member
  have workspace := (blank_counts_as_unset_iff blankSummary ["GITHUB_WORKSPACE"] "/work"
    ["--lang=en"]).2 .workspace ⟨_, language, by decide⟩ ⟨"GITHUB_WORKSPACE", by decide, rfl⟩
  refine ⟨?_, workspace.1, (workspace.2.1 .stepSummary ⟨_, language, by decide⟩).2, ?_⟩
  · exact (blank_counts_as_unset_iff blankSummary ["GITHUB_OUTPUT"] "/work" ["--lang=en"]).1.mpr
      (unfed language (by decide) (by decide))
  · exact (blank_counts_as_unset_iff blankSummary ["GITHUB_WORKSPACE"] "/work"
      ["--workspace=/tree"]).1.mpr (unfed tree (by decide) (by decide))

end JobMatrix.CommandLine
