import JobMatrix.Proofs.CommandLine.Environment
import Mathlib.Data.List.TakeWhile

/-!
The language before and after the arguments are read. The first look at the bare arguments does not
know which of them are values, nor that a flag stands once; where the arguments are accepted it
finds what the reading finds.
-/
namespace JobMatrix.CommandLine

variable {text : String} {rest : List String}

theorem ofString_languageMark : Argument.ofString "--lang" = .long "lang" none := by decide

theorem eq_languageMark (shape : Argument.ofString text = .long "lang" none) : text = "--lang" := by
  apply String.toList_injective
  rw [Argument.toList_of_long shape]
  rfl

theorem languageArgument?_cons_of_not_names (unnamed : ¬Names "lang" text) :
    languageArgument? (text :: rest) = languageArgument? rest := by
  have differs : text ≠ "--lang" := by
    rintro rfl
    exact unnamed ⟨none, ofString_languageMark⟩
  unfold languageArgument?
  rw [List.dropWhile_cons_of_pos (by simpa using differs)]
  split
  · rfl
  · rw [List.findSome?_cons]
    split
    · rename_i found
      split at found
      · rename_i value shape
        exact absurd ⟨value, shape⟩ unnamed
      · cases found
    · rfl

theorem languageArgument?_cons_of_long {flag : Flag} {value : Option String}
    (shape : Argument.ofString text = .long flag.name value) (differs : Flag.lang ≠ flag) :
    languageArgument? (text :: rest) = languageArgument? rest := by
  apply languageArgument?_cons_of_not_names
  intro named
  exact differs ((names_iff_of_long shape).mp named)

theorem languageArgument?_separate {value : String}
    (shape : Argument.ofString text = .long "lang" none) :
    languageArgument? (text :: value :: rest) = some value := by
  rw [eq_languageMark shape]
  rfl

theorem languageArgument?_inline {value : String}
    (shape : Argument.ofString text = .long "lang" (some value))
    (unnamed : ∀ text ∈ rest, ¬Names "lang" text) :
    languageArgument? (text :: rest) = some value := by
  have unmarked : ∀ other ∈ text :: rest, other ≠ "--lang" := by
    rw [List.forall_mem_cons]
    constructor
    · rintro rfl
      cases ofString_languageMark.symm.trans shape
    · rintro _ later rfl
      exact unnamed _ later ⟨none, ofString_languageMark⟩
  unfold languageArgument?
  rw [List.dropWhile_eq_nil_iff.mpr (by simpa using unmarked)]
  simp only [List.findSome?_cons, shape]

theorem Reads.languageArgument?_eq {given final : Given} {arguments : List String}
    (reads : Reads given arguments final) (absent : given.has .lang = false) :
    languageArgument? arguments = final.value? .lang := by
  -- Once the language is taken no later argument names it, and until then nothing is found.
  have still {given next : Given} {flag : Flag} {value : String} (absent : given.has .lang = false)
      (differs : Flag.lang ≠ flag) (added : given.add flag value = .ok next) :
      next.has .lang = false := by
    rw [Given.has_add added, absent, Bool.or_false, decide_eq_false differs]
  have taken {given next : Given} {value : String} (added : given.add .lang value = .ok next) :
      next.has .lang = true ∧ next.value? .lang = some value := by
    rw [Given.has_add added, Given.value?_add added, if_pos rfl]
    exact ⟨rfl, rfl⟩
  induction reads with
  | done given => exact (Given.value?_of_has_eq_false absent).symm
  | closed given closes =>
    rw [languageArgument?_cons_of_not_names (not_names_of_endOfFlags closes "lang"),
      Given.value?_of_has_eq_false absent]
    rfl
  | @inline given next final text value flag rest shape added reads ih =>
    by_cases same : Flag.lang = flag
    · subst same
      obtain ⟨has, found⟩ := taken added
      obtain ⟨kept, unnamed⟩ := reads.keeps has
      rw [languageArgument?_inline shape unnamed, kept, found]
    · rw [languageArgument?_cons_of_long shape same]
      exact ih (still absent same added)
  | @separate given next final text value flag rest shape takes stands added reads ih =>
    by_cases same : Flag.lang = flag
    · subst same
      obtain ⟨has, found⟩ := taken added
      rw [languageArgument?_separate shape, (reads.keeps has).1, found]
    · rw [languageArgument?_cons_of_long shape same,
        languageArgument?_cons_of_not_names (not_names_of_standsAsValue stands "lang")]
      exact ih (still absent same added)
  | @switch given next final text flag rest shape takes added reads ih =>
    have differs : Flag.lang ≠ flag := by
      rintro rfl
      cases takes
    rw [languageArgument?_cons_of_long shape differs]
    exact ih (still absent differs added)

/-- Where arguments are accepted, the bare look at them finds the language that is given, whether
the name of the program goes before them or not. -/
theorem languageArgument?_of_given {environment : Environment} {arguments : List String}
    {final : Given} (accepted : given environment arguments = .ok final) :
    languageArgument? arguments = final.value? .lang ∧
    ∀ program : String, ¬"--lang".toList <+: program.toList →
      languageArgument? (program :: arguments) = final.value? .lang := by
  have found : languageArgument? arguments = final.value? .lang := by
    unfold given at accepted
    split at accepted
    · cases accepted
    · rename_i taken read
      rw [value?_fillInAll rfl accepted]
      exact (reads_of_readArguments read).languageArgument?_eq rfl
  refine ⟨found, ?_⟩
  intro program unmarked
  have unnamed : ¬Names "lang" program := by
    rintro ⟨value, shape⟩
    apply unmarked
    rw [Argument.toList_of_long shape]
    exact List.prefix_append "--lang".toList _
  rw [languageArgument?_cons_of_not_names unnamed, found]

def emptyLanguage : List String := ["--repros=--lang=en", "--lang", "", "--strict-labels"]

theorem emptyLanguage_found :
    given (fun _ => none) emptyLanguage =
      .ok ⟨[(.repros, "--lang=en"), (.lang, ""), (.strictLabels, "")]⟩ ∧
    ¬"--lang".toList <+: programName.toList ∧
    languageArgument? emptyLanguage = some "" ∧
    languageArgument? (programName :: emptyLanguage) = some "" := by
  have accepted : given (fun _ => none) emptyLanguage =
      .ok ⟨[(.repros, "--lang=en"), (.lang, ""), (.strictLabels, "")]⟩ := by rfl
  have unmarked : ¬"--lang".toList <+: programName.toList := by decide
  obtain ⟨found, below⟩ := languageArgument?_of_given accepted
  exact ⟨accepted, unmarked, found, below programName unmarked⟩

end JobMatrix.CommandLine
