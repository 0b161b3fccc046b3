import JobMatrix.CommandLine.Arguments

/-!
Arguments that are accepted. Reading them is a chain of steps, each of which takes one flag with its
value. A flag that was given once keeps its value and is not named again.
-/
namespace JobMatrix.CommandLine

namespace Argument

/-- A long flag is written as two hyphens and its name, then its value after an equals sign. -/
theorem toList_of_long {text name : String} {value : Option String}
    (shape : ofString text = .long name value) :
    text.toList =
      '-' :: '-' :: (name.toList ++ value.elim [] fun value => '=' :: value.toList) := by
  unfold ofString at shape
  split at shape
  · cases shape
  · rename_i rest _ written
    have whole := List.takeWhile_append_dropWhile (p := (· != '=')) (l := rest)
    dsimp only at shape
    split at shape
    · rename_i none
      cases shape
      rw [none, List.append_nil] at whole
      simp only [written, whole, String.toList_ofList, Option.elim_none, List.append_nil]
    · rename_i mark after found
      cases shape
      have equals := List.head?_dropWhile_not (· != '=') rest
      rw [found, List.head?_cons] at equals
      replace equals : mark = '=' := bne_eq_false_iff_eq.mp equals
      rw [found, equals] at whole
      simp only [written, String.toList_ofList, Option.elim_some, whole]
  · cases shape
  · cases shape

end Argument

def Names (name text : String) : Prop := ∃ value, Argument.ofString text = .long name value

namespace Flag

theorem ofName?_name (flag : Flag) : ofName? flag.name = some flag := by
  cases flag <;> rfl

theorem name_injective {flag other : Flag} (same : flag.name = other.name) : flag = other := by
  have found := ofName?_name other
  rw [← same, ofName?_name] at found
  exact Option.some.inj found

theorem name_of_ofName? {name : String} {flag : Flag} (found : ofName? name = some flag) :
    flag.name = name := by
  have same := List.find?_some (p := fun flag : Flag => flag.name == name) found
  exact beq_iff_eq.mp same

end Flag

namespace Given

variable {given next : Given} {flag : Flag} {value : String}

theorem add_eq_ok_iff : given.add flag value = .ok next ↔
    given.has flag = false ∧ (flag.takesPath && value.isEmpty) = false ∧
      next = ⟨given.values ++ [(flag, value)]⟩ := by
  unfold add
  cases given.has flag with
  | true => simp
  | false =>
    cases flag.takesPath && value.isEmpty with
    | true => simp
    | false => simp [eq_comm]

theorem value?_of_has_eq_false (absent : given.has flag = false) : given.value? flag = none := by
  rw [has, Option.isSome_eq_false_iff, Option.isNone_iff_eq_none] at absent
  exact absent

theorem value?_append (absent : given.has flag = false) (other : Flag) :
    (⟨given.values ++ [(flag, value)]⟩ : Given).value? other =
      if other = flag then some value else given.value? other := by
  have old := value?_of_has_eq_false absent
  unfold value? at old ⊢
  rw [List.find?_append]
  split
  · rename_i same
    rw [Option.map_eq_none_iff] at old
    simp [same, old]
  · rename_i differs
    simp [Ne.symm differs]

theorem value?_add (added : given.add flag value = .ok next) (other : Flag) :
    next.value? other = if other = flag then some value else given.value? other := by
  obtain ⟨absent, _, rfl⟩ := add_eq_ok_iff.mp added
  exact value?_append absent other

theorem has_add (added : given.add flag value = .ok next) (other : Flag) :
    next.has other = (decide (other = flag) || given.has other) := by
  rw [has, value?_add added]
  split
  · rename_i same
    simp [same]
  · rename_i differs
    simp [differs, has]

end Given

/-- How arguments that are accepted are read, flag by flag. -/
inductive Reads : Given → List String → Given → Prop
  | done (given : Given) : Reads given [] given
  | closed (given : Given) {text : String} (closes : Argument.ofString text = .endOfFlags) :
    Reads given [text] given
  | inline {given next final : Given} {text value : String} {flag : Flag} {rest : List String}
      (shape : Argument.ofString text = .long flag.name (some value))
      (added : given.add flag value = .ok next) (reads : Reads next rest final) :
    Reads given (text :: rest) final
  | separate {given next final : Given} {text value : String} {flag : Flag} {rest : List String}
      (shape : Argument.ofString text = .long flag.name none) (takes : flag.takesValue = true)
      (stands : standsAsValue value = true) (added : given.add flag value = .ok next)
      (reads : Reads next rest final) :
    Reads given (text :: value :: rest) final
  | switch {given next final : Given} {text : String} {flag : Flag} {rest : List String}
      (shape : Argument.ofString text = .long flag.name none) (takes : flag.takesValue = false)
      (added : given.add flag "" = .ok next) (reads : Reads next rest final) :
    Reads given (text :: rest) final

/-! The reader -/

theorem of_bind_eq_ok {α β : Type} {first : Except Stop α} {rest : α → Except Stop β} {result : β}
    (done : first >>= rest = .ok result) :
    ∃ value, first = .ok value ∧ rest value = .ok result := by
  cases first with
  | error stop => cases done
  | ok value => exact ⟨value, rfl, done⟩

namespace Progress

variable {progress next : Progress} {given final : Given} {flag : Flag}

@[simp]
theorem settle_idle (given : Given) : (idle given).settle = .ok given := rfl

theorem takeFlag_eq_ok {value : Option String} (taken : progress.takeFlag flag value = .ok next) :
    ∃ given, progress.settle = .ok given ∧
      ((∃ text after, value = some text ∧ given.add flag text = .ok after ∧
          next = idle after) ∨
        (value = none ∧ flag.takesValue = true ∧ next = ⟨given, .forValue flag⟩) ∨
        (∃ after, value = none ∧ flag.takesValue = false ∧ given.add flag "" = .ok after ∧
          next = idle after)) := by
  unfold takeFlag at taken
  cases value with
  | some text =>
    dsimp only at taken
    split at taken
    · obtain ⟨given, settled, taken⟩ := of_bind_eq_ok taken
      obtain ⟨after, added, done⟩ := of_bind_eq_ok taken
      cases done
      exact ⟨given, settled, .inl ⟨text, after, rfl, added, rfl⟩⟩
    · cases taken
  | none =>
    obtain ⟨given, settled, taken⟩ := of_bind_eq_ok taken
    refine ⟨given, settled, .inr ?_⟩
    split at taken
    · rename_i takes
      cases taken
      exact .inl ⟨rfl, takes, rfl⟩
    · rename_i bare
      obtain ⟨after, added, done⟩ := of_bind_eq_ok taken
      cases done
      exact .inr ⟨after, rfl, Bool.not_eq_true _ ▸ bare, added, rfl⟩

/-- Requests for help and for the version, and unknown names, end the reading. -/
theorem takeLong_eq_ok {name : String} {value : Option String}
    (taken : progress.takeLong name value = .ok next) :
    ∃ flag : Flag, flag.name = name ∧ progress.takeFlag flag value = .ok next := by
  unfold takeLong at taken
  split at taken
  · rename_i flag known
    exact ⟨flag, Flag.name_of_ofName? known, taken⟩
  · split at taken <;> cases taken

theorem takePlain_eq_ok {text : String} (taken : progress.takePlain text = .ok next) :
    ∃ flag, progress.waiting = .forValue flag ∧ next = ⟨progress.given, .withValue flag text⟩ := by
  unfold takePlain at taken
  split at taken
  · rename_i flag waiting
    cases taken
    exact ⟨flag, waiting, rfl⟩
  · cases taken

theorem not_forValue_of_settle (settled : progress.settle = .ok given) :
    progress.waiting ≠ .forValue flag := by
  intro waiting
  rw [settle, waiting] at settled
  cases settled

inductive Finishes : Progress → List String → Given → Prop
  | settled {progress : Progress} {given final : Given} {arguments : List String}
      (settled : progress.settle = .ok given) (reads : Reads given arguments final) :
    Finishes progress arguments final
  | awaited {given next final : Given} {flag : Flag} {value : String} {rest : List String}
      (stands : standsAsValue value = true) (added : given.add flag value = .ok next)
      (reads : Reads next rest final) :
    Finishes ⟨given, .forValue flag⟩ (value :: rest) final

theorem reads_of_finishes {given final : Given} {arguments : List String}
    (finishes : Finishes (idle given) arguments final) : Reads given arguments final := by
  cases finishes with
  | settled settled reads =>
    cases settled
    exact reads

/-- By induction on the arguments; what one of them does to the flag that waits is inverted by the
lemmas above. -/
theorem finishes_of_read {arguments : List String} (read : progress.read arguments = .ok final) :
    Finishes progress arguments final := by
  induction arguments generalizing progress with
  | nil => exact .settled read (.done final)
  | cons text rest ih =>
    rw [Progress.read] at read
    split at read
    · rename_i name value shape
      obtain ⟨next, taken, read⟩ := of_bind_eq_ok read
      obtain ⟨flag, rfl, takenFlag⟩ := takeLong_eq_ok taken
      obtain ⟨given, settled, ⟨text, after, rfl, added, rfl⟩ | ⟨rfl, takes, rfl⟩ |
        ⟨after, rfl, bare, added, rfl⟩⟩ := takeFlag_eq_ok takenFlag
      · exact .settled settled (.inline shape added (reads_of_finishes (ih read)))
      · cases ih read with
        | settled settled _ => cases settled
        | awaited stands added reads =>
          exact .settled settled (.separate shape takes stands added reads)
      · exact .settled settled (.switch shape bare added (reads_of_finishes (ih read)))
    · cases read
    · rename_i closes
      cases rest with
      | nil => exact .settled read (.closed final closes)
      | cons extra rest => cases read
    · rename_i plain
      obtain ⟨next, taken, read⟩ := of_bind_eq_ok read
      obtain ⟨flag, waiting, rfl⟩ := takePlain_eq_ok taken
      obtain ⟨given, waiting⟩ := progress
      subst waiting
      cases ih read with
      | settled added reads =>
        have stands : standsAsValue text = true := by rw [standsAsValue, plain]; rfl
        exact .awaited stands added reads

end Progress

theorem reads_of_readArguments {final : Given} {arguments : List String}
    (read : readArguments arguments = .ok final) : Reads Given.empty arguments final :=
  Progress.reads_of_finishes (Progress.finishes_of_read read)

/-- A value that stands by itself is no flag. -/
theorem not_names_of_standsAsValue {text : String} (stands : standsAsValue text = true)
    (name : String) : ¬Names name text := by
  rintro ⟨value, shape⟩
  rw [standsAsValue, shape] at stands
  exact absurd stands (by simp)

theorem not_names_of_endOfFlags {text : String} (closes : Argument.ofString text = .endOfFlags)
    (name : String) : ¬Names name text := by
  rintro ⟨value, shape⟩
  rw [closes] at shape
  cases shape

theorem names_iff_of_long {text : String} {flag other : Flag} {value : Option String}
    (shape : Argument.ofString text = .long other.name value) :
    Names flag.name text ↔ flag = other := by
  constructor
  · rintro ⟨value, also⟩
    rw [shape, Argument.long.injEq] at also
    exact Flag.name_injective also.1.symm
  · rintro rfl
    exact ⟨value, shape⟩

namespace Reads

variable {given final : Given} {arguments : List String} {flag : Flag}

/-- A flag that was given before keeps its value and is not named again. -/
theorem keeps (reads : Reads given arguments final) (had : given.has flag = true) :
    final.value? flag = given.value? flag ∧ ∀ text ∈ arguments, ¬Names flag.name text := by
  -- A step takes a flag that was not given, so another one.
  have step {given next : Given} {taken : Flag} {value : String}
      (had : given.has flag = true) (added : given.add taken value = .ok next) :
      flag ≠ taken ∧ next.has flag = true ∧ next.value? flag = given.value? flag := by
    have differs : flag ≠ taken := by
      rintro rfl
      rw [(Given.add_eq_ok_iff.mp added).1] at had
      cases had
    rw [Given.has_add added, Given.value?_add added, if_neg differs, had, Bool.or_true]
    exact ⟨differs, rfl, rfl⟩
  induction reads with
  | done given => exact ⟨rfl, fun text member => nomatch member⟩
  | closed given closes =>
    refine ⟨rfl, ?_⟩
    rw [List.forall_mem_singleton]
    exact not_names_of_endOfFlags closes flag.name
  | inline shape added reads ih =>
    obtain ⟨differs, has, kept⟩ := step had added
    obtain ⟨same, others⟩ := ih has
    refine ⟨same.trans kept, ?_⟩
    rw [List.forall_mem_cons, names_iff_of_long shape]
    exact ⟨differs, others⟩
  | separate shape takes stands added reads ih =>
    obtain ⟨differs, has, kept⟩ := step had added
    obtain ⟨same, others⟩ := ih has
    refine ⟨same.trans kept, ?_⟩
    rw [List.forall_mem_cons, List.forall_mem_cons, names_iff_of_long shape]
    exact ⟨differs, not_names_of_standsAsValue stands flag.name, others⟩
  | switch shape takes added reads ih =>
    obtain ⟨differs, has, kept⟩ := step had added
    obtain ⟨same, others⟩ := ih has
    refine ⟨same.trans kept, ?_⟩
    rw [List.forall_mem_cons, names_iff_of_long shape]
    exact ⟨differs, others⟩

end Reads

end JobMatrix.CommandLine
