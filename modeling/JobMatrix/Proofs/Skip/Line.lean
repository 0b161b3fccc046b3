import JobMatrix.Proofs.Text.Ending
import JobMatrix.Skip

/-!
Skip lines tell all there is to a skip. The name is written as it is and may itself look like a
skip line, so a line is taken apart from its end: each segment of the reason can be cut off, and
what is left in front of the first one is the name.
-/
namespace JobMatrix

namespace SkipCause

inductive Naming where
  | supports
  | platforms
  | labels
  deriving DecidableEq

def Naming.title : Naming → String
  | .supports => "supports"
  | .platforms => "unknown platforms"
  | .labels => "unknown labels"

inductive Part where
  | named (naming : Naming) (names : NameSet)
  | limited

def Part.text : Part → String
  | .named naming names => naming.title ++ "=" ++ Text.quoteList names.toList
  | .limited => "os constraints applied"

def Part.chars (part : Part) : List Char := part.text.toList

def names (cause : SkipCause) : Naming → NameSet
  | .supports => cause.supports
  | .platforms => cause.unknown.platforms
  | .labels => cause.unknown.labels

def namedPart (cause : SkipCause) (naming : Naming) : List Part :=
  if (cause.names naming).isEmpty then [] else [.named naming (cause.names naming)]

def parts (cause : SkipCause) : List Part :=
  cause.namedPart .supports ++ (if cause.limited then [.limited] else [])
    ++ cause.namedPart .platforms ++ cause.namedPart .labels

theorem map_namedPart (cause : SkipCause) (naming : Naming) :
    (cause.namedPart naming).map Part.text = namedList naming.title (cause.names naming) := by
  unfold namedPart namedList
  split
  · rfl
  · rfl

theorem segments_eq_parts (cause : SkipCause) : cause.segments = cause.parts.map Part.text := by
  unfold segments parts
  simp only [List.map_append, map_namedPart]
  congr 3
  split
  · rfl
  · rfl

theorem mem_namedPart {cause : SkipCause} {naming : Naming} {part : Part} :
    part ∈ cause.namedPart naming ↔
      cause.names naming ≠ ∅ ∧ part = .named naming (cause.names naming) := by
  unfold namedPart
  split
  · rename_i none
    simp [NameSet.isEmpty_iff.mp none]
  · rename_i some
    simp [NameSet.isEmpty_iff.not.mp some]

theorem named_mem_parts {cause : SkipCause} {naming : Naming} {names : NameSet} :
    .named naming names ∈ cause.parts ↔ names ≠ ∅ ∧ cause.names naming = names := by
  have limits : .named naming names ∉ (if cause.limited then [.limited] else [] : List Part) := by
    split
    · simp
    · simp
  simp only [parts, List.mem_append, mem_namedPart, limits, or_false, Part.named.injEq]
  constructor
  · rintro ((⟨some, rfl, rfl⟩ | ⟨some, rfl, rfl⟩) | ⟨some, rfl, rfl⟩)
    · exact ⟨some, rfl⟩
    · exact ⟨some, rfl⟩
    · exact ⟨some, rfl⟩
  · rintro ⟨some, rfl⟩
    cases naming with
    | supports => exact .inl (.inl ⟨some, rfl, rfl⟩)
    | platforms => exact .inl (.inr ⟨some, rfl, rfl⟩)
    | labels => exact .inr ⟨some, rfl, rfl⟩

theorem limited_mem_parts {cause : SkipCause} : .limited ∈ cause.parts ↔ cause.limited = true := by
  simp only [parts, List.mem_append, mem_namedPart, reduceCtorEq, and_false, or_false, false_or]
  split
  · rename_i limits
    simp [limits]
  · rename_i free
    simp [free]

theorem names_eq_of_parts_eq {a b : SkipCause} (same : a.parts = b.parts) (naming : Naming) :
    a.names naming = b.names naming := by
  by_cases none : b.names naming = ∅
  · by_contra differs
    have member : .named naming (a.names naming) ∈ a.parts :=
      named_mem_parts.mpr ⟨none ▸ differs, rfl⟩
    rw [same] at member
    exact differs (named_mem_parts.mp member).2.symm
  · have member : .named naming (b.names naming) ∈ b.parts := named_mem_parts.mpr ⟨none, rfl⟩
    rw [← same] at member
    exact (named_mem_parts.mp member).2

theorem limited_eq_of_parts_eq {a b : SkipCause} (same : a.parts = b.parts) :
    a.limited = b.limited := by
  rw [Bool.eq_iff_iff, ← limited_mem_parts, ← limited_mem_parts, same]

theorem eq_of_parts_eq {a b : SkipCause} (same : a.parts = b.parts) : a = b := by
  have supports : a.supports = b.supports := names_eq_of_parts_eq same .supports
  have platforms : a.unknown.platforms = b.unknown.platforms := names_eq_of_parts_eq same .platforms
  have labels : a.unknown.labels = b.unknown.labels := names_eq_of_parts_eq same .labels
  have limited := limited_eq_of_parts_eq same
  obtain ⟨_, _, _, _⟩ := a
  obtain ⟨_, _, _, _⟩ := b
  simp_all

theorem title_ending {u v : List Char} {a b : Naming}
    (same : u ++ a.title.toList = v ++ b.title.toList) : u = v ∧ a = b := by
  by_cases naming : a = b
  · subst naming
    exact ⟨List.append_cancel_right same, rfl⟩
  · have ends := congrArg List.reverse same
    cases a <;> cases b <;> simp [Naming.title] at ends naming

theorem named_chars (naming : Naming) (names : NameSet) : (Part.named naming names).chars =
    naming.title.toList ++ ('=' :: Text.quoteListChars (names.toList.map String.toList)) := by
  simp [Part.chars, Part.text, Text.quoteList]

theorem named_ending {u v : List Char} {a b : Naming} {names others : NameSet}
    (same : u ++ (Part.named a names).chars = v ++ (Part.named b others).chars) :
    u = v ∧ a = b ∧ names = others := by
  rw [named_chars, named_chars, ← List.append_assoc, ← List.append_assoc, List.append_cons,
    List.append_cons (v ++ _)] at same
  obtain ⟨fronts, lists⟩ := Text.quoteListChars_ending same
  obtain ⟨rfl, rfl⟩ := title_ending (List.append_cancel_right fronts)
  have namesEq := (List.map_inj_right fun _ _ => String.toList_inj.mp).mp lists
  exact ⟨rfl, rfl, NameSet.eq_of_toList_eq namesEq⟩

def Part.last : Part → Char
  | .named _ _ => ']'
  | .limited => 'd'

theorem part_getLast? (part : Part) : part.chars.getLast? = some part.last := by
  cases part with
  | named naming names =>
    rw [named_chars, Text.quoteListChars, ← List.cons_append, ← List.cons_append,
      ← List.append_assoc, List.getLast?_concat, Part.last]
  | limited => rfl

theorem part_cuttable : Text.Cuttable [' ', '('] [';', ' '] Part.chars where
  item := by
    intro u v a b _ _ same
    have lasts := Text.last_eq_of_append_eq (part_getLast? a) (part_getLast? b) same
    cases a with
    | named naming names =>
      cases b with
      | named other others =>
        obtain ⟨rfl, rfl, rfl⟩ := named_ending same
        exact ⟨rfl, rfl⟩
      | limited => simp [Part.last] at lasts
    | limited =>
      cases b with
      | named other others => simp [Part.last] at lasts
      | limited => exact ⟨List.append_cancel_right same, rfl⟩
  opening_ne := by
    intro u v same
    have bracket : '(' = ' ' := Text.last_eq_of_append_eq rfl rfl same
    exact absurd bracket (by decide)
  first := by
    intro u v a same
    have bracket : '(' = a.last := Text.last_eq_of_append_eq rfl (part_getLast? a) same
    cases a with
    | named naming names => simp [Part.last] at bracket
    | limited => simp [Part.last] at bracket

def opened (cause : SkipCause) : List Char := [' ', '('] ++ cause.text.toList

theorem opened_of_parts {cause : SkipCause} (some : cause.parts ≠ []) : cause.opened =
    [' ', '('] ++ List.intercalate [';', ' '] (cause.parts.map Part.chars) := by
  have segments : cause.segments.isEmpty = false := by simpa [segments_eq_parts] using some
  rw [opened, text, segments, if_neg Bool.false_ne_true, String.toList_intercalate,
    segments_eq_parts, List.map_map]
  rfl

theorem opened_of_no_parts {cause : SkipCause} (none : cause.parts = []) :
    cause.opened = " (no matching runners".toList := by
  rw [opened, text, segments_eq_parts, none]
  rfl

theorem opened_getLast? {cause : SkipCause} (nonempty : cause.parts ≠ []) :
    ∃ part : Part, cause.opened.getLast? = some part.last := by
  rcases List.eq_nil_or_concat' cause.parts with none | ⟨others, last, split⟩
  · exact absurd none nonempty
  · exists last
    rw [opened_of_parts nonempty, split, List.map_append, List.map_singleton, Text.listed_concat,
      List.getLast?_append, part_getLast?, Option.some_or]

theorem opened_ne_of_parts {a b : SkipCause} (some : a.parts ≠ []) (none : b.parts = [])
    {u v : List Char} : u ++ a.opened ≠ v ++ b.opened := by
  intro same
  obtain ⟨part, last⟩ := opened_getLast? some
  rw [opened_of_no_parts none] at same
  have letter : part.last = 's' := Text.last_eq_of_append_eq last rfl same
  cases part with
  | named naming names => simp [Part.last] at letter
  | limited => simp [Part.last] at letter

/-- A reason can be cut off the end, with the blank and bracket before it. -/
theorem opened_ending {u v : List Char} {a b : SkipCause}
    (same : u ++ a.opened = v ++ b.opened) : u = v ∧ a = b := by
  by_cases noneLeft : a.parts = []
  · by_cases noneRight : b.parts = []
    · rw [opened_of_no_parts noneLeft, opened_of_no_parts noneRight] at same
      exact ⟨List.append_cancel_right same, eq_of_parts_eq (noneLeft.trans noneRight.symm)⟩
    · exact absurd same.symm (opened_ne_of_parts noneRight noneLeft)
  · by_cases noneRight : b.parts = []
    · exact absurd same (opened_ne_of_parts noneLeft noneRight)
    · rw [opened_of_parts noneLeft, opened_of_parts noneRight] at same
      obtain ⟨fronts, parts⟩ := Text.listed_ending part_cuttable same
      exact ⟨fronts, eq_of_parts_eq parts⟩

end SkipCause

theorem Skip.line_chars (skip : Skip) :
    skip.line.toList = (skip.name.toList ++ skip.cause.opened) ++ [')'] := by
  simp [Skip.line, SkipCause.opened]

/-- Two skips with one line have one name and agree in every part of the cause. -/
theorem Skip.line_eq_line_iff (a b : Skip) :
    a.line = b.line ↔
      a.name = b.name ∧ a.cause.supports = b.cause.supports ∧
      a.cause.limited = b.cause.limited ∧
      a.cause.unknown.platforms = b.cause.unknown.platforms ∧
      a.cause.unknown.labels = b.cause.unknown.labels := by
  constructor
  · intro same
    have chars : a.line.toList = b.line.toList := congrArg String.toList same
    rw [line_chars, line_chars] at chars
    obtain ⟨names, cause⟩ := SkipCause.opened_ending (List.append_cancel_right chars)
    exact ⟨String.toList_inj.mp names, by rw [cause], by rw [cause], by rw [cause], by rw [cause]⟩
  · rintro ⟨name, supports, limited, platforms, labels⟩
    obtain ⟨_, _, _, _, _⟩ := a
    obtain ⟨_, _, _, _, _⟩ := b
    simp_all

end JobMatrix
