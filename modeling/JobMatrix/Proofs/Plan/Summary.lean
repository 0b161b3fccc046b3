import JobMatrix.Plan.Summary
import JobMatrix.Proofs.Json.Numerals
import JobMatrix.Proofs.Json.Strings
import JobMatrix.Proofs.Skip.Line
import JobMatrix.Proofs.Text.Literals

/-!
The step summary read back line by line. A list is known by its title after a blank line, and its
items by the dash in front of them. A blank line has no dash, so a list ends where the next one
begins, and an item may be empty or look like a title. The names that a summary shows as they are
must hold no line feed; what a reason quotes may hold any.
-/
namespace JobMatrix

/-- The lines of a text without their line feeds. What follows the last line feed is no line. -/
def linesOf (text : String) : List String :=
  (text.toList.splitOn '\n').dropLast.map String.ofList

def OneLine (text : String) : Prop := '\n' ∉ text.toList

instance (text : String) : Decidable (OneLine text) := inferInstanceAs (Decidable (_ ∉ _))

theorem oneLine_append {a b : String} : OneLine (a ++ b) ↔ OneLine a ∧ OneLine b := by
  simp only [OneLine, String.toList_append, List.mem_append, not_or]

theorem linesText_cons (line : String) (lines : List String) :
    (linesText (line :: lines)).toList = line.toList ++ '\n' :: (linesText lines).toList := by
  simp [linesText, endedLine]

theorem linesOf_linesText {lines : List String} (whole : ∀ line ∈ lines, OneLine line) :
    linesOf (linesText lines) = lines := by
  induction lines with
  | nil => rfl
  | cons line lines ih =>
    rw [List.forall_mem_cons] at whole
    rw [linesOf, linesText_cons, List.splitOn_append_cons_self_of_not_mem whole.1,
      List.dropLast_cons_of_ne_nil (List.splitOn_ne_nil _ _), List.map_cons, String.ofList_toList]
    exact congrArg _ (ih whole.2)

/-! Skip lines -/

namespace SkipCause

theorem part_printable {part : Part} {c : Char} (member : c ∈ part.chars) :
    Text.isWidelyPrintable c = true := by
  cases part with
  | named naming names =>
    rw [named_chars, List.mem_append, List.mem_cons] at member
    rcases member with title | rfl | listed
    · apply Text.widelyPrintable_of_ascii
      cases naming <;> exact Json.visible_of_all (by decide) c title
    · exact Text.widelyPrintable_of_ascii (by decide)
    · exact Text.quoteListChars_printable listed
  | limited => exact Text.widelyPrintable_of_ascii (Json.visible_of_all (by decide) c member)

/-- Whatever the names in a reason hold, the reason is printable. -/
theorem opened_printable {cause : SkipCause} {c : Char} (member : c ∈ cause.opened) :
    Text.isWidelyPrintable c = true := by
  by_cases none : cause.parts = []
  · rw [opened_of_no_parts none] at member
    exact Text.widelyPrintable_of_ascii (Json.visible_of_all (by decide) c member)
  · rw [opened_of_parts none, List.mem_append] at member
    rcases member with bracket | listed
    · exact Text.widelyPrintable_of_ascii (Json.visible_of_all (by decide) c bracket)
    · rcases Text.mem_intercalate listed with between | ⟨chars, among, inside⟩
      · exact Text.widelyPrintable_of_ascii (Json.visible_of_all (by decide) c between)
      · obtain ⟨part, _, rfl⟩ := List.mem_map.mp among
        exact part_printable inside

end SkipCause

theorem Skip.oneLine_line {skip : Skip} (name : OneLine skip.name) : OneLine skip.line := by
  intro member
  rw [line_chars, List.mem_append, List.mem_append] at member
  rcases member with (inName | inReason) | bracket
  · exact name inName
  · have shown := SkipCause.opened_printable inReason
    exact absurd (Text.not_has_of_widelyPrintable shown).1 (by decide)
  · exact absurd bracket (by decide)

/-! Reading -/

namespace Summary

structure Report where
  count : Nat
  skips : List String
  platforms : NameSet
  labels : NameSet
  deriving DecidableEq

def readTotal (line : String) : Option Nat :=
  match "Total repro jobs: ".toList.isPrefixOf? line.toList with
  | some digits => if digits.all Char.isDigit then some (Json.digitsValue digits) else none
  | none => none

def readItem (line : String) : Option String :=
  match line.toList with
  | '-' :: ' ' :: text => some (String.ofList text)
  | _ => none

def readItems : List String → List String × List String
  | [] => ([], [])
  | line :: rest =>
    match readItem line with
    | some text => (text :: (readItems rest).1, (readItems rest).2)
    | none => ([], line :: rest)

def readTitled (title : String) : List String → List String × List String
  | "" :: line :: rest => if line = title then readItems rest else ([], "" :: line :: rest)
  | lines => ([], lines)

def readLists : List String → List String → Option (List (List String))
  | [], lines => if lines.isEmpty then some [] else none
  | title :: titles, lines =>
    (readLists titles (readTitled title lines).2).map ((readTitled title lines).1 :: ·)

def read (text : String) : Option Report :=
  match linesOf text with
  | [] => none
  | line :: rest =>
    match readTotal line, readLists [skipTitle, platformTitle, labelTitle] rest with
    | some count, some [skips, platforms, labels] =>
      some ⟨count, skips, NameSet.ofList platforms, NameSet.ofList labels⟩
    | _, _ => none

theorem total_chars (count : Nat) :
    (total count).toList = "Total repro jobs: ".toList ++ Nat.toDigits 10 count := by
  have digits : (toString count).toList = Nat.toDigits 10 count := by
    rw [Nat.toString_eq_ofList_toDigits, String.toList_ofList]
  rw [← digits]
  exact String.toList_append

theorem readTotal_total (count : Nat) : readTotal (total count) = some count := by
  have front := List.isPrefixOf?_eq_some_iff_append_eq.mpr (total_chars count).symm
  have digits : (Nat.toDigits 10 count).all Char.isDigit = true := by
    rw [List.all_eq_true]
    intro c member
    exact Json.digit_of_mem_toDigits member
  rw [readTotal, front]
  dsimp only
  rw [if_pos digits, Json.digitsValue_toDigits]

theorem readItem_item (text : String) : readItem (item text) = some text := by
  have chars : (item text).toList = '-' :: ' ' :: text.toList := by
    rw [item, String.toList_append]
    rfl
  rw [readItem, chars]
  exact congrArg some String.ofList_toList

theorem readItems_items {rest : List String} (ends : readItems rest = ([], rest))
    (items : List String) : readItems (items.map item ++ rest) = (items, rest) := by
  induction items with
  | nil => exact ends
  | cons text items ih => rw [List.map_cons, List.cons_append, readItems, readItem_item, ih]

def lists (sections : List (String × List String)) : List String :=
  sections.flatMap fun entry => titled entry.1 entry.2

theorem lists_cons (title : String) (items : List String)
    (sections : List (String × List String)) :
    lists ((title, items) :: sections) = titled title items ++ lists sections :=
  List.flatMap_cons

/-- A list that is not empty begins with a blank line and one of the titles. -/
theorem lists_cases (sections : List (String × List String)) : lists sections = [] ∨
    ∃ title ∈ sections.map Prod.fst, ∃ rest, lists sections = "" :: title :: rest := by
  induction sections with
  | nil => exact .inl rfl
  | cons entry sections ih =>
    obtain ⟨title, items⟩ := entry
    rw [lists_cons, titled, List.map_cons]
    cases items with
    | nil =>
      rcases ih with none | ⟨later, among, rest, shape⟩
      · exact .inl none
      · exact .inr ⟨later, List.mem_cons_of_mem title among, rest, shape⟩
    | cons text items => exact .inr ⟨title, List.mem_cons_self, _, rfl⟩

theorem readItems_lists (sections : List (String × List String)) :
    readItems (lists sections) = ([], lists sections) := by
  rcases lists_cases sections with none | ⟨title, _, rest, shape⟩
  · rw [none]
    rfl
  · rw [shape]
    rfl

theorem readTitled_of_not_mem {title : String} {sections : List (String × List String)}
    (other : title ∉ sections.map Prod.fst) :
    readTitled title (lists sections) = ([], lists sections) := by
  rcases lists_cases sections with none | ⟨later, among, rest, shape⟩
  · rw [none]
    rfl
  · have differs : later ≠ title := by
      rintro rfl
      exact other among
    rw [shape, readTitled, if_neg differs]

theorem readTitled_lists {title : String} {sections : List (String × List String)}
    (other : title ∉ sections.map Prod.fst) (items : List String) :
    readTitled title (titled title items ++ lists sections) = (items, lists sections) := by
  cases items with
  | nil => exact readTitled_of_not_mem other
  | cons text items =>
    have listed := readItems_items (readItems_lists sections) (text :: items)
    rw [titled, if_neg (by simp), List.cons_append, List.cons_append, readTitled, if_pos rfl,
      listed]

/-- Lists under different titles are told apart, whatever their titles and items are. -/
theorem readLists_lists {sections : List (String × List String)}
    (distinct : (sections.map Prod.fst).Nodup) :
    readLists (sections.map Prod.fst) (lists sections) = some (sections.map Prod.snd) := by
  induction sections with
  | nil => rfl
  | cons entry sections ih =>
    obtain ⟨title, items⟩ := entry
    rw [List.map_cons, List.nodup_cons] at distinct
    rw [lists_cons, List.map_cons, readLists, readTitled_lists distinct.1, ih distinct.2]
    rfl

theorem oneLine_title {title : String} (known : title ∈ [skipTitle, platformTitle, labelTitle]) :
    OneLine title := by
  simp only [List.mem_cons, List.not_mem_nil, or_false] at known
  rcases known with rfl | rfl | rfl <;> decide +kernel

theorem oneLine_total (count : Nat) : OneLine (total count) := by
  intro member
  rw [total_chars, List.mem_append] at member
  rcases member with title | digit
  · exact absurd title (by decide +kernel)
  · exact absurd (Json.digit_of_mem_toDigits digit) (by decide)

theorem oneLine_item {text : String} (whole : OneLine text) : OneLine (item text) :=
  oneLine_append.mpr ⟨by decide +kernel, whole⟩

theorem oneLine_lists {sections : List (String × List String)}
    (titles : ∀ entry ∈ sections, OneLine entry.1)
    (items : ∀ entry ∈ sections, ∀ text ∈ entry.2, OneLine text) :
    ∀ line ∈ lists sections, OneLine line := by
  intro line member
  obtain ⟨⟨title, texts⟩, among, inside⟩ := List.mem_flatMap.mp member
  unfold titled at inside
  split at inside
  · cases inside
  · rw [List.mem_cons, List.mem_cons, List.mem_map] at inside
    rcases inside with rfl | rfl | ⟨text, listed, rfl⟩
    · decide +kernel
    · exact titles _ among
    · exact oneLine_item (items _ among text listed)

end Summary

namespace Plan

/-- The names that a summary shows as they are hold no line feed. -/
structure Unbroken (plan : Plan) : Prop where
  skips : ∀ skip ∈ plan.findings.skips, OneLine skip.name
  platforms : ∀ platform ∈ plan.findings.unknown.platforms, OneLine platform
  labels : ∀ label ∈ plan.findings.unknown.labels, OneLine label

-- A line feed in a label would pass for the end of an item.
example : summary ⟨[], ⟨[], ∅, NameSet.ofList ["a\n- b"]⟩, 0⟩ =
    summary ⟨[], ⟨[], ∅, NameSet.ofList ["a", "b"]⟩, 0⟩ := by
  decide +kernel

open Summary

def sections (plan : Plan) : List (String × List String) :=
  [(skipTitle, plan.findings.skips.map Skip.line),
    (platformTitle, plan.findings.unknown.platforms.toList),
    (labelTitle, plan.findings.unknown.labels.toList)]

theorem summaryLines_eq (plan : Plan) :
    plan.summaryLines = total plan.count :: lists plan.sections := by
  simp only [summaryLines, lists, sections, List.flatMap_cons, List.flatMap_nil, List.append_nil,
    List.append_assoc]

theorem oneLine_summaryLines {plan : Plan} (unbroken : plan.Unbroken) :
    ∀ line ∈ plan.summaryLines, OneLine line := by
  rw [summaryLines_eq, List.forall_mem_cons]
  refine ⟨oneLine_total plan.count, oneLine_lists ?_ ?_⟩
  · intro entry member
    exact oneLine_title (List.mem_map_of_mem member)
  · simp only [sections, List.forall_mem_cons, List.forall_mem_map]
    refine ⟨?_, unbroken.platforms, unbroken.labels, List.forall_mem_nil _⟩
    intro skip member
    exact Skip.oneLine_line (unbroken.skips skip member)

def report (plan : Plan) : Report :=
  ⟨plan.count, plan.findings.skips.map Skip.line, plan.findings.unknown.platforms,
    plan.findings.unknown.labels⟩

theorem read_summary {plan : Plan} (unbroken : plan.Unbroken) :
    Summary.read plan.summary = some plan.report := by
  have lines : linesOf plan.summary = total plan.count :: lists plan.sections := by
    rw [summary, linesOf_linesText (oneLine_summaryLines unbroken), summaryLines_eq]
  have distinct : (plan.sections.map Prod.fst).Nodup := by
    show [skipTitle, platformTitle, labelTitle].Nodup
    decide +kernel
  have listed := readLists_lists distinct
  simp only [sections, List.map_cons, List.map_nil] at listed
  rw [Summary.read, lines]
  dsimp only
  rw [readTotal_total, sections, listed]
  simp only [NameSet.ofList_toList]
  rfl

theorem summary_eq_iff {plan other : Plan} (unbroken : plan.Unbroken) (whole : other.Unbroken) :
    other.summary = plan.summary ↔ other.report = plan.report := by
  constructor
  · intro same
    rw [← Option.some_inj, ← read_summary whole, same, read_summary unbroken]
  · intro same
    simp only [report, Report.mk.injEq] at same
    obtain ⟨count, skips, platforms, labels⟩ := same
    rw [summary, summary, summaryLines_eq, summaryLines_eq, sections, sections, count, skips,
      platforms, labels]

/-- If the names it shows as they are hold no line feed, a summary tells the number of jobs, the
skip lines in their order and the unknown names, and two plans have one summary just if they agree
on these. -/
theorem summary_read_back {plan : Plan} (unbroken : plan.Unbroken) :
    Summary.read plan.summary =
      some ⟨plan.jobs.length, plan.findings.skips.map Skip.line, plan.findings.unknown.platforms,
        plan.findings.unknown.labels⟩ ∧
    ∀ other : Plan, other.Unbroken → (other.summary = plan.summary ↔
      other.jobs.length = plan.jobs.length ∧
      other.findings.skips.map Skip.line = plan.findings.skips.map Skip.line ∧
      other.findings.unknown.platforms = plan.findings.unknown.platforms ∧
      other.findings.unknown.labels = plan.findings.unknown.labels) := by
  refine ⟨read_summary unbroken, ?_⟩
  intro other whole
  rw [summary_eq_iff unbroken whole, report, report, Report.mk.injEq]
  rfl

/-- Names that look like lines of a summary, and a reason that quotes a line feed. -/
def crowded : Plan where
  jobs := [⟨"ubuntu", "t", "linux"⟩]
  findings := ⟨[⟨"Skipped repros:", ⟨NameSet.ofList ["a\n- b"], true, Unknowns.none⟩⟩,
      ⟨"", ⟨∅, false, Unknowns.none⟩⟩],
    ⟨NameSet.ofList ["", "- ", "Unknown labels encountered:"],
      NameSet.ofList ["Total repro jobs: 7"]⟩⟩
  collapsed := 0

def crowdedElsewhere : Plan := { crowded with jobs := [⟨"macos", "u", "mac"⟩], collapsed := 2 }

theorem crowded_read_back :
    crowded.Unbroken ∧ crowdedElsewhere.Unbroken ∧
    crowded.summary = "Total repro jobs: 1\n" ++
      "\nSkipped repros:\n- Skipped repros: (supports=['a\\n- b']; os constraints applied)\n" ++
      "-  (no matching runners)\n" ++
      "\nUnknown platforms encountered:\n- \n- - \n- Unknown labels encountered:\n" ++
      "\nUnknown labels encountered:\n- Total repro jobs: 7\n" ∧
    Summary.read crowded.summary = some ⟨1,
      ["Skipped repros: (supports=['a\\n- b']; os constraints applied)", " (no matching runners)"],
      NameSet.ofList ["", "- ", "Unknown labels encountered:"],
      NameSet.ofList ["Total repro jobs: 7"]⟩ ∧
    crowdedElsewhere.summary = crowded.summary := by
  have unbroken : crowded.Unbroken := by
    constructor <;> decide +kernel
  have elsewhere : crowdedElsewhere.Unbroken :=
    ⟨unbroken.skips, unbroken.platforms, unbroken.labels⟩
  have lines : crowded.findings.skips.map Skip.line =
      ["Skipped repros: (supports=['a\\n- b']; os constraints applied)",
        " (no matching runners)"] := by
    decide +kernel
  obtain ⟨read, alike⟩ := summary_read_back unbroken
  rw [lines] at read
  have same := (alike crowdedElsewhere elsewhere).mpr ⟨rfl, rfl, rfl, rfl⟩
  exact ⟨unbroken, elsewhere, by decide +kernel, read, same⟩

end Plan
end JobMatrix
