import JobMatrix.Plan.Outputs
import JobMatrix.Plan.Summary
import JobMatrix.Repro.Document
import Mathlib

/-!
Lenient spellings of a definition. A definition is read by a few of its keys, and a list by the
names it lists, so two definitions that agree in these are the same repro, and no document, plan or
text made from them tells which of the two was written.
-/
namespace JobMatrix.Repro

inductive Lists : Option Json → String → Prop
  | lone (text : String) : Lists (some (.string text)) text
  | item {items : List Json} {text : String} (among : .string text ∈ items) :
    Lists (some (.array items)) text

def SamePlatforms (value other : Option Json) : Prop :=
  ∀ platform, (∃ text, Lists value text ∧ Text.lowercase text = platform) ↔
    ∃ text, Lists other text ∧ Text.lowercase text = platform

def SameLabels (value other : Option Json) : Prop := ∀ label, Lists value label ↔ Lists other label

inductive SameLimits : Option Json → Option Json → Prop
  | blank {value other : Option Json} (left : value.all Json.isBlank = true)
      (right : other.all Json.isBlank = true) : SameLimits value other
  | given {members others : List (String × Json)} (left : members ≠ []) (right : others ≠ [])
      (includePlatforms : SamePlatforms (Table.get? "includePlatforms" members)
        (Table.get? "includePlatforms" others))
      (includeLabels : SameLabels (Table.get? "includeLabels" members)
        (Table.get? "includeLabels" others))
      (excludePlatforms : SamePlatforms (Table.get? "excludePlatforms" members)
        (Table.get? "excludePlatforms" others))
      (excludeLabels : SameLabels (Table.get? "excludeLabels" members)
        (Table.get? "excludeLabels" others)) :
    SameLimits (some (.object members)) (some (.object others))

/-- Definitions that are spelled differently at most. Other keys, and the order of all of them, do
not count. -/
structure SameDefinition (members others : List (String × Json)) : Prop where
  name : Table.get? "name" members = Table.get? "name" others
  id : Table.get? "id" members = Table.get? "id" others
  supports : SamePlatforms (Table.get? "supports" members) (Table.get? "supports" others)
  limits : SameLimits (Table.get? "os" members) (Table.get? "os" others)

theorem mem_lenientStrings {value : Option Json} {text : String} :
    text ∈ lenientStrings value ↔ Lists value text := by
  constructor
  · intro member
    unfold lenientStrings at member
    split at member
    · rw [List.mem_singleton.mp member]
      exact .lone _
    · obtain ⟨item, among, found⟩ := List.mem_filterMap.mp member
      split at found
      · cases found
        exact .item among
      · cases found
    · cases member
  · intro lists
    cases lists with
    | lone => exact List.mem_singleton.mpr rfl
    | item among => exact List.mem_filterMap.mpr ⟨.string text, among, rfl⟩

theorem mem_platformSet {value : Option Json} {platform : String} :
    platform ∈ platformSet value ↔ ∃ text, Lists value text ∧ Text.lowercase text = platform := by
  simp only [platformSet, NameSet.mem_ofList, List.mem_map, mem_lenientStrings]

theorem mem_labelSet {value : Option Json} {label : String} :
    label ∈ labelSet value ↔ Lists value label := by
  rw [labelSet, NameSet.mem_ofList, mem_lenientStrings]

theorem samePlatforms_iff {value other : Option Json} :
    SamePlatforms value other ↔ platformSet value = platformSet other := by
  unfold SamePlatforms
  simp only [← mem_platformSet]
  exact ⟨NameSet.ext, fun same platform => same ▸ Iff.rfl⟩

theorem sameLabels_iff {value other : Option Json} :
    SameLabels value other ↔ labelSet value = labelSet other := by
  unfold SameLabels
  simp only [← mem_labelSet]
  exact ⟨NameSet.ext, fun same label => same ▸ Iff.rfl⟩

theorem readLimits_blank {value : Option Json} (blank : value.all Json.isBlank = true) :
    readLimits value = .ok Limits.none := by
  cases value with
  | none => rfl
  | some value =>
    rw [Option.all_some] at blank
    unfold readLimits
    dsimp only
    rw [if_pos blank]

theorem readLimits_object {members : List (String × Json)} (some : members ≠ []) :
    readLimits (.some (.object members)) = .ok (limitsOf members) := by
  have filled : ¬(Json.object members).isBlank = true := by
    rw [Json.isBlank, List.isEmpty_iff]
    exact some
  unfold readLimits
  dsimp only
  rw [if_neg filled]

theorem readLimits_congr {value other : Option Json} (same : SameLimits value other) :
    readLimits value = readLimits other := by
  cases same with
  | blank left right => rw [readLimits_blank left, readLimits_blank right]
  | @given members others left right includePlatforms includeLabels excludePlatforms
      excludeLabels =>
    have given : members.isEmpty = others.isEmpty := by
      rw [Bool.eq_iff_iff, List.isEmpty_iff, List.isEmpty_iff]
      exact iff_of_false left right
    rw [samePlatforms_iff] at includePlatforms excludePlatforms
    rw [sameLabels_iff] at includeLabels excludeLabels
    rw [readLimits_object left, readLimits_object right, limitsOf, limitsOf, given,
      includePlatforms, includeLabels, excludePlatforms, excludeLabels]

theorem ofMembers_congr {members others : List (String × Json)}
    (same : SameDefinition members others) : ofMembers members = ofMembers others := by
  have name : nameOf? members = nameOf? others := by
    rw [nameOf?, same.name, same.id, nameOf?]
  rw [ofMembers, name, readLimits_congr same.limits, samePlatforms_iff.mp same.supports, ofMembers]

/-- Where two definitions are read alike, so is each list of definitions that holds one of them. -/
theorem readItems_exchange {members others : List (String × Json)}
    (same : ofMembers members = ofMembers others) (position : Nat) (before after : List Json) :
    readItems position (before ++ .object members :: after) =
      readItems position (before ++ .object others :: after) := by
  induction before generalizing position with
  | nil =>
    simp only [List.nil_append, readItems, same]
  | cons item before ih =>
    cases item with
    | object entry => simp only [List.cons_append, readItems, ih]
    | _ => rfl

theorem readMembers_array {document : List (String × Json)} {items : List Json}
    (found : Table.get? "repros" document = some (.array items)) :
    readMembers document = readItems 0 items := by
  unfold readMembers
  rw [found]
  dsimp only
  split
  · rename_i blank
    rw [Json.isBlank, List.isEmpty_iff] at blank
    rw [blank, readItems]
  · rfl

def products (catalog : Catalog) (repros : List Repro) :
    Plan × String × Except Json.WriteFault String :=
  (catalog.plan repros, (catalog.plan repros).summary, (catalog.plan repros).renderOutputs)

/-- A definition is read the same in every lenient spelling, and no document that holds it and
nothing that is made from the document tells the spellings apart. -/
theorem spelling_invisible {members others : List (String × Json)}
    (same : SameDefinition members others) :
    ofMembers members = ofMembers others ∧
    ∀ (text other : String) (document otherDocument : List (String × Json))
      (before after : List Json),
      Json.readMembersOf text = .ok document → Json.readMembersOf other = .ok otherDocument →
      Table.get? "repros" document = some (.array (before ++ .object members :: after)) →
      Table.get? "repros" otherDocument = some (.array (before ++ .object others :: after)) →
      readDocument text = readDocument other ∧
      ∀ catalog, (readDocument text).map (products catalog) =
        (readDocument other).map (products catalog) := by
  refine ⟨ofMembers_congr same, ?_⟩
  intro text other document otherDocument before after read readOther found foundOther
  have alike : readDocument text = readDocument other := by
    unfold readDocument
    rw [read, readOther]
    dsimp only
    rw [readMembers_array found, readMembers_array foundOther]
    exact readItems_exchange (ofMembers_congr same) 0 before after
  refine ⟨alike, ?_⟩
  intro catalog
  rw [alike]

def plainly : List (String × Json) :=
  [("name", .string "t"), ("supports", .string "B"),
    ("os", .object [("excludeLabels", .string "a")])]

/-- The same definition with its keys in another order, and with more in it that does not count. -/
def otherwise : List (String × Json) :=
  [("os", .object [("excludeLabels", .array [.string "a", .null]), ("n", .null)]),
    ("supports", .array [.integer 1, .string "b"]), ("name", .string "t")]

def plainText : String :=
  "\x7b\"repros\":[\x7b\"name\":\"t\",\"supports\":\"B\"," ++
    "\"os\":\x7b\"excludeLabels\":\"a\"\x7d\x7d]\x7d"

def otherText : String :=
  "\x7b\"repros\":[\x7b\"os\":\x7b\"excludeLabels\":[\"a\",null],\"n\":null\x7d," ++
    "\"supports\":[1,\"b\"],\"name\":\"t\"\x7d]\x7d"

theorem sameDefinition_otherwise : SameDefinition plainly otherwise where
  name := rfl
  id := rfl
  supports := samePlatforms_iff.mpr (by decide)
  limits :=
    .given (List.cons_ne_nil _ _) (List.cons_ne_nil _ _) (samePlatforms_iff.mpr (by decide))
      (sameLabels_iff.mpr (by decide)) (samePlatforms_iff.mpr (by decide))
      (sameLabels_iff.mpr (by decide))

theorem plainText_read_as_otherText :
    SameDefinition plainly otherwise ∧
    ofMembers plainly = ofMembers otherwise ∧
    Json.readMembersOf plainText = .ok [("repros", .array [.object plainly])] ∧
    Json.readMembersOf otherText = .ok [("repros", .array [.object otherwise])] ∧
    readDocument plainText = readDocument otherText ∧
    ∀ catalog, (readDocument plainText).map (products catalog) =
      (readDocument otherText).map (products catalog) := by
  have same := sameDefinition_otherwise
  have read : Json.readMembersOf plainText =
      .ok [("repros", .array [.object plainly])] := by cbv
  have readOther : Json.readMembersOf otherText =
      .ok [("repros", .array [.object otherwise])] := by cbv
  obtain ⟨alike, documents⟩ := spelling_invisible same
  exact ⟨same, alike, read, readOther,
    documents plainText otherText _ _ [] [] read readOther rfl rfl⟩

end JobMatrix.Repro
