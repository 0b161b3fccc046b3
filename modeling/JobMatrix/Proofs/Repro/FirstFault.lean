import JobMatrix.Proofs.Repro.Spelling
import Mathlib

/-!
The first definition that spoils a document. Definitions are read one after the other, and one
without a usable name is passed over before its limits are looked at, so whether a document is read
and what is read from it can be told from its definitions one by one.
-/
namespace JobMatrix.Repro

/-- What a key holds that counts as nothing: no value, null, false, a zero of either sign, or
something empty. -/
inductive Absent : Option Json → Prop
  | missing : Absent none
  | null : Absent (some .null)
  | no : Absent (some (.bool false))
  | zero : Absent (some (.integer 0))
  | realZero {x : Binary64} (zero : x.significand = 0) : Absent (some (.real x))
  | emptyText : Absent (some (.string ""))
  | emptyArray : Absent (some (.array []))
  | emptyObject : Absent (some (.object []))

inductive Names : Option Json → String → Prop
  | text {name : String} (nonempty : name ≠ "") : Names (some (.string name)) name
  | integer {n : Int} (nonzero : n ≠ 0) : Names (some (.integer n)) (toString n)
  | real {x : Binary64} (nonzero : x.significand ≠ 0) : Names (some (.real x)) (Json.realText x)
  | yes : Names (some (.bool true)) "True"

/-- A definition goes by its `name`, or by its `id` if the former is no name. -/
inductive Named (members : List (String × Json)) : String → Prop
  | name {name : String} (names : Names (Table.get? "name" members) name) : Named members name
  | id {name : String} (unnamed : ∀ other, ¬Names (Table.get? "name" members) other)
      (names : Names (Table.get? "id" members) name) : Named members name

def HoldsPlatforms (value : Option Json) (platforms : NameSet) : Prop :=
  ∀ platform, platform ∈ platforms ↔ ∃ text, Lists value text ∧ Text.lowercase text = platform

def HoldsLabels (value : Option Json) (labels : NameSet) : Prop :=
  ∀ label, label ∈ labels ↔ Lists value label

inductive HoldsLimits : Option Json → Limits → Prop
  | absent {value : Option Json} (absent : Absent value) : HoldsLimits value Limits.none
  | given {members : List (String × Json)} {limits : Limits} (filled : members ≠ [])
      (given : limits.given = true)
      (includePlatforms : HoldsPlatforms (Table.get? "includePlatforms" members)
        limits.includePlatforms)
      (includeLabels : HoldsLabels (Table.get? "includeLabels" members) limits.includeLabels)
      (excludePlatforms : HoldsPlatforms (Table.get? "excludePlatforms" members)
        limits.excludePlatforms)
      (excludeLabels : HoldsLabels (Table.get? "excludeLabels" members) limits.excludeLabels) :
    HoldsLimits (some (.object members)) limits

structure Describes (members : List (String × Json)) (repro : Repro) : Prop where
  named : Named members repro.name
  supports : HoldsPlatforms (Table.get? "supports" members) repro.supports
  limits : HoldsLimits (Table.get? "os" members) repro.limits

/-- Something that spoils the document it stands in, and the fault by its position there. -/
inductive Spoils : Json → (Nat → DocumentFault) → Prop
  | notObject {found : Json} (other : ∀ members, found ≠ .object members) :
    Spoils found (.notObject · found)
  | badLimits {members : List (String × Json)} {name : String} {found : Json}
      (named : Named members name) (held : Table.get? "os" members = some found)
      (filled : ¬Absent (some found)) (other : ∀ limits, found ≠ .object limits) :
    Spoils (.object members) (.badLimits · ⟨found⟩)

def Sound (item : Json) : Prop := ∀ fault, ¬Spoils item fault

/-- The repros that some definitions stand for, in their order and without the nameless ones. -/
inductive Collects : List Json → List Repro → Prop
  | none : Collects [] []
  | nameless {members : List (String × Json)} {items : List Json} {repros : List Repro}
      (nameless : ∀ name, ¬Named members name) (rest : Collects items repros) :
    Collects (.object members :: items) repros
  | named {members : List (String × Json)} {repro : Repro} {items : List Json}
      {repros : List Repro} (describes : Describes members repro) (rest : Collects items repros) :
    Collects (.object members :: items) (repro :: repros)

/-- The number stands in the message after a hash, and is not the front of a longer one. -/
def Numbers (message : String) (position : Nat) : Prop :=
  ∃ front back : String, message = front ++ toString position ++ back ∧
    front.toList.getLast? = some '#' ∧ back.toList.head?.all (!·.isDigit) = true

/-! Values -/

theorem isBlank_iff_absent {value : Option Json} :
    value.all Json.isBlank = true ↔ Absent value := by
  constructor
  · intro blank
    cases value with
    | none => exact .missing
    | some value =>
      rw [Option.all_some] at blank
      cases value with
      | null => exact .null
      | bool value =>
        cases value with
        | false => exact .no
        | true => cases blank
      | integer n =>
        obtain rfl := beq_iff_eq.mp blank
        exact .zero
      | real x => exact .realZero (beq_iff_eq.mp blank)
      | string text =>
        obtain rfl := String.isEmpty_iff.mp blank
        exact .emptyText
      | array items =>
        obtain rfl := List.isEmpty_iff.mp blank
        exact .emptyArray
      | object members =>
        obtain rfl := List.isEmpty_iff.mp blank
        exact .emptyObject
  · intro absent
    cases absent with
    | realZero zero => exact beq_iff_eq.mpr zero
    | _ => rfl

theorem not_isBlank {found : Json} (filled : ¬Absent (some found)) : ¬found.isBlank = true := by
  rwa [← isBlank_iff_absent, Option.all_some] at filled

theorem usableName?_eq_some_iff {value : Option Json} {name : String} :
    usableName? value = some name ↔ Names value name := by
  constructor
  · intro usable
    unfold usableName? at usable
    split at usable
    · split at usable
      · cases usable
      · rename_i nonempty
        cases usable
        exact .text (mt String.isEmpty_iff.mpr nonempty)
    · split at usable
      · cases usable
      · rename_i nonzero
        cases usable
        rw [Json.integerText_eq]
        exact .integer nonzero
    · split at usable
      · cases usable
      · rename_i nonzero
        cases usable
        exact .real (mt beq_iff_eq.mpr nonzero)
    · cases usable
      exact .yes
    · cases usable
  · intro names
    cases names with
    | text nonempty => rw [usableName?, if_neg (mt String.isEmpty_iff.mp nonempty)]
    | integer nonzero => rw [usableName?, if_neg nonzero, Json.integerText_eq]
    | real nonzero => rw [usableName?, Binary64.isZero, if_neg (mt beq_iff_eq.mp nonzero)]
    | yes => rfl

theorem nameOf?_eq_some_iff {members : List (String × Json)} {name : String} :
    nameOf? members = some name ↔ Named members name := by
  unfold nameOf?
  constructor
  · intro found
    cases first : usableName? (Table.get? "name" members) with
    | some other =>
      rw [first] at found
      cases found
      exact .name (usableName?_eq_some_iff.mp first)
    | none =>
      rw [first] at found
      refine .id ?_ (usableName?_eq_some_iff.mp found)
      intro other names
      rw [usableName?_eq_some_iff.mpr names] at first
      cases first
  · intro named
    cases named with
    | name names =>
      rw [usableName?_eq_some_iff.mpr names]
      rfl
    | id unnamed names =>
      have first : usableName? (Table.get? "name" members) = none := by
        rw [Option.eq_none_iff_forall_ne_some]
        intro other found
        exact unnamed other (usableName?_eq_some_iff.mp found)
      rw [first, usableName?_eq_some_iff.mpr names]
      rfl

theorem nameOf?_eq_none_iff {members : List (String × Json)} :
    nameOf? members = none ↔ ∀ name, ¬Named members name := by
  simp only [Option.eq_none_iff_forall_ne_some, ne_eq, nameOf?_eq_some_iff]

theorem readLimits_other {found : Json} (filled : ¬Absent (some found))
    (other : ∀ limits, found ≠ .object limits) : readLimits (some found) = .error ⟨found⟩ := by
  unfold readLimits
  dsimp only
  rw [if_neg (not_isBlank filled)]
  split
  · rename_i limits
    exact absurd rfl (other limits)
  · rfl

theorem holdsLimits_of_object {members : List (String × Json)} (filled : members ≠ []) :
    HoldsLimits (some (.object members)) (limitsOf members) := by
  refine .given filled ?_ ?_ ?_ ?_ ?_
  · simpa [limitsOf] using filled
  · exact fun platform => mem_platformSet
  · exact fun label => mem_labelSet
  · exact fun platform => mem_platformSet
  · exact fun label => mem_labelSet

theorem readLimits_cases (value : Option Json) :
    (∃ limits, readLimits value = .ok limits ∧ HoldsLimits value limits) ∨
    ∃ found, value = some found ∧ ¬Absent value ∧ ∀ limits, found ≠ .object limits := by
  by_cases absent : Absent value
  · exact .inl ⟨Limits.none, readLimits_blank (isBlank_iff_absent.mpr absent), .absent absent⟩
  · cases value with
    | none => exact absurd .missing absent
    | some found =>
      by_cases object : ∃ members, found = .object members
      · obtain ⟨members, rfl⟩ := object
        have filled : members ≠ [] := by
          rintro rfl
          exact absent .emptyObject
        exact .inl ⟨limitsOf members, readLimits_object filled, holdsLimits_of_object filled⟩
      · exact .inr ⟨found, rfl, absent, not_exists.mp object⟩

/-! Definitions -/

theorem ofMembers_of_nameless {members : List (String × Json)}
    (nameless : ∀ name, ¬Named members name) : ofMembers members = .ok none := by
  rw [ofMembers, nameOf?_eq_none_iff.mpr nameless]

theorem describes_of_named {members : List (String × Json)} {name : String} {limits : Limits}
    (named : Named members name) (read : readLimits (Table.get? "os" members) = .ok limits)
    (holds : HoldsLimits (Table.get? "os" members) limits) :
    ∃ repro, ofMembers members = .ok (some repro) ∧ Describes members repro := by
  refine ⟨⟨name, platformSet (Table.get? "supports" members), limits⟩, ?_, named, ?_, holds⟩
  · rw [ofMembers, nameOf?_eq_some_iff.mpr named, read]
  · exact fun platform => mem_platformSet

theorem sound_cases {item : Json} (sound : Sound item) :
    ∃ members, item = .object members ∧
      ((∀ name, ¬Named members name) ∨
        ∃ repro, ofMembers members = .ok (some repro) ∧ Describes members repro) := by
  by_cases object : ∃ members, item = .object members
  · obtain ⟨members, rfl⟩ := object
    refine ⟨members, rfl, ?_⟩
    by_cases nameless : ∀ name, ¬Named members name
    · exact .inl nameless
    · rw [not_forall_not] at nameless
      obtain ⟨name, named⟩ := nameless
      rcases readLimits_cases (Table.get? "os" members) with ⟨limits, read, holds⟩ | bad
      · exact .inr (describes_of_named named read holds)
      · obtain ⟨found, held, filled, other⟩ := bad
        rw [held] at filled
        exact absurd (.badLimits named held filled other) (sound _)
  · exact absurd (.notObject (not_exists.mp object)) (sound _)

theorem readItems_object {members : List (String × Json)} {found : Option Repro}
    (read : ofMembers members = .ok found) (position : Nat) (rest : List Json) :
    readItems position (.object members :: rest) =
      (readItems (position + 1) rest).map (found.toList ++ ·) := by
  rw [readItems, read]

theorem readItems_sound {item : Json} (sound : Sound item) :
    ∃ found : Option Repro, ∀ position rest, readItems position (item :: rest) =
      (readItems (position + 1) rest).map (found.toList ++ ·) := by
  obtain ⟨members, rfl, nameless | ⟨repro, whole, _⟩⟩ := sound_cases sound
  · exact ⟨none, readItems_object (ofMembers_of_nameless nameless)⟩
  · exact ⟨some repro, readItems_object whole⟩

/-- Sound definitions are all read. -/
theorem readItems_of_sound {items : List Json} (sound : ∀ item ∈ items, Sound item)
    (position : Nat) : ∃ repros, readItems position items = .ok repros ∧ Collects items repros := by
  induction items generalizing position with
  | nil => exact ⟨[], rfl, .none⟩
  | cons item items ih =>
    rw [List.forall_mem_cons] at sound
    obtain ⟨repros, read, collects⟩ := ih sound.2 (position + 1)
    obtain ⟨members, rfl, nameless | ⟨repro, whole, describes⟩⟩ := sound_cases sound.1
    · refine ⟨repros, ?_, .nameless nameless collects⟩
      rw [readItems_object (ofMembers_of_nameless nameless), read]
      rfl
    · refine ⟨repro :: repros, ?_, .named describes collects⟩
      rw [readItems_object whole, read]
      rfl

theorem readItems_spoilt {item : Json} {fault : Nat → DocumentFault} (spoils : Spoils item fault)
    (position : Nat) (after : List Json) :
    readItems position (item :: after) = .error (fault position) := by
  cases spoils with
  | notObject other =>
    rw [readItems]
    exact fun members same => other members same
  | badLimits named held filled other =>
    rw [readItems, ofMembers, nameOf?_eq_some_iff.mpr named, held, readLimits_other filled other]

theorem sound_of_read {members : List (String × Json)} {found : Option Repro}
    (read : ofMembers members = .ok found) : Sound (.object members) := by
  intro fault spoils
  have refused := readItems_spoilt spoils 0 []
  rw [readItems_object read] at refused
  cases refused

theorem sound_of_nameless {members : List (String × Json)}
    (nameless : ∀ name, ¬Named members name) : Sound (.object members) :=
  sound_of_read (ofMembers_of_nameless nameless)

/-- What follows sound definitions is read from the position after them. -/
theorem readItems_fault_later {before rest : List Json} (sound : ∀ item ∈ before, Sound item)
    {position : Nat} {fault : DocumentFault}
    (bad : readItems (position + before.length) rest = .error fault) :
    readItems position (before ++ rest) = .error fault := by
  induction before generalizing position with
  | nil => exact bad
  | cons item before ih =>
    rw [List.forall_mem_cons] at sound
    rw [List.length_cons, Nat.add_comm before.length, ← Nat.add_assoc] at bad
    obtain ⟨found, step⟩ := readItems_sound sound.1
    rw [List.cons_append, step, ih sound.2 bad]
    rfl

/-! Documents -/

theorem readMembers_absent {document : List (String × Json)}
    (absent : Absent (Table.get? "repros" document)) : readMembers document = .ok [] := by
  rw [← isBlank_iff_absent] at absent
  unfold readMembers
  split
  · rfl
  · rename_i value held
    rw [held, Option.all_some] at absent
    rw [if_pos absent]

theorem readMembers_notArray {document : List (String × Json)} {found : Json}
    (held : Table.get? "repros" document = some found) (filled : ¬Absent (some found))
    (other : ∀ items, found ≠ .array items) :
    readMembers document = .error (.notArray found) := by
  unfold readMembers
  rw [held]
  dsimp only
  rw [if_neg (not_isBlank filled)]
  split
  · rename_i items
    exact absurd rfl (other items)
  · rfl

theorem numbers_of_spoils {item : Json} {fault : Nat → DocumentFault} (spoils : Spoils item fault)
    (position : Nat) : Numbers (fault position).message position := by
  cases spoils with
  | notObject other =>
    refine ⟨"Repro #", " must be an object, found " ++ item.kind, String.append_assoc .., rfl, ?_⟩
    rw [String.toList_append]
    rfl
  | @badLimits _ _ found =>
    refine ⟨"Invalid repro #", ": " ++ LimitsFault.message ⟨found⟩, String.append_assoc .., rfl, ?_⟩
    rw [String.toList_append]
    rfl

/-- A document is read all or not at all. Nothing under `repros` holds no definitions, and what is
no array is refused. Of the definitions in an array the first that spoils it decides, and its
position is told; without one, those with a name are read, each as what it describes. A definition
without a name spoils nothing. -/
theorem first_fault_decides {text : String} {document : List (String × Json)}
    (read : Json.readMembersOf text = .ok document) :
    (Absent (Table.get? "repros" document) → readDocument text = .ok []) ∧
    (∀ found, Table.get? "repros" document = some found → ¬Absent (some found) →
      (∀ items, found ≠ .array items) → readDocument text = .error (.notArray found)) ∧
    (∀ items, Table.get? "repros" document = some (.array items) →
      (∀ before item after fault, items = before ++ item :: after →
        (∀ earlier ∈ before, Sound earlier) → Spoils item fault →
        readDocument text = .error (fault before.length) ∧
          Numbers (fault before.length).message before.length) ∧
      ((∀ item ∈ items, Sound item) →
        ∃ repros, readDocument text = .ok repros ∧ Collects items repros)) ∧
    ∀ members, (∀ name, ¬Named members name) → Sound (.object members) := by
  have whole : readDocument text = readMembers document := by rw [readDocument, read]
  rw [whole]
  refine ⟨readMembers_absent, fun found held filled other => ?_, ?_, fun members => ?_⟩
  · exact readMembers_notArray held filled other
  · intro items held
    rw [readMembers_array held]
    refine ⟨?_, ?_⟩
    · rintro before item after fault rfl sound spoils
      refine ⟨readItems_fault_later sound ?_, numbers_of_spoils spoils before.length⟩
      rw [Nat.zero_add]
      exact readItems_spoilt spoils before.length after
    · intro sound
      exact readItems_of_sound sound 0
  · exact sound_of_nameless

/-- A definition with a zero for a name goes by its `id`; one without a name is left out. -/
def numberedItems : List Json :=
  [.object [("name", .integer 42), ("supports", .array [.string "macOS", .string "Linux"]),
      ("os", .object [("includeLabels", .array [.string "Xcode-15"]),
        ("excludePlatforms", .string "BSD")])],
    .object [("os", .bool true)],
    .object [("name", .integer 0), ("id", .real ⟨true, 0x14000000000000, -51⟩)]]

def numberedText : String :=
  "\x7b\"repros\":[\x7b\"name\":42,\"supports\":[\"macOS\",\"Linux\"],\"os\":" ++
    "\x7b\"includeLabels\":[\"Xcode-15\"],\"excludePlatforms\":\"BSD\"\x7d\x7d," ++
    "\x7b\"os\":true\x7d,\x7b\"name\":0,\"id\":-2.5\x7d]\x7d"

def numberedRepros : List Repro :=
  [⟨"42", NameSet.ofList ["linux", "macos"],
      ⟨true, ∅, NameSet.ofList ["Xcode-15"], NameSet.ofList ["bsd"], ∅⟩⟩,
    ⟨"-2.5", ∅, Limits.none⟩]

/-- The first definition has no name, so its limits are not looked at; the third has bad limits. -/
def spoiltItems : List Json :=
  [.object [("os", .bool true)], .object [("name", .integer 0), ("id", .bool true)],
    .object [("id", .string "u"), ("os", .array [.null])], .null]

def spoiltText : String :=
  "\x7b\"repros\":[\x7b\"os\":true\x7d,\x7b\"name\":0,\"id\":true\x7d," ++
    "\x7b\"id\":\"u\",\"os\":[null]\x7d,null]\x7d"

theorem numbered_read_and_third_spoils :
    readDocument numberedText = .ok numberedRepros ∧
    Collects numberedItems numberedRepros ∧
    readDocument spoiltText = .error (.badLimits 2 ⟨.array [.null]⟩) ∧
    Numbers (DocumentFault.badLimits 2 ⟨.array [.null]⟩).message 2 := by
  have readNumbered : Json.readMembersOf numberedText =
      .ok [("repros", .array numberedItems)] := by decide +kernel
  have readSpoilt : Json.readMembersOf spoiltText = .ok [("repros", .array spoiltItems)] := by
    decide +kernel
  obtain ⟨_, _, numbered, _⟩ := first_fault_decides readNumbered
  obtain ⟨_, _, spoilt, _⟩ := first_fault_decides readSpoilt
  have whole : readDocument numberedText = .ok numberedRepros := by decide +kernel
  refine ⟨whole, ?_, ?_⟩
  · have sound : ∀ item ∈ numberedItems, Sound item := by
      simp only [numberedItems, List.forall_mem_cons]
      exact ⟨sound_of_read rfl, sound_of_read rfl, sound_of_read rfl, List.forall_mem_nil _⟩
    obtain ⟨repros, read, collects⟩ := (numbered numberedItems rfl).2 sound
    rw [whole] at read
    cases read
    exact collects
  · have sound : ∀ earlier ∈ spoiltItems.take 2, Sound earlier := by
      simp only [spoiltItems, List.take_succ_cons, List.take_zero, List.forall_mem_cons]
      exact ⟨sound_of_read rfl, sound_of_read rfl, List.forall_mem_nil _⟩
    have named : Named [("id", .string "u"), ("os", .array [.null])] "u" :=
      nameOf?_eq_some_iff.mp rfl
    have filled : ¬Absent (some (.array [.null])) := by
      rw [← isBlank_iff_absent]
      decide
    have noObject : ∀ limits, Json.array [.null] ≠ .object limits := by
      intro limits same
      cases same
    exact (spoilt spoiltItems rfl).1 _ _ [.null] _ rfl sound (.badLimits named rfl filled noObject)

end JobMatrix.Repro
