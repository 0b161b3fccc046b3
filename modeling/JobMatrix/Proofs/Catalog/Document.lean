import JobMatrix.Catalog.Document
import JobMatrix.Proofs.Json.Members

/-!
What a platform document declares. Its keys count in the order of their first places and with their
last values, so a value that its key takes again later is as good as none, and of the values that
are left the first that is not an array of labels is the one to be reported.
-/
namespace JobMatrix.Catalog

open Table (LastValue)

def labelArray (labels : List String) : Json := .array (labels.map .string)

/-- What a value has in the place of labels, and what was wanted there: the value itself if it is
no array, or the first item that is no text. -/
inductive Misfit : Json → Json → String → Prop
  | value {found : Json} (other : ∀ items, found ≠ .array items) : Misfit found found "a sequence"
  | item {labels : List String} {found : Json} {rest : List Json}
      (other : ∀ label, found ≠ .string label) :
    Misfit (.array (labels.map .string ++ found :: rest)) found "a string"

/-- How messages put a value: by its kind, and a scalar by itself as well. -/
inductive Mentions : Json → String → Prop
  | null : Mentions .null "null"
  | yes : Mentions (.bool true) "boolean `true`"
  | no : Mentions (.bool false) "boolean `false`"
  | integer (n : Int) : Mentions (.integer n) ("integer `" ++ toString n ++ "`")
  | real (x : Binary64) : Mentions (.real x) ("floating point `" ++ Json.realText x ++ "`")
  | string (text : String) : Mentions (.string text) ("string " ++ Text.braced text)
  | array (items : List Json) : Mentions (.array items) "sequence"
  | object (members : List (String × Json)) : Mentions (.object members) "map"

theorem mention_integer (n : Int) :
    (Json.integer n).mention = "integer `" ++ toString n ++ "`" := by
  change "integer `" ++ Json.integerText n ++ "`" = _
  rw [Json.integerText_eq]

theorem mentions_mention (value : Json) : Mentions value value.mention := by
  cases value with
  | bool value =>
    cases value with
    | true => exact .yes
    | false => exact .no
  | integer n =>
    rw [mention_integer]
    exact .integer n
  | null => exact .null
  | real x => exact .real x
  | string text => exact .string text
  | array items => exact .array items
  | object members => exact .object members

theorem mentions_iff {value : Json} {words : String} :
    Mentions value words ↔ words = value.mention := by
  constructor
  · intro mentions
    cases mentions with
    | integer n => rw [mention_integer]
    | _ => rfl
  · rintro rfl
    exact mentions_mention value

def misfitMessage (platform : String) (found : Json) (wanted : String) : String :=
  "Platform '" ++ platform ++ "' must map to an array of label strings: invalid type: " ++
    found.mention ++ ", expected " ++ wanted

def FailsWith {α : Type} (outcome : Except DocumentFault α) (message : String) : Prop :=
  ∃ fault, outcome = .error fault ∧ fault.message = message

theorem FailsWith.unique {α : Type} {outcome : Except DocumentFault α} {message other : String}
    (fails : FailsWith outcome message) (also : FailsWith outcome other) : message = other := by
  obtain ⟨fault, failed, rfl⟩ := fails
  obtain ⟨same, again, rfl⟩ := also
  rw [failed] at again
  cases again
  rfl

theorem FailsWith.not_ok {α : Type} {outcome : Except DocumentFault α} {message : String}
    (fails : FailsWith outcome message) (value : α) : outcome ≠ .ok value := by
  obtain ⟨fault, failed, _⟩ := fails
  rw [failed]
  intro read
  cases read

theorem FailsWith.map {α β : Type} {outcome : Except DocumentFault α} {message : String}
    (fails : FailsWith outcome message) (f : α → β) : FailsWith (outcome.map f) message := by
  obtain ⟨fault, rfl, same⟩ := fails
  exact ⟨fault, rfl, same⟩

/-! Values -/

theorem items_cases (items : List Json) :
    (∃ labels : List String, items = labels.map .string) ∨
    ∃ (labels : List String) (found : Json) (rest : List Json),
      items = labels.map .string ++ found :: rest ∧ ∀ label, found ≠ .string label := by
  induction items with
  | nil => exact .inl ⟨[], rfl⟩
  | cons item items ih =>
    by_cases text : ∃ label, item = .string label
    · obtain ⟨label, rfl⟩ := text
      rcases ih with ⟨labels, rfl⟩ | ⟨labels, found, rest, rfl, other⟩
      · exact .inl ⟨label :: labels, rfl⟩
      · exact .inr ⟨label :: labels, found, rest, rfl, other⟩
    · exact .inr ⟨[], item, items, rfl, not_exists.mp text⟩

theorem value_cases (value : Json) :
    (∃ labels, value = labelArray labels) ∨ ∃ found wanted, Misfit value found wanted := by
  by_cases array : ∃ items, value = .array items
  · obtain ⟨items, rfl⟩ := array
    rcases items_cases items with ⟨labels, rfl⟩ | ⟨labels, found, rest, rfl, other⟩
    · exact .inl ⟨labels, rfl⟩
    · exact .inr ⟨found, "a string", .item other⟩
  · exact .inr ⟨value, "a sequence", .value (not_exists.mp array)⟩

theorem not_labelArray_of_misfit {value found : Json} {wanted : String}
    (misfit : Misfit value found wanted) (labels : List String) : value ≠ labelArray labels := by
  intro same
  cases misfit with
  | value other => exact other _ same
  | item other =>
    have among : found ∈ labels.map Json.string := by
      rw [← Json.array.inj same]
      exact List.mem_append_right _ List.mem_cons_self
    obtain ⟨label, _, equal⟩ := List.mem_map.mp among
    exact other label equal.symm

theorem readItems_labels (platform : String) (labels : List String) :
    readItems platform (labels.map .string) = .ok labels := by
  induction labels with
  | nil => rfl
  | cons label labels ih =>
    rw [List.map_cons, readItems, ih]
    rfl

theorem readLabels_labelArray (platform : String) (labels : List String) :
    readLabels platform (labelArray labels) = .ok labels :=
  readItems_labels platform labels

theorem readItems_other {found : Json} (other : ∀ label, found ≠ .string label)
    (platform : String) (labels : List String) (rest : List Json) :
    readItems platform (labels.map .string ++ found :: rest) =
      .error (.notLabel platform found) := by
  induction labels with
  | nil =>
    rw [List.map_nil, List.nil_append, readItems]
    exact other
  | cons label labels ih =>
    rw [List.map_cons, List.cons_append, readItems, ih]
    rfl

theorem append_expected {tail wanted : String} (words : tail = ", expected " ++ wanted)
    (front : String) : front ++ tail = front ++ ", expected " ++ wanted := by
  rw [words, String.append_assoc]

theorem message_notArray (platform : String) (found : Json) :
    (DocumentFault.notArray platform found).message =
      misfitMessage platform found "a sequence" :=
  append_expected (by decide) (DocumentFault.expectation platform ++ found.mention)

theorem message_notLabel (platform : String) (found : Json) :
    (DocumentFault.notLabel platform found).message =
      misfitMessage platform found "a string" :=
  append_expected (by decide) (DocumentFault.expectation platform ++ found.mention)

theorem readLabels_misfit {value found : Json} {wanted : String}
    (misfit : Misfit value found wanted) (platform : String) :
    FailsWith (readLabels platform value) (misfitMessage platform found wanted) := by
  cases misfit with
  | value other =>
    refine ⟨.notArray platform value, ?_, message_notArray platform value⟩
    rw [readLabels]
    exact other
  | @item labels found rest other =>
    refine ⟨.notLabel platform found, ?_, message_notLabel platform found⟩
    rw [readLabels, readItems_other other]

/-! Members -/

def toMember (declaration : String × List String) : String × Json :=
  (declaration.1, labelArray declaration.2)

def Fits (entry : String × Json) : Prop := ∃ labels, entry.2 = labelArray labels

def BehindFitting (document : List (String × Json)) (entry : String × Json) : Prop :=
  ∃ front rest, document = front ++ entry :: rest ∧ ∀ earlier ∈ front, Fits earlier

theorem behindFitting_cons {first entry : String × Json} {document : List (String × Json)}
    (fits : Fits first) (behind : BehindFitting document entry) :
    BehindFitting (first :: document) entry := by
  obtain ⟨front, rest, rfl, fit⟩ := behind
  exact ⟨first :: front, rest, rfl, List.forall_mem_cons.mpr ⟨fits, fit⟩⟩

theorem document_cases (document : List (String × Json)) :
    (∃ declarations : List (String × List String), document = declarations.map toMember) ∨
    ∃ platform value found wanted,
      BehindFitting document (platform, value) ∧ Misfit value found wanted := by
  induction document with
  | nil => exact .inl ⟨[], rfl⟩
  | cons entry document ih =>
    obtain ⟨platform, value⟩ := entry
    rcases value_cases value with ⟨labels, rfl⟩ | ⟨found, wanted, misfit⟩
    · rcases ih with ⟨declarations, rfl⟩ | ⟨later, bad, found, wanted, behind, misfit⟩
      · exact .inl ⟨(platform, labels) :: declarations, rfl⟩
      · exact .inr ⟨later, bad, found, wanted, behindFitting_cons ⟨labels, rfl⟩ behind, misfit⟩
    · have first : BehindFitting ((platform, value) :: document) (platform, value) :=
        ⟨[], document, rfl, List.forall_mem_nil _⟩
      exact .inr ⟨platform, value, found, wanted, first, misfit⟩

theorem readPlatforms_members (declarations : List (String × List String)) :
    readPlatforms (declarations.map toMember) = .ok declarations := by
  induction declarations with
  | nil => rfl
  | cons declaration declarations ih =>
    rw [List.map_cons, toMember, readPlatforms, readLabels_labelArray]
    dsimp only
    rw [ih]
    rfl

theorem readPlatforms_misfit {document : List (String × Json)} {platform : String}
    {value found : Json} {wanted : String} (behind : BehindFitting document (platform, value))
    (misfit : Misfit value found wanted) :
    FailsWith (readPlatforms document) (misfitMessage platform found wanted) := by
  obtain ⟨front, rest, rfl, fits⟩ := behind
  induction front with
  | nil =>
    obtain ⟨fault, failed, message⟩ := readLabels_misfit misfit platform
    rw [List.nil_append, readPlatforms, failed]
    exact ⟨fault, rfl, message⟩
  | cons entry front ih =>
    rw [List.forall_mem_cons] at fits
    obtain ⟨⟨labels, listed⟩, fits⟩ := fits
    obtain ⟨earlier, held⟩ := entry
    obtain rfl : held = labelArray labels := listed
    rw [List.cons_append, readPlatforms, readLabels_labelArray]
    exact (ih fits).map _

theorem readPlatforms_eq_ok_iff {document : List (String × Json)}
    {declarations : List (String × List String)} :
    readPlatforms document = .ok declarations ↔ document = declarations.map toMember := by
  constructor
  · intro read
    rcases document_cases document with ⟨others, rfl⟩ | ⟨_, _, _, _, behind, misfit⟩
    · rw [readPlatforms_members] at read
      rw [Except.ok.inj read]
    · exact absurd read ((readPlatforms_misfit behind misfit).not_ok declarations)
  · rintro rfl
    exact readPlatforms_members declarations

theorem exists_readPlatforms_iff {document : List (String × Json)} :
    (∃ declarations, readPlatforms document = .ok declarations) ↔
      ∀ entry ∈ document, Fits entry := by
  simp only [readPlatforms_eq_ok_iff]
  constructor
  · rintro ⟨declarations, rfl⟩ entry among
    obtain ⟨declaration, _, rfl⟩ := List.mem_map.mp among
    exact ⟨declaration.2, rfl⟩
  · intro fits
    rcases document_cases document with all | ⟨platform, value, _, _, behind, misfit⟩
    · exact all
    · obtain ⟨front, rest, rfl, _⟩ := behind
      obtain ⟨labels, listed⟩ := fits (platform, value) (by simp)
      exact absurd listed (not_labelArray_of_misfit misfit labels)

theorem readPlatforms_failsWith_iff {document : List (String × Json)} {message : String} :
    FailsWith (readPlatforms document) message ↔ ∃ platform value found wanted,
      BehindFitting document (platform, value) ∧ Misfit value found wanted ∧
      message = misfitMessage platform found wanted := by
  constructor
  · intro fails
    rcases document_cases document with ⟨declarations, rfl⟩ | bad
    · exact absurd (readPlatforms_members declarations) (fails.not_ok declarations)
    · obtain ⟨platform, value, found, wanted, behind, misfit⟩ := bad
      have same := fails.unique (readPlatforms_misfit behind misfit)
      exact ⟨platform, value, found, wanted, behind, misfit, same⟩
  · rintro ⟨platform, value, found, wanted, behind, misfit, rfl⟩
    exact readPlatforms_misfit behind misfit

/-! Documents -/

section Document

variable {members : List (String × Json)}

theorem readDocument_eq {text : String} (object : Json.HasMembers text members) :
    readDocument text = readPlatforms (Table.ofPairs members) := by
  rw [readDocument, Json.readMembersOf_eq_ok_iff.mpr ⟨members, object, rfl⟩]

theorem names_map_toMember (declarations : List (String × List String)) :
    Table.names (declarations.map toMember) = Table.names declarations :=
  List.map_map

theorem ofPairs_eq_map_toMember_iff {declarations : List (String × List String)} :
    Table.ofPairs members = declarations.map toMember ↔
      Table.names declarations = (Table.names members).eraseDups ∧
      ∀ platform labels, (platform, labels) ∈ declarations →
        LastValue members platform (labelArray labels) := by
  constructor
  · intro same
    constructor
    · rw [← names_map_toMember, ← same, Table.names_ofPairs]
    · intro platform labels among
      rw [← Table.mem_ofPairs_iff, same]
      exact List.mem_map_of_mem among
  · rintro ⟨names, values⟩
    rw [← Table.names_ofPairs, ← names_map_toMember] at names
    have distinct : (Table.names (declarations.map toMember)).Nodup :=
      names ▸ Table.nodup_names_ofPairs members
    refine (Table.eq_of_names_eq distinct names ?_).symm
    intro entry among
    obtain ⟨⟨platform, labels⟩, listed, rfl⟩ := List.mem_map.mp among
    exact Table.mem_ofPairs_iff.mpr (values platform labels listed)

/-- The key has this value in the end, and the keys that come before it have arrays of labels. -/
def Reached (members : List (String × Json)) (platform : String) (value : Json) : Prop :=
  ∃ before after, (Table.names members).eraseDups = before ++ platform :: after ∧
    (∀ earlier ∈ before, ∃ labels : List String,
      LastValue members earlier (.array (labels.map .string))) ∧
    LastValue members platform value

theorem behindFitting_ofPairs_iff {platform : String} {value : Json} :
    BehindFitting (Table.ofPairs members) (platform, value) ↔ Reached members platform value := by
  constructor
  · rintro ⟨front, rest, split, fits⟩
    refine ⟨Table.names front, Table.names rest, ?_, ?_, ?_⟩
    · rw [← Table.names_ofPairs, split]
      exact List.map_append
    · intro earlier named
      obtain ⟨entry, among, rfl⟩ := List.mem_map.mp named
      obtain ⟨labels, listed⟩ := fits entry among
      refine ⟨labels, Table.mem_ofPairs_iff.mp ?_⟩
      rw [split, ← labelArray, ← listed]
      exact List.mem_append_left _ among
    · rw [← Table.mem_ofPairs_iff, split]
      exact List.mem_append_right _ List.mem_cons_self
  · rintro ⟨before, after, split, fine, last⟩
    rw [← Table.names_ofPairs, Table.names, List.map_eq_append_iff] at split
    obtain ⟨front, back, table, rfl, later⟩ := split
    obtain ⟨entry, rest, rfl, rfl, _⟩ := List.map_eq_cons_iff.mp later
    refine ⟨front, rest, ?_, ?_⟩
    · have held : LastValue members entry.1 entry.2 := by
        rw [← Table.mem_ofPairs_iff, table]
        exact List.mem_append_right _ List.mem_cons_self
      rw [table, last.unique held]
    · intro earlier among
      obtain ⟨labels, listed⟩ := fine earlier.1 (List.mem_map_of_mem among)
      have held : LastValue members earlier.1 earlier.2 := by
        rw [← Table.mem_ofPairs_iff, table]
        exact List.mem_append_left _ among
      exact ⟨labels, held.unique listed⟩

/-- A document whose last values are all arrays of labels is read as its keys in the order of their
first places, each with the labels of its last value. Any other document is refused for the first
of these keys whose last value does not fit. A value that its key takes again later has no say. -/
theorem first_misfit_decides {text : String} (object : Json.HasMembers text members) :
    (∀ declarations, readDocument text = .ok declarations ↔
      Table.names declarations = (Table.names members).eraseDups ∧
      ∀ platform labels, (platform, labels) ∈ declarations →
        LastValue members platform (.array (labels.map .string))) ∧
    ((∃ declarations, readDocument text = .ok declarations) ↔
      ∀ platform value, LastValue members platform value →
        ∃ labels : List String, value = .array (labels.map .string)) ∧
    (∀ message, FailsWith (readDocument text) message ↔ ∃ platform value found wanted words,
      Reached members platform value ∧ Misfit value found wanted ∧ Mentions found words ∧
      message = "Platform '" ++ platform ++
        "' must map to an array of label strings: invalid type: " ++ words ++
        ", expected " ++ wanted) ∧
    ∀ before platform value after, members = before ++ (platform, value) :: after →
      platform ∈ Table.names after → ∀ other otherText,
        Json.HasMembers otherText (before ++ (platform, other) :: after) →
        readDocument otherText = readDocument text := by
  rw [readDocument_eq object]
  refine ⟨?_, ?_, ?_, ?_⟩
  · intro declarations
    rw [readPlatforms_eq_ok_iff, ofPairs_eq_map_toMember_iff]
    rfl
  · rw [exists_readPlatforms_iff]
    simp only [Prod.forall, Table.mem_ofPairs_iff]
    rfl
  · intro message
    simp only [readPlatforms_failsWith_iff, behindFitting_ofPairs_iff, mentions_iff,
      exists_eq_left, exists_and_left]
    rfl
  · rintro before platform value after rfl again other otherText same
    rw [readDocument_eq same, Table.ofPairs_overwritten again]

end Document

/-- The first value for Mac is overwritten, so the third item for bsd is the first misfit. -/
def spoiltMembers : List (String × Json) :=
  [("Mac", .null), ("bsd", .array [.string "x", .string "x", .array [], .null]),
    ("Mac", .array [.string "y", .string "y"]), ("linux", .bool true)]

def mendedMembers : List (String × Json) :=
  spoiltMembers ++ [("linux", .array [.string "z"]), ("bsd", .array [])]

theorem readable_labelArray (labels : List String) : Json.Readable 126 (labelArray labels) := by
  apply Json.Readable.array
  intro item member
  obtain ⟨label, _, rfl⟩ := List.mem_map.mp member
  exact .string label

theorem readable_spoilt : ∀ entry ∈ spoiltMembers, Json.Readable 126 entry.2 := by
  simp only [spoiltMembers, List.forall_mem_cons]
  refine ⟨.null, .array ?_, readable_labelArray ["y", "y"], .bool true, List.forall_mem_nil _⟩
  simp only [List.forall_mem_cons]
  exact ⟨.string "x", .string "x", .array (List.forall_mem_nil _), .null, List.forall_mem_nil _⟩

theorem readable_mended : ∀ entry ∈ mendedMembers, Json.Readable 126 entry.2 := by
  simp only [mendedMembers, List.forall_mem_append, List.forall_mem_cons]
  exact ⟨readable_spoilt, readable_labelArray ["z"], readable_labelArray [],
    List.forall_mem_nil _⟩

def loneMisfits : List (String × String) :=
  [("null", "null"), ("false", "boolean `false`"), ("-7", "integer `-7`"),
    ("25e-2", "floating point `0.25`"), ("\"a\\\"\\n\"", "string \"a\\\"\\n\""),
    ("\x7b\x7d", "map")]

theorem bsd_refused_until_mended :
    Json.membersText spoiltMembers = "\x7b\"Mac\": null, \"bsd\": [\"x\", \"x\", [], null], " ++
      "\"Mac\": [\"y\", \"y\"], \"linux\": true\x7d" ∧
    Json.HasMembers (Json.membersText spoiltMembers) spoiltMembers ∧
    FailsWith (readDocument (Json.membersText spoiltMembers)) ("Platform 'bsd' must map to an " ++
      "array of label strings: invalid type: sequence, expected a string") ∧
    Json.HasMembers (Json.membersText mendedMembers) mendedMembers ∧
    readDocument (Json.membersText mendedMembers) =
      .ok [("Mac", ["y", "y"]), ("bsd", []), ("linux", ["z"])] ∧
    ∀ misfit ∈ loneMisfits, FailsWith (readDocument ("\x7b\"p\":" ++ misfit.1 ++ "\x7d"))
      ("Platform 'p' must map to an array of label strings: invalid type: " ++ misfit.2 ++
        ", expected a sequence") := by
  have spoilt := Json.hasMembers_membersText readable_spoilt
  have mended := Json.hasMembers_membersText readable_mended
  obtain ⟨_, _, fails, _⟩ := first_misfit_decides spoilt
  obtain ⟨reads, _⟩ := first_misfit_decides mended
  have reached : Reached spoiltMembers "bsd"
      (.array (["x", "x"].map .string ++ .array [] :: [.null])) := by
    refine ⟨["Mac"], ["linux"], by decide, ?_, [("Mac", .null)], spoiltMembers.drop 2, rfl, ?_⟩
    · intro earlier member
      obtain rfl := List.mem_singleton.mp member
      exact ⟨["y", "y"], spoiltMembers.take 2, spoiltMembers.drop 3, rfl, by decide⟩
    · decide
  have misfit : Misfit (.array (["x", "x"].map .string ++ .array [] :: [.null])) (.array [])
      "a string" := by
    apply Misfit.item
    intro label same
    cases same
  have reported := (fails _).mpr ⟨_, _, _, _, _, reached, misfit, .array [], rfl⟩
  refine ⟨by decide +kernel, spoilt, reported, mended, ?_, ?_⟩
  · rw [reads]
    refine ⟨by decide, ?_⟩
    intro platform labels member
    simp only [List.mem_cons, List.not_mem_nil, or_false, Prod.mk.injEq] at member
    rcases member with ⟨rfl, rfl⟩ | ⟨rfl, rfl⟩ | ⟨rfl, rfl⟩
    · exact ⟨mendedMembers.take 2, mendedMembers.drop 3, rfl, by decide⟩
    · exact ⟨mendedMembers.take 5, [], rfl, by decide⟩
    · exact ⟨mendedMembers.take 4, mendedMembers.drop 5, rfl, by decide⟩
  · have lone {text words : String} (found : Json)
        (read : Json.readMembersOf text = .ok [("p", found)])
        (other : ∀ items, found ≠ .array items) (put : words = found.mention) :
        FailsWith (readDocument text)
          ("Platform 'p' must map to an array of label strings: invalid type: " ++ words ++
            ", expected a sequence") := by
      obtain ⟨members, object, table⟩ := Json.readMembersOf_eq_ok_iff.mp read
      obtain ⟨_, _, fails, _⟩ := first_misfit_decides object
      have only : BehindFitting (Table.ofPairs members) ("p", found) := by
        rw [← table]
        exact ⟨[], [], rfl, List.forall_mem_nil _⟩
      have opening : "Platform 'p' must map to an array of label strings: invalid type: " =
          "Platform '" ++ "p" ++ "' must map to an array of label strings: invalid type: " := by
        decide +kernel
      rw [opening]
      exact (fails _).mpr ⟨"p", found, found, "a sequence", words,
        behindFitting_ofPairs_iff.mp only, .value other, mentions_iff.mpr put,
        append_expected (by decide) _⟩
    simp only [loneMisfits, List.forall_mem_cons]
    exact ⟨lone .null (by decide +kernel) nofun (by decide +kernel),
      lone (.bool false) (by decide +kernel) nofun (by decide +kernel),
      lone (.integer (-7)) (by decide +kernel) nofun (by decide +kernel),
      lone (.real ⟨false, 0x10000000000000, -54⟩) (by decide +kernel) nofun (by decide +kernel),
      lone (.string "a\"\n") (by decide +kernel) nofun (by decide +kernel),
      lone (.object []) (by decide +kernel) nofun (by decide +kernel), List.forall_mem_nil _⟩

end JobMatrix.Catalog
