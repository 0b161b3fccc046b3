import JobMatrix.Json.Writer
import JobMatrix.Proofs.Json.Printed
import Mathlib.Data.List.Basic

/-!
What is written piece by piece is the printed text. Each step of the writer adds the text of its own
part to what the memory holds, wherever strings are cut into fragments, so the whole is the text of
the value, and as the text of characters it is valid UTF-8.
-/
namespace JobMatrix.Json

def Writes (step : ByteArray → Except String ByteArray) (text : List Char) : Prop :=
  ∀ out, step out = .ok (out ++ text.utf8Encode)

variable {step next : ByteArray → Except String ByteArray} {text more : List Char}

theorem writes_nothing : Writes .ok [] := by
  intro out
  rw [List.utf8Encode_nil, ByteArray.append_empty]

theorem Writes.andThen (writes : Writes step text) (later : Writes next more) :
    Writes (fun out => step out >>= next) (text ++ more) := by
  intro out
  show step out >>= next = _
  rw [writes out, List.utf8Encode_append, ← ByteArray.append_assoc]
  exact later (out ++ text.utf8Encode)

theorem writes_text (text : String) : Writes (Sink.memory.writeText text) text.toList := by
  intro out
  rw [String.utf8Encode_toList]
  rfl

theorem writes_chars (cs : List Char) : Writes (Sink.memory.writeText (String.ofList cs)) cs := by
  have written := writes_text (String.ofList cs)
  rwa [String.toList_ofList] at written

theorem writes_units (units : List Nat) :
    Writes (Sink.memory.writeUnits units) (units.flatMap escapeUnit) := by
  induction units with
  | nil => exact writes_nothing
  | cons unit units ih => exact (writes_chars (escapeUnit unit)).andThen ih

/-! Fragments -/

def fragmentChar (c : Char) : List Char :=
  if c.toNat < 0x80 ∧ c ≠ '\x7f' then [c] else (codeUnits c).flatMap escapeUnit

theorem size_utf8Encode_concat (cs : List Char) (c : Char) :
    (cs ++ [c]).utf8Encode.size = cs.utf8Encode.size + c.utf8Size := by
  rw [List.utf8Encode_append, ByteArray.size_append, List.utf8Encode_singleton,
    List.size_toByteArray, String.length_utf8EncodeChar]

theorem extract_utf8Encode (before middle after : List Char) :
    (before ++ middle ++ after).utf8Encode.extract before.utf8Encode.size
      (before ++ middle).utf8Encode.size = middle.utf8Encode := by
  rw [List.append_assoc, List.utf8Encode_append, List.utf8Encode_append, List.utf8Encode_append,
    ByteArray.size_append]
  calc (before.utf8Encode ++ (middle.utf8Encode ++ after.utf8Encode)).extract
        (before.utf8Encode.size + 0) (before.utf8Encode.size + middle.utf8Encode.size)
      = (middle.utf8Encode ++ after.utf8Encode).extract 0 middle.utf8Encode.size :=
        ByteArray.extract_append_size_add
    _ = middle.utf8Encode := ByteArray.extract_append_eq_left rfl

theorem toUTF8_eq {text : String} {cs : List Char} (whole : text.toList = cs) :
    text.toUTF8 = cs.utf8Encode :=
  whole ▸ String.utf8Encode_toList.symm

/-- The characters that are passed over stand for themselves, so they can be written in one piece
before the next escape or at the end. -/
theorem writeFragmentFrom_eq (fragment : String) (before pending : List Char) {rest : List Char}
    (whole : fragment.toList = before ++ pending ++ rest) (out : ByteArray) :
    Sink.memory.writeFragmentFrom fragment before.utf8Encode.size
        (before ++ pending).utf8Encode.size out rest =
      .ok (out ++ (pending ++ rest.flatMap fragmentChar).utf8Encode) := by
  induction rest generalizing before pending out with
  | nil =>
    have size : fragment.utf8ByteSize = (before ++ pending).utf8Encode.size := by
      rw [← String.size_toByteArray, ← String.utf8Encode_toList, whole, List.append_nil]
    rw [Sink.writeFragmentFrom, size, toUTF8_eq whole, extract_utf8Encode, List.flatMap_nil,
      List.append_nil]
    rfl
  | cons c rest ih =>
    rw [Sink.writeFragmentFrom, ← size_utf8Encode_concat, List.flatMap_cons, fragmentChar]
    split
    · rw [List.append_assoc before, ih before (pending ++ [c]) (by simp [whole]),
        List.append_assoc]
    · have passed : Sink.memory.write (fragment.toUTF8.extract before.utf8Encode.size
          (before ++ pending).utf8Encode.size) out = .ok (out ++ pending.utf8Encode) := by
        rw [toUTF8_eq whole, extract_utf8Encode]
        rfl
      have later := ih (before ++ pending ++ [c]) [] (by simp [whole])
        (out ++ pending.utf8Encode ++ ((codeUnits c).flatMap escapeUnit).utf8Encode)
      rw [List.append_nil, List.nil_append] at later
      rw [passed]
      show Sink.memory.writeUnits (codeUnits c) (out ++ pending.utf8Encode) >>= _ = _
      rw [writes_units]
      refine later.trans ?_
      simp only [List.utf8Encode_append, ByteArray.append_assoc]

theorem writes_fragment (fragment : String) :
    Writes (Sink.memory.writeFragment fragment) (fragment.toList.flatMap fragmentChar) :=
  fun out => writeFragmentFrom_eq fragment [] [] rfl out

/-! Strings -/

theorem fragmentChar_of_shown {c : Char} (shown : ¬c < ' ') :
    fragmentChar c = if ' ' ≤ c ∧ c ≤ '~' then [c] else (codeUnits c).flatMap escapeUnit := by
  have plain : c.toNat < 0x80 ∧ c ≠ '\x7f' ↔ ' ' ≤ c ∧ c ≤ '~' := by
    have same : c = '\x7f' ↔ c.toNat = 127 := by
      rw [← Char.toNat_inj]
      rfl
    have last : c ≤ '~' ↔ c.toNat ≤ 126 := Iff.rfl
    rw [ne_eq, same, last, and_iff_right (Char.not_lt.mp shown)]
    omega
  simp only [fragmentChar, plain]

theorem printChar_eq (c : Char) : printChar c = (Sink.charEscape? c).getD (fragmentChar c) := by
  unfold printChar Sink.charEscape?
  simp only [apply_ite (Option.getD · (fragmentChar c)), Option.getD_some, Option.getD_none]
  iterate 7 refine ite_congr rfl (fun _ => rfl) fun _ => ?_
  by_cases control : c < ' '
  · have small : c.toNat < 0x10000 := Nat.lt_trans control (by decide)
    rw [if_pos control, if_neg fun shown => Char.not_lt.mpr shown.1 control, codeUnits,
      if_pos small, List.flatMap_singleton]
  · rw [if_neg control, fragmentChar_of_shown control]

theorem writes_pending {pending : List Char} (plain : ∀ c ∈ pending, Sink.charEscape? c = none) :
    Writes (Sink.memory.writePending pending) (pending.flatMap printChar) := by
  have fragments : pending.flatMap printChar = pending.flatMap fragmentChar := by
    apply List.flatMap_congr
    intro c member
    rw [printChar_eq, plain c member, Option.getD_none]
  unfold Sink.writePending
  split
  · rename_i nothing
    rw [List.isEmpty_iff.mp nothing]
    exact writes_nothing
  · have written := writes_fragment (String.ofList pending)
    rwa [String.toList_ofList, ← fragments] at written

theorem writes_contents {pending : List Char}
    (plain : ∀ c ∈ pending, Sink.charEscape? c = none) (rest : List Char) :
    Writes (Sink.memory.writeContents pending · rest) ((pending ++ rest).flatMap printChar) := by
  induction rest generalizing pending with
  | nil =>
    rw [List.append_nil]
    exact writes_pending plain
  | cons c rest ih =>
    intro out
    dsimp only
    rw [Sink.writeContents]
    split
    · rename_i none
      have longer : ∀ d ∈ pending ++ [c], Sink.charEscape? d = .none := by
        intro d member
        rcases List.mem_append.mp member with earlier | last
        · exact plain d earlier
        · exact List.mem_singleton.mp last ▸ none
      rw [List.append_cons pending c rest]
      exact ih longer out
    · rename_i escape known
      have later := ih (List.forall_mem_nil _)
      have all := (writes_pending plain).andThen ((writes_chars escape).andThen later)
      have text : pending.flatMap printChar ++ (escape ++ rest.flatMap printChar) =
          (pending ++ c :: rest).flatMap printChar := by
        rw [List.flatMap_append, List.flatMap_cons, printChar_eq c, known, Option.getD_some]
      rw [List.nil_append, text] at all
      exact all out

theorem writes_string (text : String) :
    Writes (Sink.memory.writeString text) (printString text) := by
  have contents := writes_contents (List.forall_mem_nil _) text.toList
  exact (writes_text "\"").andThen (contents.andThen (writes_text "\""))

/-! Values -/

/-- Parts with a comma before each of them, except that none stands before the first of a list. -/
def parted : Bool → List (List Char) → List Char
  | _, [] => []
  | first, part :: parts => (if first then [] else [',', ' ']) ++ (part ++ parted false parts)

theorem parted_true (parts : List (List Char)) : parted true parts = commaSeparated parts := by
  induction parts with
  | nil => rfl
  | cons part parts ih =>
    cases parts with
    | nil => simp [parted, commaSeparated]
    | cons second parts =>
      rw [commaSeparated, List.intercalate_cons_cons, ← commaSeparated, ← ih]
      simp [parted]

theorem writes_begin (first : Bool) :
    Writes (Sink.memory.beginItem first) (if first then [] else [',', ' ']) := by
  cases first with
  | true => exact writes_nothing
  | false => exact writes_text ", "

theorem writes_bracketed {opening closing : String} {inner : ByteArray → Except String ByteArray}
    {parts : List (List Char)} (writes : Writes inner (parted true parts)) :
    Writes (fun out => Sink.memory.writeText opening out >>= fun out =>
        inner out >>= Sink.memory.writeText closing)
      (opening.toList ++ (commaSeparated parts ++ closing.toList)) := by
  rw [parted_true] at writes
  exact (writes_text opening).andThen (writes.andThen (writes_text closing))

mutual

theorem writes_value : (value : Json) → Writes (Sink.memory.writeValue value) (print value)
  | .null => writes_text "null"
  | .bool true => writes_text "true"
  | .bool false => writes_text "false"
  | .integer n => writes_chars (printInteger n)
  | .real x => writes_text (realText x)
  | .string text => writes_string text
  | .array items => writes_bracketed (writes_items items true)
  | .object members => writes_bracketed (writes_members members true)

theorem writes_items : (items : List Json) → (first : Bool) →
    Writes (Sink.memory.writeItems items first) (parted first (printItems items))
  | [], _ => writes_nothing
  | item :: rest, first =>
    (writes_begin first).andThen ((writes_value item).andThen (writes_items rest false))

theorem writes_members : (members : List (String × Json)) → (first : Bool) →
    Writes (Sink.memory.writeMembers members first) (parted first (printMembers members))
  | [], _ => writes_nothing
  | (key, value) :: rest, first => by
    have member := (writes_string key).andThen ((writes_text ": ").andThen
      ((writes_value value).andThen (writes_members rest false)))
    have text : printString key ++
          (": ".toList ++ (print value ++ parted false (printMembers rest))) =
        printString key ++ ':' :: ' ' :: print value ++ parted false (printMembers rest) := by
      simp
    rw [text] at member
    exact (writes_begin first).andThen member

end

/-- A value is written as the text it is printed as. -/
theorem toSpacedJson_eq (value : Json) : toSpacedJson value = .ok value.render := by
  have bytes : value.render.toUTF8 = (print value).utf8Encode := toUTF8_eq String.toList_ofList
  have written : Sink.memory.writeValue value .empty = .ok value.render.toUTF8 := by
    rw [writes_value value, ByteArray.empty_append, bytes]
  have valid : String.fromUTF8? value.render.toUTF8 = some value.render :=
    dif_pos value.render.isValidUTF8
  rw [toSpacedJson, written]
  dsimp only
  rw [valid]

end JobMatrix.Json
