import JobMatrix.Json.Reader

/-!
Lists in JSON text, and what a reader leaves over. No reader leaves over more than it was given,
and every item but the last of a list takes its comma, so the budget of the list reader is never
used up: a list is read just as it stands there.
-/
namespace JobMatrix.Json

theorem exists_of_map_ok {ε α β : Type} {reading : Except ε α} {f : α → β} {result : β}
    (read : reading.map f = .ok result) : ∃ first, reading = .ok first ∧ f first = result := by
  cases reading with
  | error fault => cases read
  | ok first =>
    cases read
    exact ⟨first, rfl, rfl⟩

def Shrinks {α : Type} (reader : List Char → Reading α) : Prop :=
  ∀ cs value rest, reader cs = .ok (value, rest) → rest.length ≤ cs.length

theorem length_lt_of_skipBlanks {c : Char} {cs rest : List Char}
    (shown : skipBlanks cs = c :: rest) : rest.length < cs.length := by
  have within : (skipBlanks cs).length ≤ cs.length := (List.dropWhile_sublist _).length_le
  rwa [shown] at within

/-- What is made of the value that was read does not matter. -/
theorem Shrinks.of_map {α β : Type} {reader : List Char → Reading α} (shrinks : Shrinks reader)
    {f : α × List Char → β × List Char} {cs rest : List Char} {value : β}
    (read : (reader cs).map f = .ok (value, rest)) (keeps : ∀ reading, (f reading).2 = reading.2) :
    rest.length ≤ cs.length := by
  obtain ⟨⟨first, left⟩, read, result⟩ := exists_of_map_ok read
  have same := keeps (first, left)
  rw [result] at same
  obtain rfl : rest = left := same
  exact shrinks cs first rest read

theorem readWord_shrinks {word cs rest : List Char} (read : readWord word cs = .ok rest) :
    rest.length ≤ cs.length := by
  fun_induction readWord word cs with
  | case1 => cases read; exact Nat.le_refl _
  | case2 => cases read
  | case3 word rest c ih => exact Nat.le_succ_of_le (ih read)
  | case4 => cases read

theorem shrinks_readText : Shrinks readText := by
  intro cs text rest read
  fun_induction readText cs generalizing text with
  | case2 => cases read; exact Nat.le_succ _
  | case8 | case13 | case16 | case19 =>
    rename_i ih
    obtain ⟨⟨others, left⟩, later, pair⟩ := exists_of_map_ok read
    cases pair
    have := ih others later
    simp only [List.length_cons]
    omega
  | _ => cases read

theorem shrinks_readString : Shrinks readString :=
  fun _ _ _ read => shrinks_readText.of_map read fun _ => rfl

theorem shrinks_readDigits : Shrinks readDigits := by
  intro cs digits rest read
  unfold readDigits at read
  split at read
  · cases read
  · split at read
    · cases read
      exact (List.dropWhile_sublist _).length_le
    · cases read

theorem shrinks_readWhole : Shrinks readWhole := by
  intro cs digits rest read
  unfold readWhole at read
  split at read
  · cases read
  · exact shrinks_readDigits cs digits rest read

theorem shrinks_readFraction : Shrinks readFraction := by
  intro cs digits rest read
  unfold readFraction at read
  split at read
  · exact Nat.le_succ_of_le (shrinks_readDigits.of_map read fun _ => rfl)
  · cases read
    exact Nat.le_refl _

theorem shrinks_readPower : Shrinks readPower := by
  intro cs power rest read
  unfold readPower at read
  split at read
  · exact Nat.le_succ_of_le (shrinks_readDigits.of_map read fun _ => rfl)
  · exact Nat.le_succ_of_le (shrinks_readDigits.of_map read fun _ => rfl)
  · exact shrinks_readDigits.of_map read fun _ => rfl

theorem shrinks_readExponent : Shrinks readExponent := by
  intro cs power rest read
  unfold readExponent at read
  split at read
  · exact Nat.le_succ_of_le (shrinks_readPower.of_map read fun _ => rfl)
  · exact Nat.le_succ_of_le (shrinks_readPower.of_map read fun _ => rfl)
  · cases read
    exact Nat.le_refl _

theorem shrinks_readMagnitude (negative : Bool) : Shrinks (readMagnitude negative) := by
  intro cs value rest read
  simp only [readMagnitude, bind, Except.bind, pure, Except.pure] at read
  split at read
  · cases read
  rename_i whole
  split at read
  · cases read
  rename_i fraction
  split at read
  · cases read
  rename_i exponent
  split at read
  · cases read
  cases read
  exact Nat.le_trans (shrinks_readExponent _ _ _ exponent)
    (Nat.le_trans (shrinks_readFraction _ _ _ fraction) (shrinks_readWhole _ _ _ whole))

theorem shrinks_readNumber : Shrinks readNumber := by
  intro cs value rest read
  unfold readNumber at read
  split at read
  · exact Nat.le_succ_of_le (shrinks_readMagnitude true _ value rest read)
  · exact shrinks_readMagnitude false _ value rest read

theorem readScalar_shrinks {c : Char} {cs rest : List Char} {value : Json}
    (read : readScalar c cs = .ok (value, rest)) : rest.length ≤ (c :: cs).length := by
  have word {letters : List Char} {meant : Json}
      (read : (readWord letters cs).map (meant, ·) = .ok (value, rest)) :
      rest.length ≤ (c :: cs).length := by
    obtain ⟨left, read, pair⟩ := exists_of_map_ok read
    cases pair
    exact Nat.le_succ_of_le (readWord_shrinks read)
  unfold readScalar at read
  split at read
  · exact word read
  split at read
  · exact word read
  split at read
  · exact word read
  split at read
  · exact Nat.le_succ_of_le (shrinks_readString.of_map read fun _ => rfl)
  split at read
  · exact shrinks_readNumber _ value rest read
  · cases read

section Listing

variable {α : Type}

/-- Items separated by commas up to a closing character, and the characters after that. -/
inductive Listing (bracket : Bracket) (item : List Char → Reading α) :
    List Char → List α → List Char → Prop
  | last {cs left rest : List Char} {value : α} (read : item cs = .ok (value, left))
      (closes : skipBlanks left = bracket.close :: rest) : Listing bracket item cs [value] rest
  | more {cs left later rest : List Char} {value : α} {values : List α}
      (read : item cs = .ok (value, left)) (comma : skipBlanks left = ',' :: later)
      (others : Listing bracket item later values rest) :
    Listing bracket item cs (value :: values) rest

variable {bracket : Bracket} {item : List Char → Reading α} {cs rest : List Char} {values : List α}

theorem exists_first_of_listing (listing : Listing bracket item cs values rest) :
    ∃ value left, item cs = .ok (value, left) := by
  cases listing with
  | last read closes => exact ⟨_, _, read⟩
  | more read comma others => exact ⟨_, _, read⟩

theorem listing_of_readListed {budget : Nat}
    (read : readListed bracket item budget cs = .ok (values, rest)) :
    Listing bracket item cs values rest := by
  induction budget generalizing cs values with
  | zero => cases read
  | succ budget ih =>
    rw [readListed] at read
    split at read
    · cases read
    rename_i first
    split at read
    · cases read
    rename_i left
    split at read
    · rename_i closes
      cases read
      exact .last first (closes ▸ left)
    split at read
    · rename_i comma
      obtain ⟨⟨others, after⟩, later, pair⟩ := exists_of_map_ok read
      cases pair
      exact .more first (comma ▸ left) (ih later)
    · cases read

theorem readListed_of_listing (notComma : bracket.close ≠ ',')
    (listing : Listing bracket item cs values rest) {budget : Nat}
    (enough : values.length ≤ budget) :
    readListed bracket item budget cs = .ok (values, rest) := by
  induction listing generalizing budget with
  | last read closes =>
    obtain ⟨budget, rfl⟩ := Nat.exists_eq_add_of_le' enough
    rw [List.length_singleton, readListed, read]
    dsimp only
    rw [closes]
    dsimp only
    rw [if_pos rfl]
  | more read comma others ih =>
    obtain ⟨budget, rfl⟩ := Nat.exists_eq_add_of_le' (Nat.le_trans (Nat.succ_pos _) enough)
    rw [readListed, read]
    dsimp only
    rw [comma]
    dsimp only
    rw [if_neg notComma.symm, if_pos rfl, ih (Nat.le_of_succ_le_succ enough)]
    rfl

/-- Every item but the last takes its comma, so a list has fewer items than characters. -/
theorem length_le_of_listing (shrinks : Shrinks item)
    (listing : Listing bracket item cs values rest) : values.length + rest.length ≤ cs.length := by
  induction listing with
  | @last cs left rest value read closes =>
    have leftOver := shrinks cs value left read
    have ended := length_lt_of_skipBlanks closes
    rw [List.length_singleton]
    omega
  | @more cs left later rest value values read comma others ih =>
    have leftOver := shrinks cs value left read
    have parted := length_lt_of_skipBlanks comma
    rw [List.length_cons]
    omega

theorem shrinks_readListed (shrinks : Shrinks item) (budget : Nat) :
    Shrinks (readListed bracket item budget) := by
  intro cs values rest read
  have := length_le_of_listing shrinks (listing_of_readListed read)
  omega

/-- A list is read just as it stands there: the budget that its length gives is enough. -/
theorem readListed_eq_ok_iff (notComma : bracket.close ≠ ',') (shrinks : Shrinks item) :
    readListed bracket item (cs.length + 1) cs = .ok (values, rest) ↔
      Listing bracket item cs values rest := by
  constructor
  · exact listing_of_readListed
  · intro listing
    have := length_le_of_listing shrinks listing
    exact readListed_of_listing notComma listing (by omega)

end Listing

end JobMatrix.Json
