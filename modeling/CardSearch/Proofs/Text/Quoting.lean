import CardSearch.Text.Quoted

/-!
Words end in front of a blank or a parenthesis, and one that never ends has an open quote.
-/

namespace CardSearch.Text

theorem Phrase.read?_append {text : List Char} {phrase : Phrase}
    (found : Phrase.read? text = some phrase) (more : List Char) :
    Phrase.read? (text ++ more) = some ⟨phrase.source, phrase.content, phrase.after ++ more⟩ := by
  fun_induction Phrase.read? text generalizing phrase with
  | case1 => cases found
  | case2 rest =>
    cases found
    rfl
  | case3 rest ih | case4 rest ih =>
    obtain ⟨inner, same, rfl⟩ := Option.map_eq_some_iff.1 found
    simp [Phrase.read?, ih same]
  | case5 character rest notQuote notEscapedQuote notEscaped ih =>
    obtain ⟨inner, same, rfl⟩ := Option.map_eq_some_iff.1 found
    cases rest with
    | nil => cases same
    | cons next rest =>
      have whole := ih same
      rw [List.cons_append] at whole
      rw [List.cons_append, List.cons_append, Phrase.read?, whole]
      · rfl
      · exact notQuote
      · rintro _ rfl same
        exact notEscapedQuote _ rfl (congrArg (· :: rest) (List.cons.inj same).1)
      · rintro _ rfl same
        exact notEscaped _ rfl (congrArg (· :: rest) (List.cons.inj same).1)

namespace Word

def behind (front : List Char) (word : Word) : Word :=
  ⟨front ++ word.source, word.after⟩

theorem map_behind_nil (result : Except (List Char) Word) : result.map (behind []) = result := by
  cases result <;> rfl

theorem map_behind (front last : List Char) (result : Except (List Char) Word) :
    (result.map (behind last)).map (behind front) = result.map (behind (front ++ last)) := by
  cases result with
  | error => rfl
  | ok word => simp [Except.map, behind]

theorem map_push (character : Char) (front : List Char) (result : Except (List Char) Word) :
    (result.map (behind front)).map (push character) =
      result.map (behind (character :: front)) := by
  cases result with
  | error => rfl
  | ok word => simp [Except.map, behind, push]

/-- What is read for a word if more text follows. A word that ended with the text goes on. -/
def extended (word : Word) (more : List Char) : Except (List Char) Word :=
  if word.after = [] then (read none more).map (behind word.source)
  else .ok ⟨word.source, word.after ++ more⟩

theorem extended_push (character : Char) (word : Word) (more : List Char) :
    (word.push character).extended more = (word.extended more).map (push character) := by
  unfold extended
  rw [apply_ite (Except.map (push character)), map_push]
  rfl

/-- The text that is kept for an open section does not matter. -/
theorem read_append_eq_extended {opened other : Option (List Char)} {text : List Char} {word : Word}
    (found : read opened text = .ok word) (same : other.isSome = opened.isSome)
    (more : List Char) : read other (text ++ more) = word.extended more := by
  fun_induction read opened text generalizing word other with
  | case1 =>
    obtain rfl := Option.isNone_iff_eq_none.1 (Option.isSome_eq_false_iff.1 same)
    cases found
    exact (map_behind_nil _).symm
  | case2 character rest here =>
    obtain rfl := Option.isNone_iff_eq_none.1 (Option.isSome_eq_false_iff.1 same)
    cases found
    rw [List.cons_append, read, if_pos here]
    rfl
  | case3 rest inside ih =>
    obtain rfl := Option.isNone_iff_eq_none.1 (Option.isSome_eq_false_iff.1 same)
    obtain ⟨inner, later, rfl⟩ := Fallible.map_eq_ok_iff.1 found
    have whole : read (some ('"' :: (rest ++ more))) (rest ++ more) = _ := ih later rfl
    rw [List.cons_append, read, if_neg inside, if_pos rfl, whole, extended_push]
  | case4 character rest inside unquoted ih =>
    obtain rfl := Option.isNone_iff_eq_none.1 (Option.isSome_eq_false_iff.1 same)
    obtain ⟨inner, later, rfl⟩ := Fallible.map_eq_ok_iff.1 found
    rw [List.cons_append, read, if_neg inside, if_neg unquoted, ih later rfl, extended_push]
  | case5 => cases found
  | case6 opened escaped rest ih =>
    obtain ⟨kept, rfl⟩ := Option.isSome_iff_exists.1 same
    obtain ⟨inner, later, rfl⟩ := Fallible.map_eq_ok_iff.1 found
    have whole : read (some kept) (rest ++ more) = _ := ih later rfl
    rw [List.cons_append, List.cons_append, read, whole, extended_push, extended_push]
    cases inner.extended more <;> rfl
  | case7 opened character rest single ih =>
    obtain ⟨kept, rfl⟩ := Option.isSome_iff_exists.1 same
    obtain ⟨inner, later, rfl⟩ := Fallible.map_eq_ok_iff.1 found
    have ordinary : character ≠ '\\' := by
      rintro rfl
      cases rest with
      | nil => cases later
      | cons escaped rest => exact single escaped rest rfl rfl
    have whole : read (if character = '"' then none else some kept) (rest ++ more) = _ :=
      ih later (by split <;> rfl)
    rw [List.cons_append, read, whole, extended_push]
    exact fun _ _ same => absurd same ordinary

/-- No word goes on in front of a blank, of a parenthesis and at the end. -/
theorem read_of_ends {after : List Char} (ends : ∀ character ∈ after.head?, endsWord character) :
    read none after = .ok ⟨[], after⟩ := by
  cases after with
  | nil => rfl
  | cons character after =>
    have here : endsWord character := ends character rfl
    rw [read, if_pos here]

theorem read_append {opened other : Option (List Char)} {text : List Char} {word : Word}
    (found : read opened text = .ok word) (same : other.isSome = opened.isSome) {more : List Char}
    (ends : ∀ character ∈ more.head?, endsWord character) :
    read other (text ++ more) = .ok ⟨word.source, word.after ++ more⟩ := by
  rw [read_append_eq_extended found same, extended]
  split
  next complete => simp [read_of_ends ends, complete, Except.map, behind]
  next => rfl

theorem endsWord_after {opened : Option (List Char)} {text : List Char} {word : Word}
    (found : Word.read opened text = .ok word) :
    ∀ character ∈ word.after.head?, endsWord character := by
  fun_induction Word.read opened text generalizing word with
  | case1 =>
    cases found
    simp
  | case2 character rest ends =>
    cases found
    simpa using ends
  | case3 rest _ ih | case4 character rest _ _ ih | case6 _ escaped rest ih
  | case7 _ character rest _ ih =>
    obtain ⟨inner, same, rfl⟩ := Fallible.map_eq_ok_iff.1 found
    have ends := ih same
    exact ends
  | case5 => cases found

theorem suffix_of_error {opened : Option (List Char)} {text kept : List Char}
    (failed : Word.read opened text = .error kept) :
    opened = some kept ∨ kept <:+ text ∧ kept.head? = some '"' := by
  fun_induction Word.read opened text with
  | case1 | case2 => cases failed
  | case3 rest _ ih =>
    right
    rcases ih (Fallible.map_eq_error_iff.1 failed) with same | ⟨suffix, quote⟩
    · obtain rfl := Option.some.inj same
      exact ⟨List.suffix_rfl, rfl⟩
    · exact ⟨suffix.trans (List.suffix_cons _ _), quote⟩
  | case4 character rest _ _ ih =>
    right
    rcases ih (Fallible.map_eq_error_iff.1 failed) with same | ⟨suffix, quote⟩
    · cases same
    · exact ⟨suffix.trans (List.suffix_cons _ _), quote⟩
  | case5 opened =>
    cases failed
    exact .inl rfl
  | case6 opened escaped rest ih =>
    rcases ih (Fallible.map_eq_error_iff.1 failed) with same | ⟨suffix, quote⟩
    · exact .inl same
    · exact .inr ⟨(suffix.trans (List.suffix_cons _ _)).trans (List.suffix_cons _ _), quote⟩
  | case7 opened character rest _ ih =>
    rcases ih (Fallible.map_eq_error_iff.1 failed) with same | ⟨suffix, quote⟩
    · split at same
      · cases same
      · exact .inl same
    · exact .inr ⟨suffix.trans (List.suffix_cons _ _), quote⟩

end Word

end CardSearch.Text
