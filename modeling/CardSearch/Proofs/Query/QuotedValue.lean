import CardSearch.Proofs.Query.LeafReading

/-!
A phrase and a quoted section of a word. A phrase resolves its escapes while it is read, and only
those of quotes and backslashes; a section passes over whatever follows a backslash, and its quotes
are removed afterwards. Still both end at the same quote, if at all, and say the same.
-/

namespace CardSearch.Text

/-- A character that stands for itself between quotes, in front of a text. -/
structure Ordinary (character : Char) (rest : List Char) : Prop where
  unquoted : character ≠ '"'
  keepsQuote : ∀ tail, character = '\\' → rest ≠ '"' :: tail
  keepsBackslash : ∀ tail, character = '\\' → rest ≠ '\\' :: tail

namespace Ordinary

variable {character : Char} {rest : List Char}

theorem of_prefix {front after more : List Char} (ordinary : Ordinary character (front ++ after))
    (some : front ≠ []) : Ordinary character (front ++ more) := by
  obtain ⟨next, front, rfl⟩ := List.exists_cons_of_ne_nil some
  obtain ⟨unquoted, keepsQuote, keepsBackslash⟩ := ordinary
  refine ⟨unquoted, fun tail backslash same => ?_, fun tail backslash same => ?_⟩
  · obtain ⟨rfl, -⟩ := List.cons.inj same
    exact keepsQuote _ backslash rfl
  · obtain ⟨rfl, -⟩ := List.cons.inj same
    exact keepsBackslash _ backslash rfl

theorem read? (ordinary : Ordinary character rest) :
    Phrase.read? (character :: rest) = (Phrase.read? rest).map fun phrase =>
      ⟨character :: phrase.source, character :: phrase.content, phrase.after⟩ := by
  rw [Phrase.read?]
  · exact ordinary.unquoted
  · exact ordinary.keepsQuote
  · exact ordinary.keepsBackslash

theorem unquote (ordinary : Ordinary character rest) :
    unquote (character :: rest) = character :: Text.unquote rest := by
  rw [Text.unquote]
  · exact ordinary.keepsQuote
  · exact ordinary.keepsBackslash
  · exact ordinary.unquoted

/-- A section that passes over a character behind a backslash gets where it would get by that
character alone. -/
theorem read_section (ordinary : Ordinary character rest) (opened : List Char) :
    Word.read (some opened) (character :: rest) =
      (Word.read (some opened) rest).map (Word.push character) := by
  by_cases backslash : character = '\\'
  · subst backslash
    cases rest with
    | nil => rfl
    | cons next rest =>
      have notQuote : next ≠ '"' := fun same => ordinary.keepsQuote rest rfl (by rw [same])
      have single : next ≠ '\\' := fun same => ordinary.keepsBackslash rest rfl (by rw [same])
      have here : Word.read (some opened) (next :: rest) =
          (Word.read (some opened) rest).map (Word.push next) := by
        rw [Word.read, if_neg notQuote]
        exact fun _ _ same => absurd same single
      rw [Word.read, here]
      cases Word.read (some opened) rest <;> rfl
  · rw [Word.read, if_neg ordinary.unquoted]
    exact fun _ _ same => absurd same backslash

end Ordinary

theorem Word.read_section (opened text : List Char) :
    read (some opened) text = match Phrase.read? text with
      | some phrase => (read none phrase.after).map (behind phrase.source)
      | none => .error opened := by
  fun_induction Phrase.read? text with
  | case1 => rfl
  | case2 rest =>
    rw [read, if_pos rfl]
    · rfl
    · simp
  | case3 rest ih | case4 rest ih =>
    rw [read, ih]
    cases Phrase.read? rest with
    | none => rfl
    | some phrase =>
      simp only [Option.map_some]
      cases read none phrase.after <;> rfl
  | case5 character rest unquoted keepsQuote keepsBackslash ih =>
    have ordinary : Ordinary character rest := ⟨unquoted, keepsQuote, keepsBackslash⟩
    rw [ordinary.read_section, ih]
    cases Phrase.read? rest with
    | none => rfl
    | some phrase => exact map_push _ _ _

namespace Phrase

variable {text : List Char} {phrase : Phrase}

theorem source_ne_nil (found : read? text = some phrase) : phrase.source ≠ [] := by
  unfold read? at found
  split at found
  · cases found
  · cases found
    simp
  all_goals
    obtain ⟨inner, -, rfl⟩ := Option.map_eq_some_iff.1 found
    simp

theorem read?_source (found : read? text = some phrase) (more : List Char) :
    read? (phrase.source ++ more) = some ⟨phrase.source, phrase.content, more⟩ ∧
      unquote (phrase.source ++ more) = phrase.content ++ unquote more := by
  fun_induction read? text generalizing phrase with
  | case1 => cases found
  | case2 rest =>
    cases found
    exact ⟨rfl, rfl⟩
  | case3 rest ih | case4 rest ih =>
    obtain ⟨inner, same, rfl⟩ := Option.map_eq_some_iff.1 found
    obtain ⟨again, content⟩ := ih same
    exact ⟨by simp [read?, again], by simp [unquote, content]⟩
  | case5 character rest unquoted keepsQuote keepsBackslash ih =>
    obtain ⟨inner, same, rfl⟩ := Option.map_eq_some_iff.1 found
    obtain ⟨again, content⟩ := ih same
    have ordinary : Ordinary character (inner.source ++ inner.after) := by
      rw [source_append_after same]
      exact ⟨unquoted, keepsQuote, keepsBackslash⟩
    have here : Ordinary character (inner.source ++ more) := ordinary.of_prefix (source_ne_nil same)
    rw [List.cons_append, here.read?, here.unquote, again, content]
    exact ⟨rfl, rfl⟩

theorem goesThrough_quote (found : read? text = some phrase) :
    Word.GoesThrough ('"' :: phrase.source) := by
  intro after
  rw [List.cons_append, Word.read, if_neg (by decide), if_pos rfl, Word.read_section,
    (read?_source found after).1, Word.map_push]

theorem unquote_quote (found : read? text = some phrase) :
    unquote ('"' :: phrase.source) = phrase.content := by
  have content := (read?_source found []).2
  rw [List.append_nil] at content
  simp [unquote, content]

end Phrase

end CardSearch.Text

namespace CardSearch.Query

open CardSearch.Text (Phrase Word)

theorem next_phrase (body : String) :
    (Cursor.start ("\"" ++ body)).next.1 = match Phrase.read? body.toList with
      | some phrase => .ok ⟨.leaf (.phrase (String.ofList phrase.content)), 0,
          String.ofList ('"' :: phrase.source)⟩
      | none => .error ⟨.unclosedQuote, "\"" ++ body, 0⟩ := by
  have split : (Cursor.start ("\"" ++ body)).rest = '"' :: body.toList := by simp [Cursor.start]
  cases found : Phrase.read? body.toList with
  | some phrase =>
    have closed := (Text.Phrase.read?_source found phrase.after).1
    rw [← Text.Phrase.source_append_after found] at split
    rw [Cursor.next_of_spelled (.phrase closed) split]
    rfl
  | none =>
    have fragment : String.ofList ('"' :: body.toList) = "\"" ++ body := by simp
    rw [Cursor.next_of_unclosed_phrase found split]
    simp [Cursor.unclosedQuote, Cursor.start, fragment]

theorem ofWord_tag (value : List Char) :
    Token.ofWord (clause "tag".toList value) = .ok (.leaf (.tag (Leaf.unquoted value))) := by
  have known : ("tag", ClauseKind.tag) ∈ ClauseKind.vocabulary := by decide
  rw [Token.ofWord_clause, Leaf.read_kind known]
  rfl

theorem read_tag (body : List Char) :
    Word.read none (clause "tag".toList ('"' :: body)) = match Phrase.read? body with
      | some phrase =>
        (Word.read none phrase.after).map (Word.behind (clause "tag".toList ('"' :: phrase.source)))
      | none => .error ('"' :: body) := by
  have goes : Word.GoesThrough (clause "tag".toList []) :=
    Text.Word.goesThrough_of_bare (by decide)
  have whole := goes ('"' :: body)
  rw [Word.read, if_neg (by decide), if_pos rfl, Word.read_section] at whole
  cases found : Phrase.read? body with
  | none =>
    rw [found] at whole
    exact whole
  | some phrase =>
    simp only [found, Text.Word.map_push, Text.Word.map_behind] at whole
    exact whole

/-- A tag has its first quote reported exactly if no phrase begins there. A quote that is reported
further on stands behind a phrase. -/
theorem next_tag_eq_unclosed_iff (body fragment : String) :
    (Cursor.start ("tag:\"" ++ body)).next.1 = .error ⟨.unclosedQuote, fragment, 4⟩ ↔
      Phrase.read? body.toList = none ∧ fragment = "\"" ++ body := by
  have split : (Cursor.start ("tag:\"" ++ body)).rest =
      clause "tag".toList ('"' :: body.toList) := by simp [Cursor.start, clause]
  have begins : Cursor.beginsWord (Cursor.start ("tag:\"" ++ body)).rest := by
    rw [split]
    exact Cursor.beginsWord_cons (by decide) fun dash => absurd dash (by decide)
  have read := read_tag body.toList
  rw [← split] at read
  cases found : Phrase.read? body.toList with
  | none =>
    simp only [found] at read
    have whole : String.ofList ('"' :: body.toList) = "\"" ++ body := by simp
    rw [Cursor.next_of_unclosed begins read]
    simp [Cursor.unclosedQuote, Cursor.start, whole, eq_comm]
  | some phrase =>
    refine iff_of_false (fun unclosed => ?_) (fun none => by cases none.1)
    simp only [found] at read
    cases later : Word.read none phrase.after with
    | error opened =>
      -- The quote at fault stands behind the phrase, so it is not the first one.
      have kept := ((Text.Word.suffix_of_error later).resolve_left (by simp)).1.length_le
      have lengths := congrArg List.length (Text.Phrase.source_append_after found)
      rw [later] at read
      rw [Cursor.next_of_unclosed begins read] at unclosed
      have place : 0 + ((clause "tag".toList ('"' :: body.toList)).length - opened.length) = 4 :=
        split ▸ congrArg SyntaxError.position (Except.error.inj unclosed)
      have name : "tag".toList.length = 3 := rfl
      simp only [clause, List.length_append, List.length_cons] at place lengths
      omega
    | ok word =>
      rw [later] at read
      have whole := (Text.Word.source_append_after read).symm
      have means := ofWord_tag ('"' :: phrase.source ++ word.source)
      rw [Cursor.next_of_spelled (.word (isWord_of_read begins read) means) whole] at unclosed
      cases unclosed

/-- A text behind a quote is a phrase or a quote that is never closed. The text of a phrase says the
same as the value of a tag, and a tag with the same text behind it fails at this quote just as the
phrase does. -/
theorem phrase_and_section_alike (body : String) :
    ((∃ value text, (Cursor.start ("\"" ++ body)).next.1 = .ok ⟨.leaf (.phrase value), 0, text⟩) ∨
      (Cursor.start ("\"" ++ body)).next.1 = .error ⟨.unclosedQuote, "\"" ++ body, 0⟩) ∧
    (∀ value position text,
      (Cursor.start ("\"" ++ body)).next.1 = .ok ⟨.leaf (.phrase value), position, text⟩ →
        lexemes ("tag:" ++ text) = .ok [⟨.leaf (.tag value), 0, "tag:" ++ text⟩,
          ⟨.finish, ("tag:" ++ text).length, ""⟩]) ∧
    ∀ fragment,
      (Cursor.start ("\"" ++ body)).next.1 = .error ⟨.unclosedQuote, fragment, 0⟩ ↔
        (Cursor.start ("tag:\"" ++ body)).next.1 = .error ⟨.unclosedQuote, fragment, 4⟩ := by
  simp only [next_tag_eq_unclosed_iff, next_phrase]
  cases found : Phrase.read? body.toList with
  | none =>
    refine ⟨.inr rfl, nofun, fun fragment => ?_⟩
    simp [eq_comm]
  | some phrase =>
    refine ⟨.inl ⟨_, _, rfl⟩, ?_, by simp⟩
    rintro value position text same
    cases same
    have goes := Text.Phrase.goesThrough_quote found
    have reads : Leaf.readClause .tag ('"' :: phrase.source) =
        .ok (.tag (String.ofList phrase.content)) := by
      rw [Leaf.readClause, Leaf.unquoted, Text.Phrase.unquote_quote found]
    have spelled : Token.Spelled _ (clause "tag".toList ('"' :: phrase.source)) [] :=
      spelled_kind .tag (by decide) goes reads (by simp [StandsApart])
    have tag := lexemes_single spelled
    have written : String.ofList (clause "tag".toList ('"' :: phrase.source)) =
        "tag:" ++ String.ofList ('"' :: phrase.source) := by
      rw [← String.toList_inj]
      simp [clause]
    rw [← String.length_ofList, written] at tag
    exact tag

theorem phrase_and_section_alike_escapes :
    let body := "\\\"a \\b\\\\\" c\""
    let text := "\"\\\"a \\b\\\\\""
    (Cursor.start ("\"" ++ body)).next.1 = .ok ⟨.leaf (.phrase "\"a \\b\\"), 0, text⟩ ∧
    lexemes ("tag:" ++ text) = .ok [⟨.leaf (.tag "\"a \\b\\"), 0, "tag:" ++ text⟩,
      ⟨.finish, ("tag:" ++ text).length, ""⟩] ∧
    (Cursor.start ("\"" ++ "a\\\"")).next.1 = .error ⟨.unclosedQuote, "\"a\\\"", 0⟩ ∧
    (Cursor.start ("tag:\"" ++ "a\\\"")).next.1 = .error ⟨.unclosedQuote, "\"a\\\"", 4⟩ := by
  have phrase : (Cursor.start ("\"" ++ "\\\"a \\b\\\\\" c\"")).next.1 =
      .ok ⟨.leaf (.phrase "\"a \\b\\"), 0, "\"\\\"a \\b\\\\\""⟩ := by rfl
  have unclosed : (Cursor.start ("\"" ++ "a\\\"")).next.1 =
      .error ⟨.unclosedQuote, "\"a\\\"", 0⟩ := by rfl
  intro body text
  exact ⟨phrase, (phrase_and_section_alike body).2.1 _ _ _ phrase, unclosed,
    ((phrase_and_section_alike "a\\\"").2.2 _).1 unclosed⟩

end CardSearch.Query
