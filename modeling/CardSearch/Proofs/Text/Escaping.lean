import CardSearch.Proofs.Text.Quoting

/-!
Writing a text so that it is read back. Between quotes any text can be written, with a backslash in
front of its quotes and backslashes; a word goes on behind a quoted section and through all other
characters that do not end it.
-/

namespace CardSearch.Text

def escaped : List Char → List Char
  | [] => []
  | character :: rest =>
    if character = '"' ∨ character = '\\' then '\\' :: character :: escaped rest
    else character :: escaped rest

theorem escaped_append (front last : List Char) :
    escaped (front ++ last) = escaped front ++ escaped last := by
  induction front with
  | nil => rfl
  | cons character front ih =>
    rw [List.cons_append, escaped, escaped, ih]
    split <;> rfl

theorem mem_escaped {character : Char} {text : List Char} (member : character ∈ escaped text) :
    character = '\\' ∨ character ∈ text := by
  induction text with
  | nil => cases member
  | cons first text ih =>
    rw [escaped] at member
    split at member <;> grind

def closed (text : List Char) : List Char :=
  escaped text ++ ['"']

def quoted (text : List Char) : List Char :=
  '"' :: closed text

theorem closed_cons_special {character : Char} (special : character = '"' ∨ character = '\\')
    (rest : List Char) : closed (character :: rest) = '\\' :: character :: closed rest := by
  simp [closed, escaped, special]

theorem closed_cons_ordinary {character : Char} (quote : character ≠ '"')
    (backslash : character ≠ '\\') (rest : List Char) :
    closed (character :: rest) = character :: closed rest := by
  simp [closed, escaped, quote, backslash]

theorem Phrase.read?_closed (text after : List Char) :
    Phrase.read? (closed text ++ after) = some ⟨closed text, text, after⟩ := by
  induction text with
  | nil => rfl
  | cons character rest ih =>
    by_cases quote : character = '"'
    · subst quote
      simp [closed_cons_special, read?, ih]
    by_cases backslash : character = '\\'
    · subst backslash
      simp [closed_cons_special, read?, ih]
    · simp [closed_cons_ordinary quote backslash, read?, backslash, ih]

theorem unquote_escaped_append (text more : List Char) :
    unquote (escaped text ++ more) = text ++ unquote more := by
  induction text with
  | nil => rfl
  | cons character rest ih =>
    by_cases quote : character = '"'
    · subst quote
      simp [escaped, unquote, ih]
    by_cases backslash : character = '\\'
    · subst backslash
      simp [escaped, unquote, ih]
    · simp [escaped, quote, backslash, unquote, ih]

theorem unquote_escaped (text : List Char) : unquote (escaped text) = text := by
  simpa [unquote] using unquote_escaped_append text []

theorem unquote_closed (text : List Char) : unquote (closed text) = text := by
  simp [closed, unquote_escaped_append, unquote]

theorem unquote_quoted (text : List Char) : unquote (quoted text) = text := by
  rw [quoted, unquote, unquote_closed]

theorem unquote_of_unquoted {text : List Char} (unquoted : '"' ∉ text)
    (single : ¬['\\', '\\'] <:+: text) : unquote text = text := by
  fun_induction unquote text with
  | case1 => rfl
  | case2 rest ih => simp at unquoted
  | case3 rest ih =>
    have double : ['\\', '\\'] <:+: '\\' :: '\\' :: rest := ⟨[], rest, rfl⟩
    exact absurd double single
  | case4 rest ih => simp at unquoted
  | case5 character rest _ _ _ ih =>
    have below : rest <:+: character :: rest := (List.suffix_cons _ _).isInfix
    rw [ih (fun member => unquoted (List.mem_cons_of_mem _ member))
      (fun double => single (double.trans below))]

namespace Word

/-- Whether a word goes on behind a text as it would begin there. -/
def GoesThrough (front : List Char) : Prop :=
  ∀ after, read none (front ++ after) = (read none after).map (behind front)

theorem goesThrough_nil : GoesThrough [] :=
  fun _ => (map_behind_nil _).symm

theorem goesThrough_append {front last : List Char} (first : GoesThrough front)
    (second : GoesThrough last) : GoesThrough (front ++ last) := by
  intro after
  rw [List.append_assoc, first, second, map_behind]

def isBare (character : Char) : Bool :=
  !endsWord character && character != '"'

theorem goesThrough_of_bare {front : List Char} (bare : front.all isBare) :
    GoesThrough front := by
  induction front with
  | nil => exact goesThrough_nil
  | cons character front ih =>
    simp only [List.all_cons, Bool.and_eq_true, isBare, Bool.not_eq_true', bne_iff_ne] at bare
    intro after
    obtain ⟨⟨inside, unquoted⟩, more⟩ := bare
    rw [List.cons_append, read, if_neg (by simp [inside]), if_neg unquoted, ih more, map_push]

theorem read_escaped (opened text more : List Char) :
    read (some opened) (escaped text ++ more) =
      (read (some opened) more).map (behind (escaped text)) := by
  induction text with
  | nil => exact (map_behind_nil _).symm
  | cons character rest ih =>
    by_cases special : character = '"' ∨ character = '\\'
    · rw [escaped, if_pos special, List.cons_append, List.cons_append, read, ih]
      cases read (some opened) more <;> rfl
    · obtain ⟨quote, backslash⟩ := not_or.1 special
      rw [escaped, if_neg special, List.cons_append, read, if_neg quote, ih, map_push]
      simp [backslash]

theorem read_closed (opened text after : List Char) :
    read (some opened) (closed text ++ after) = (read none after).map (behind (closed text)) := by
  have quote : read (some opened) ('"' :: after) = (read none after).map (push '"') := by
    rw [read, if_pos rfl]
    simp
  rw [closed, List.append_assoc, read_escaped, List.singleton_append, quote]
  cases read none after with
  | error => rfl
  | ok word => simp [Except.map, behind, push]

theorem goesThrough_quoted (text : List Char) : GoesThrough (quoted text) := by
  intro after
  rw [quoted, List.cons_append, read, if_neg (by decide), if_pos rfl, read_closed, map_push]

/-- In front of a blank, of a parenthesis and at the end a word is complete. -/
theorem read_of_goesThrough {source after : List Char} (goes : GoesThrough source)
    (ends : ∀ character ∈ after.head?, endsWord character) :
    read none (source ++ after) = .ok ⟨source, after⟩ := by
  rw [goes, read_of_ends ends]
  simp [Except.map, behind]

end Word

end CardSearch.Text
