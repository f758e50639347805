import CardSearch.Query.Clause
import CardSearch.Query.Lexeme

/-!
Reading the tokens of a query from left to right. Every read but the one at the end moves on, also
when it fails, so a query can be read to its end past any number of errors.
-/

namespace CardSearch.Query

structure Cursor where
  position : Nat
  rest : List Char
  deriving DecidableEq, Repr

namespace Cursor

def start (query : String) : Cursor :=
  ⟨0, query.toList⟩

def past (cursor : Cursor) (source after : List Char) : Cursor :=
  ⟨cursor.position + source.length, after⟩

def finish (cursor : Cursor) : Cursor :=
  cursor.past cursor.rest []

def skipBlanks (cursor : Cursor) : Cursor :=
  cursor.past (cursor.rest.takeWhile Text.isBlank) (cursor.rest.dropWhile Text.isBlank)

/-- The error for a quote that is never closed. All of the query from the quote on is at fault. -/
def unclosedQuote (cursor : Cursor) (opened : List Char) : SyntaxError :=
  ⟨.unclosedQuote, String.ofList opened,
    cursor.position + (cursor.rest.length - opened.length)⟩

def nextPhrase (cursor : Cursor) (rest : List Char) : Except SyntaxError Lexeme × Cursor :=
  match Text.Phrase.read? rest with
  | some phrase =>
    let source := '"' :: phrase.source
    (.ok ⟨.leaf (.phrase (String.ofList phrase.content)), cursor.position, String.ofList source⟩,
      cursor.past source phrase.after)
  | none => (.error (cursor.unclosedQuote cursor.rest), cursor.finish)

def nextWord (cursor : Cursor) : Except SyntaxError Lexeme × Cursor :=
  match Text.Word.read none cursor.rest with
  | .error opened => (.error (cursor.unclosedQuote opened), cursor.finish)
  | .ok word =>
    let text := String.ofList word.source
    let result := match Token.ofWord word.source with
      | .ok token => .ok ⟨token, cursor.position, text⟩
      | .error fault => .error ⟨fault, text, cursor.position⟩
    (result, cursor.past word.source word.after)

/-- A dash negates what it touches, even a number. -/
def touches : List Char → Bool
  | [] => false
  | character :: _ => !Text.isBlank character

/-- Reads the token under the cursor, which stands on no blank. -/
def nextToken (cursor : Cursor) : Except SyntaxError Lexeme × Cursor :=
  match cursor.rest with
  | [] => (.ok ⟨.finish, cursor.position, ""⟩, cursor)
  | character :: rest =>
    if character = '(' then (.ok ⟨.opening, cursor.position, "("⟩, cursor.past ['('] rest)
    else if character = ')' then (.ok ⟨.closing, cursor.position, ")"⟩, cursor.past [')'] rest)
    else if character = '-' && touches rest then
      (.ok ⟨.not, cursor.position, "-"⟩, cursor.past ['-'] rest)
    else if character = '"' then cursor.nextPhrase rest
    else cursor.nextWord

def next (cursor : Cursor) : Except SyntaxError Lexeme × Cursor :=
  cursor.skipBlanks.nextToken

theorem rest_nextPhrase_le (cursor : Cursor) (rest : List Char) :
    (cursor.nextPhrase rest).2.rest.length ≤ rest.length := by
  unfold nextPhrase
  split
  next phrase found =>
    have whole := congrArg List.length (Text.Phrase.source_append_after found)
    simp only [List.length_append] at whole
    simp only [past]
    omega
  next => simp [finish, past]

theorem rest_nextWord_lt (cursor : Cursor) (character : Char) (rest : List Char)
    (here : cursor.rest = character :: rest) (inside : Text.endsWord character = false) :
    cursor.nextWord.2.rest.length < cursor.rest.length := by
  unfold nextWord
  split
  next => simp [finish, past, here]
  next word found =>
    have whole := congrArg List.length (Text.Word.source_append_after found)
    have nonempty : word.source ≠ [] := by
      rw [here, Text.Word.read] at found
      simp only [inside, Bool.false_eq_true, ↓reduceIte] at found
      split at found <;> obtain ⟨inner, _, rfl⟩ := Fallible.map_eq_ok_iff.1 found <;>
        simp [Text.Word.push]
    have positive := List.length_pos_iff.2 nonempty
    simp only [List.length_append] at whole
    simp only [past]
    omega

theorem rest_nextToken_lt (cursor : Cursor) (character : Char) (rest : List Char)
    (here : cursor.rest = character :: rest) (visible : Text.isBlank character = false) :
    cursor.nextToken.2.rest.length < cursor.rest.length := by
  unfold nextToken
  simp only [here]
  split
  next => simp [past]
  split
  next => simp [past]
  split
  next => simp [past]
  split
  next => exact Nat.lt_of_le_of_lt (rest_nextPhrase_le cursor rest) (by simp)
  next notOpening notClosing _ _ =>
    rw [← here]
    exact rest_nextWord_lt cursor character rest here (by simp [Text.endsWord, *])

theorem rest_skipBlanks_le (cursor : Cursor) :
    cursor.skipBlanks.rest.length ≤ cursor.rest.length := by
  simpa [skipBlanks, past] using (List.dropWhile_sublist Text.isBlank).length_le

theorem rest_next_lt (cursor : Cursor) (more : cursor.skipBlanks.rest ≠ []) :
    cursor.next.2.rest.length < cursor.rest.length := by
  obtain ⟨character, rest, here⟩ := List.exists_cons_of_ne_nil more
  have visible : Text.isBlank character = false := by
    have first := List.head?_dropWhile_not Text.isBlank cursor.rest
    have same : cursor.rest.dropWhile Text.isBlank = character :: rest := here
    simpa [same] using first
  exact Nat.lt_of_lt_of_le (rest_nextToken_lt cursor.skipBlanks character rest here visible)
    (rest_skipBlanks_le cursor)

theorem next_token_of_rest_eq_nil (cursor : Cursor) (done : cursor.skipBlanks.rest = []) :
    cursor.next.1 = .ok ⟨.finish, cursor.skipBlanks.position, ""⟩ := by
  simp [next, nextToken, done]

def lexemes (cursor : Cursor) : Except SyntaxError (List Lexeme) :=
  match _step : cursor.next with
  | (.error error, _) => .error error
  | (.ok lexeme, after) =>
    if lexeme.token = .finish then .ok [lexeme] else (lexemes after).map (lexeme :: ·)
termination_by cursor.rest.length
decreasing_by
  rename_i unfinished
  have more : cursor.skipBlanks.rest ≠ [] := by
    intro done
    have last := next_token_of_rest_eq_nil cursor done
    rw [_step] at last
    cases last
    exact unfinished rfl
  simpa [_step] using rest_next_lt cursor more

theorem lexemes_eq (cursor : Cursor) :
    cursor.lexemes = match cursor.next with
      | (.error error, _) => .error error
      | (.ok lexeme, after) =>
        if lexeme.token = .finish then .ok [lexeme] else after.lexemes.map (lexeme :: ·) := by
  rw [lexemes]
  split <;> simp_all

end Cursor

def lexemes (query : String) : Except SyntaxError (List Lexeme) :=
  (Cursor.start query).lexemes.map Lexeme.joinTerms

end CardSearch.Query
