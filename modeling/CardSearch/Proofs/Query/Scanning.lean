import CardSearch.Proofs.Text.Quoting
import CardSearch.Query.Cursor

/-!
What a read from a cursor gives. It passes over blanks and then gives a token with the text that it
is written as, or an error with the text at fault. A token is read back wherever it is written.
-/

namespace CardSearch.Query

def Cursor.beginsWord : List Char → Bool
  | [] => false
  | character :: rest =>
    !Text.endsWord character && character != '"' && !(character == '-' && touches rest)

structure IsWord (source after : List Char) : Prop where
  begins : Cursor.beginsWord (source ++ after)
  whole : Text.Word.read none (source ++ after) = .ok ⟨source, after⟩

theorem IsWord.source_ne_nil {source after : List Char} (word : IsWord source after) :
    source ≠ [] := by
  rintro rfl
  have begins := word.begins
  cases after with
  | nil => cases begins
  | cons character rest =>
    have ends := Text.Word.endsWord_after word.whole character rfl
    simp [Cursor.beginsWord, ends] at begins

theorem isWord_of_read {text : List Char} {word : Text.Word} (begins : Cursor.beginsWord text)
    (found : Text.Word.read none text = .ok word) : IsWord word.source word.after := by
  rw [← Text.Word.source_append_after found] at begins found
  exact ⟨begins, found⟩

/-- How a token is written in front of other text. -/
inductive Token.Spelled : Token → List Char → List Char → Prop where
  | opening (after : List Char) : Spelled .opening ['('] after
  | closing (after : List Char) : Spelled .closing [')'] after
  | dash {after : List Char} (touches : Cursor.touches after) : Spelled .not ['-'] after
  | phrase {source content after : List Char}
      (closed : Text.Phrase.read? (source ++ after) = some ⟨source, content, after⟩) :
      Spelled (.leaf (.phrase (String.ofList content))) ('"' :: source) after
  | word {source after : List Char} {token : Token} (word : IsWord source after)
      (means : Token.ofWord source = .ok token) : Spelled token source after

theorem Token.Spelled.source_ne_nil {token : Token} {source after : List Char}
    (spelled : token.Spelled source after) : source ≠ [] := by
  cases spelled with
  | word word => exact word.source_ne_nil
  | opening | closing | dash | phrase => simp

theorem Token.ofWord_cases {word : List Char} {token : Token}
    (means : Token.ofWord word = .ok token) :
    (∃ leaf, token = .leaf leaf) ∨ (∃ connective, token = .connective connective) ∨
      token = .not := by
  unfold ofWord at means
  split at means
  · cases means
    exact .inr (.inl ⟨.and, rfl⟩)
  · cases means
    exact .inr (.inl ⟨.or, rfl⟩)
  · cases means
    exact .inr (.inr rfl)
  · obtain ⟨leaf, -, rfl⟩ := Fallible.map_eq_ok_iff.1 means
    exact .inl ⟨leaf, rfl⟩

theorem Token.Spelled.ne_finish {token : Token} {source after : List Char}
    (spelled : token.Spelled source after) : token ≠ .finish := by
  cases spelled with
  | word _ means => rcases ofWord_cases means with ⟨_, rfl⟩ | ⟨_, rfl⟩ | rfl <;> simp
  | opening | closing | dash | phrase => simp

def Token.parenthesis? : Token → Option String
  | .opening => some "("
  | .closing => some ")"
  | _ => none

theorem Token.Spelled.of_parenthesis {token : Token} {source after : List Char} {symbol : String}
    (spelled : token.Spelled source after) (is : token.parenthesis? = some symbol) :
    String.ofList source = symbol := by
  cases spelled with
  | opening | closing => exact Option.some.inj is
  | dash | phrase => cases is
  | word _ means => rcases ofWord_cases means with ⟨_, rfl⟩ | ⟨_, rfl⟩ | rfl <;> cases is

namespace Cursor

inductive Scans (cursor : Cursor) : Except SyntaxError Lexeme × Cursor → Prop where
  | finish (blank : cursor.rest.all Text.isBlank) :
      Scans cursor (.ok ⟨.finish, cursor.position + cursor.rest.length, ""⟩, cursor.finish)
  | token {blanks source after : List Char} {token : Token} (blank : blanks.all Text.isBlank)
      (spelled : token.Spelled source after) (split : cursor.rest = blanks ++ (source ++ after)) :
      Scans cursor (.ok ⟨token, cursor.position + blanks.length, String.ofList source⟩,
        cursor.past (blanks ++ source) after)
  | fault {blanks source after : List Char} {fault : Fault} (blank : blanks.all Text.isBlank)
      (word : IsWord source after) (wrong : Token.ofWord source = .error fault)
      (split : cursor.rest = blanks ++ (source ++ after)) :
      Scans cursor (.error ⟨fault, String.ofList source, cursor.position + blanks.length⟩,
        cursor.past (blanks ++ source) after)
  | unclosed {blanks front opened : List Char} (blank : blanks.all Text.isBlank)
      (visible : ∀ character ∈ (front ++ opened).head?, Text.isBlank character = false)
      (quote : opened.head? = some '"') (split : cursor.rest = blanks ++ (front ++ opened)) :
      Scans cursor (.error ⟨.unclosedQuote, String.ofList opened,
        cursor.position + (blanks ++ front).length⟩, cursor.finish)

variable {cursor : Cursor} {blanks rest : List Char}

@[simp]
theorem rest_past (cursor : Cursor) (source after : List Char) :
    (cursor.past source after).rest = after :=
  rfl

theorem past_past (cursor : Cursor) (first second between after : List Char) :
    (cursor.past first between).past second after = cursor.past (first ++ second) after := by
  simp [past, Nat.add_assoc]

theorem finish_past (split : cursor.rest = blanks ++ rest) :
    (cursor.past blanks rest).finish = cursor.finish := by
  simp [finish, past, split, Nat.add_assoc]

theorem visible_of_beginsWord {text : List Char} (begins : beginsWord text) :
    ∀ character ∈ text.head?, Text.isBlank character = false := by
  intro character first
  obtain ⟨rest, rfl⟩ := List.head?_eq_some_iff.1 first
  simp only [beginsWord, Text.endsWord, Bool.and_eq_true, Bool.not_eq_true',
    Bool.or_eq_false_iff] at begins
  exact begins.1.1.1.1

theorem beginsWord_of_ne {character : Char} (dark : Text.isBlank character = false)
    (notOpening : character ≠ '(') (notClosing : character ≠ ')')
    (notDash : ¬(character = '-' && touches rest)) (notQuote : character ≠ '"') :
    beginsWord (character :: rest) := by
  rw [Bool.not_eq_true, Bool.and_eq_false_iff, decide_eq_false_iff_not] at notDash
  simp [beginsWord, Text.endsWord, dark, notOpening, notClosing, notDash, notQuote]

theorem scans_unclosed (blank : blanks.all Text.isBlank)
    (visible : ∀ character ∈ rest.head?, Text.isBlank character = false) {opened : List Char}
    (quote : opened.head? = some '"') (suffix : opened <:+ rest)
    (split : cursor.rest = blanks ++ rest) :
    Scans cursor (.error ((cursor.past blanks rest).unclosedQuote opened),
      (cursor.past blanks rest).finish) := by
  obtain ⟨front, rfl⟩ := suffix
  have place : (cursor.past blanks (front ++ opened)).unclosedQuote opened =
      ⟨.unclosedQuote, String.ofList opened, cursor.position + (blanks ++ front).length⟩ := by
    simp [unclosedQuote, past, Nat.add_assoc]
  rw [place, finish_past split]
  exact .unclosed blank visible quote split

theorem scans_nextPhrase (blank : blanks.all Text.isBlank)
    (split : cursor.rest = blanks ++ '"' :: rest) :
    Scans cursor ((cursor.past blanks ('"' :: rest)).nextPhrase rest) := by
  unfold nextPhrase
  split
  next phrase found =>
    have whole := Text.Phrase.source_append_after found
    simp only [past_past]
    rw [← whole] at found split
    exact .token blank (.phrase found) split
  next =>
    have visible : ∀ character ∈ ('"' :: rest).head?, Text.isBlank character = false := by
      intro character first
      obtain rfl := Option.some.inj first
      decide
    exact scans_unclosed blank visible rfl List.suffix_rfl split

theorem scans_nextWord (blank : blanks.all Text.isBlank) (begins : beginsWord rest)
    (split : cursor.rest = blanks ++ rest) : Scans cursor (cursor.past blanks rest).nextWord := by
  unfold nextWord
  split
  next opened failed =>
    rcases Text.Word.suffix_of_error failed with same | ⟨suffix, quote⟩
    · cases same
    · exact scans_unclosed blank (visible_of_beginsWord begins) quote suffix split
  next word found =>
    have isWord := isWord_of_read begins found
    have whole : word.source ++ word.after = rest := Text.Word.source_append_after found
    rw [← whole] at split
    rw [past_past]
    cases means : Token.ofWord word.source with
    | ok token => exact .token blank (.word isWord means) split
    | error fault => exact .fault blank isWord means split

theorem scans_nextToken (blank : blanks.all Text.isBlank)
    (visible : ∀ character ∈ rest.head?, Text.isBlank character = false)
    (split : cursor.rest = blanks ++ rest) : Scans cursor (cursor.past blanks rest).nextToken := by
  cases rest with
  | nil =>
    rw [List.append_nil] at split
    have last : Scans cursor _ := .finish (split ▸ blank)
    rw [finish, split] at last
    exact last
  | cons character rest =>
    have dark : Text.isBlank character = false := visible character rfl
    unfold nextToken
    simp only [rest_past, past_past]
    split
    next same =>
      subst same
      exact .token blank (.opening rest) split
    split
    next same =>
      subst same
      exact .token blank (.closing rest) split
    split
    next dash =>
      rw [Bool.and_eq_true, decide_eq_true_eq] at dash
      obtain ⟨rfl, touches⟩ := dash
      exact .token blank (.dash touches) split
    split
    next same =>
      subst same
      exact scans_nextPhrase blank split
    next notOpening notClosing notDash notQuote =>
      exact scans_nextWord blank (beginsWord_of_ne dark notOpening notClosing notDash notQuote) split

theorem visible_skipBlanks (cursor : Cursor) :
    ∀ character ∈ cursor.skipBlanks.rest.head?, Text.isBlank character = false := by
  intro character first
  have stops := List.head?_dropWhile_not Text.isBlank cursor.rest
  rw [skipBlanks, rest_past, Option.mem_def] at first
  rw [first] at stops
  simpa using stops

theorem scans_next (cursor : Cursor) : Scans cursor cursor.next := by
  have split : cursor.rest =
      cursor.rest.takeWhile Text.isBlank ++ cursor.rest.dropWhile Text.isBlank := by simp
  exact scans_nextToken List.all_takeWhile (visible_skipBlanks cursor) split

theorem skipBlanks_past (blank : blanks.all Text.isBlank) (split : cursor.rest = blanks ++ rest) :
    (cursor.past blanks rest).skipBlanks = cursor.skipBlanks := by
  rw [List.all_eq_true] at blank
  have taken : (blanks ++ rest).takeWhile Text.isBlank = blanks ++ rest.takeWhile Text.isBlank :=
    List.takeWhile_append_of_pos blank
  have left : (blanks ++ rest).dropWhile Text.isBlank = rest.dropWhile Text.isBlank :=
    List.dropWhile_append_of_pos blank
  simp [skipBlanks, past, split, taken, left, Nat.add_assoc]

theorem lexemes_past (blank : blanks.all Text.isBlank) (split : cursor.rest = blanks ++ rest) :
    (cursor.past blanks rest).lexemes = cursor.lexemes := by
  have same : (cursor.past blanks rest).next = cursor.next := by
    rw [next, next, skipBlanks_past blank split]
  rw [lexemes_eq, lexemes_eq cursor, same]

theorem nextToken_of_beginsWord (begins : beginsWord cursor.rest) :
    cursor.nextToken = cursor.nextWord := by
  unfold nextToken
  split
  next none =>
    rw [none] at begins
    cases begins
  next character rest here =>
    rw [here] at begins
    simp only [beginsWord, Text.endsWord, Bool.and_eq_true, Bool.not_eq_true', bne_iff_ne,
      Bool.or_eq_false_iff, beq_eq_false_iff_ne] at begins
    obtain ⟨⟨⟨⟨-, notOpening⟩, notClosing⟩, notQuote⟩, notDash⟩ := begins
    rw [if_neg notOpening, if_neg notClosing, if_neg (by simpa using notDash), if_neg notQuote]

theorem nextToken_of_spelled {source after : List Char} {token : Token}
    (spelled : token.Spelled source after) (split : cursor.rest = source ++ after) :
    cursor.nextToken =
      (.ok ⟨token, cursor.position, String.ofList source⟩, cursor.past source after) := by
  cases spelled with
  | opening | closing => simp [nextToken, split]
  | dash touches => simp [nextToken, split, touches]
  | phrase closed => simp [nextToken, split, nextPhrase, closed]
  | word word means =>
    have begins := word.begins
    rw [← split] at begins
    rw [nextToken_of_beginsWord begins]
    simp [nextWord, split, word.whole, means]

theorem visible_of_spelled {source after : List Char} {token : Token}
    (spelled : token.Spelled source after) :
    ∀ character ∈ (source ++ after).head?, Text.isBlank character = false := by
  cases spelled with
  | opening | closing | dash | phrase =>
    intro character first
    obtain rfl := Option.some.inj first
    decide
  | word word => exact visible_of_beginsWord word.begins

theorem skipBlanks_of_visible
    (visible : ∀ character ∈ cursor.rest.head?, Text.isBlank character = false) :
    cursor.skipBlanks = cursor := by
  obtain ⟨position, rest⟩ := cursor
  cases rest with
  | nil => rfl
  | cons character rest =>
    have first : Text.isBlank character = false := visible character rfl
    simp [skipBlanks, past, first]

theorem next_of_rest_eq_nil (done : cursor.rest = []) :
    cursor.next = (.ok ⟨.finish, cursor.position, ""⟩, cursor) := by
  obtain ⟨position, rest⟩ := cursor
  obtain rfl : rest = [] := done
  rfl

theorem lexemes_of_rest_eq_nil (done : cursor.rest = []) :
    cursor.lexemes = .ok [⟨.finish, cursor.position, ""⟩] := by
  rw [lexemes_eq, next_of_rest_eq_nil done]
  exact if_pos rfl

theorem next_of_spelled {source after : List Char} {token : Token}
    (spelled : token.Spelled source after) (split : cursor.rest = source ++ after) :
    cursor.next =
      (.ok ⟨token, cursor.position, String.ofList source⟩, cursor.past source after) := by
  have visible := visible_of_spelled spelled
  rw [← split] at visible
  rw [next, skipBlanks_of_visible visible, nextToken_of_spelled spelled split]

theorem lexemes_of_spelled {source after : List Char} {token : Token}
    (spelled : token.Spelled source after) (split : cursor.rest = source ++ after) :
    cursor.lexemes = (cursor.past source after).lexemes.map
      (⟨token, cursor.position, String.ofList source⟩ :: ·) := by
  rw [lexemes_eq, next_of_spelled spelled split]
  exact if_neg spelled.ne_finish

theorem next_of_unclosed {opened : List Char} (begins : beginsWord cursor.rest)
    (failed : Text.Word.read none cursor.rest = .error opened) :
    cursor.next = (.error (cursor.unclosedQuote opened), cursor.finish) := by
  rw [next, skipBlanks_of_visible (visible_of_beginsWord begins), nextToken_of_beginsWord begins,
    nextWord, failed]

theorem next_of_unclosed_phrase (unclosed : Text.Phrase.read? rest = none)
    (split : cursor.rest = '"' :: rest) :
    cursor.next = (.error (cursor.unclosedQuote cursor.rest), cursor.finish) := by
  have visible : Text.isBlank '"' = false := by decide
  rw [next, skipBlanks_of_visible (by simpa [split] using visible), nextToken, split]
  simp [nextPhrase, unclosed, split]

theorem next_of_fault {source after : List Char} {fault : Fault} (word : IsWord source after)
    (wrong : Token.ofWord source = .error fault) (split : cursor.rest = source ++ after) :
    cursor.next =
      (.error ⟨fault, String.ofList source, cursor.position⟩, cursor.past source after) := by
  have begins := word.begins
  rw [← split] at begins
  rw [next, skipBlanks_of_visible (visible_of_beginsWord begins), nextToken_of_beginsWord begins,
    nextWord, split, word.whole]
  simp [wrong]

theorem lexemes_of_error {error : SyntaxError} (failed : cursor.next.1 = .error error) :
    cursor.lexemes = .error error := by
  rw [lexemes_eq]
  split
  next step =>
    rw [step] at failed
    cases failed
    rfl
  next step =>
    rw [step] at failed
    cases failed

theorem lexemes_of_unclosed {opened : List Char} (begins : beginsWord cursor.rest)
    (failed : Text.Word.read none cursor.rest = .error opened) :
    cursor.lexemes = .error (cursor.unclosedQuote opened) :=
  lexemes_of_error (congrArg Prod.fst (next_of_unclosed begins failed))

end Cursor

theorem lexemes_single {source : List Char} {token : Token} (spelled : token.Spelled source []) :
    lexemes (String.ofList source) = .ok [⟨token, 0, String.ofList source⟩,
      ⟨.finish, source.length, ""⟩] := by
  have split : (Cursor.start (String.ofList source)).rest = source ++ [] := by
    simp [Cursor.start]
  rw [lexemes, Cursor.lexemes_of_spelled spelled split, Cursor.past,
    Cursor.lexemes_of_rest_eq_nil rfl]
  simp [Except.map, Cursor.start, Lexeme.joinTerms, Token.startsTerm]

theorem lexemes_single_of_fault {source : List Char} {fault : Fault} (word : IsWord source [])
    (wrong : Token.ofWord source = .error fault) :
    lexemes (String.ofList source) = .error ⟨fault, String.ofList source, 0⟩ := by
  have split : (Cursor.start (String.ofList source)).rest = source ++ [] := by
    simp [Cursor.start]
  have failed := congrArg Prod.fst (Cursor.next_of_fault word wrong split)
  rw [lexemes, Cursor.lexemes_of_error failed]
  rfl

end CardSearch.Query
