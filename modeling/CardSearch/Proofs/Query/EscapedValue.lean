import CardSearch.Proofs.Query.LeafReading
import CardSearch.Proofs.Text.Delimiters

/-!
Values with a backslash in front of their quotes and backslashes and no quotes around them. The
removal of quotes reads every such value back, but the reading of a word takes a quote for the
opening of a section although a backslash stands in front of it. So a clause is read back if its
value has no quote; otherwise the first quote opens a section that nothing closes.
-/

namespace CardSearch.Query

open CardSearch.Text (escaped endsWord backslashes Drops Word)
open CardSearch.Text.Word (isBare GoesThrough InSection Delimits)

def unquotedDeck (path : List Char) : List Char :=
  clause "deck".toList (escaped path)

section

variable {path front : List Char}

theorem isBare_escaped (inside : path.all (!endsWord ·)) (unquoted : '"' ∉ path) :
    (escaped path).all isBare := by
  rw [List.all_eq_true] at inside ⊢
  intro character member
  rcases Text.mem_escaped member with rfl | within
  · decide
  · have ordinary : character ≠ '"' := fun same => unquoted (same ▸ within)
    simpa [isBare, ordinary] using inside character within

theorem lexemes_unquotedDeck (inside : path.all (!endsWord ·)) (unquoted : '"' ∉ path) :
    lexemes (String.ofList (unquotedDeck path)) =
      .ok [⟨.leaf (.deck (String.ofList path)), 0, String.ofList (unquotedDeck path)⟩,
        ⟨.finish, (unquotedDeck path).length, ""⟩] := by
  have goes := Text.Word.goesThrough_of_bare (isBare_escaped inside unquoted)
  have reads : Leaf.readClause .deck (escaped path) = .ok (.deck (String.ofList path)) := by
    rw [Leaf.readClause, Leaf.unquoted, Text.unquote_escaped]
  exact lexemes_single (spelled_kind .deck (by decide) goes reads (by simp [StandsApart]))

theorem read_unquotedDeck_quote (rest : List Char) (inside : front.all (!endsWord ·))
    (unquoted : '"' ∉ front) :
    Word.read none (unquotedDeck front ++ '\\' :: '"' :: escaped rest) =
      .error ('"' :: escaped rest) := by
  have name : GoesThrough "deck:".toList := Text.Word.goesThrough_of_bare (by decide)
  have value := Text.Word.goesThrough_of_bare (isBare_escaped inside unquoted)
  have backslash : GoesThrough ['\\'] := Text.Word.goesThrough_of_bare (by decide)
  have goes := Text.Word.goesThrough_append name (Text.Word.goesThrough_append value backslash)
  have opens : Word.read none ('"' :: escaped rest) = .error ('"' :: escaped rest) := by
    have never := Text.Word.read_escaped ('"' :: escaped rest) rest []
    rw [List.append_nil] at never
    rw [Word.read, if_neg (by decide), if_pos rfl, never]
    rfl
  have whole := goes ('"' :: escaped rest)
  rw [opens] at whole
  simpa [unquotedDeck, clause, Except.map] using whole

theorem lexemes_unquotedDeck_quote (rest : List Char) (inside : front.all (!endsWord ·))
    (unquoted : '"' ∉ front) :
    lexemes (String.ofList (unquotedDeck (front ++ '"' :: rest))) =
      .error ⟨.unclosedQuote, String.ofList ('"' :: escaped rest),
        (unquotedDeck front).length + 1⟩ := by
  have split : (Cursor.start (String.ofList (unquotedDeck (front ++ '"' :: rest)))).rest =
      unquotedDeck front ++ '\\' :: '"' :: escaped rest := by
    simp [Cursor.start, unquotedDeck, clause, Text.escaped_append, escaped]
  have begins : Cursor.beginsWord (unquotedDeck front ++ '\\' :: '"' :: escaped rest) := by
    have letter : isBare 'd' := by decide
    have first (more : List Char) : Cursor.beginsWord ('d' :: more) :=
      Cursor.beginsWord_cons letter fun dash => absurd dash (by decide)
    simpa [unquotedDeck, clause] using first _
  rw [← split] at begins
  have failed := read_unquotedDeck_quote rest inside unquoted
  rw [← split] at failed
  have place : (unquotedDeck front ++ '\\' :: '"' :: escaped rest).length -
      ('"' :: escaped rest).length = (unquotedDeck front).length + 1 := by
    simp only [List.length_append, List.length_cons]
    omega
  rw [lexemes, Cursor.lexemes_of_unclosed begins failed, Cursor.unclosedQuote, split, place]
  simp [Except.map, Cursor.start]

end

/-- In the word that a text begins with, reading and removal agree about each quote but the opening
ones behind an odd number of backslashes. As an escaped value without quotes around it the text is
therefore read back if it has no quote, and otherwise its first quote opens a section. -/
theorem delimiters_and_escaped_value (text : List Char) :
    (∀ word front rest, Word.read none text = .ok word → word.source = front ++ '"' :: rest →
      (Drops front rest ↔ Even (backslashes front)) ∧
      ((Delimits front ↔ Drops front rest) ↔ InSection front ∨ Even (backslashes front))) ∧
    (text.all (!endsWord ·) →
      ('"' ∉ text → lexemes (String.ofList (unquotedDeck text)) =
        .ok [⟨.leaf (.deck (String.ofList text)), 0, String.ofList (unquotedDeck text)⟩,
          ⟨.finish, (unquotedDeck text).length, ""⟩]) ∧
      ∀ front rest, text = front ++ '"' :: rest → '"' ∉ front →
        lexemes (String.ofList (unquotedDeck text)) =
          .error ⟨.unclosedQuote, String.ofList ('"' :: escaped rest),
            (unquotedDeck front).length + 1⟩) := by
  constructor
  · intro word front rest found split
    have delimits := Text.Word.delimits_iff found split
    have drops := Text.drops_iff front rest
    refine ⟨drops, ?_⟩
    rw [delimits, drops]
    by_cases even : Even (backslashes front) <;> simp [even]
  · intro inside
    refine ⟨lexemes_unquotedDeck inside, ?_⟩
    rintro front rest rfl unquoted
    rw [List.all_append, Bool.and_eq_true] at inside
    exact lexemes_unquotedDeck_quote rest inside.1 unquoted

theorem delimiters_behind_backslash :
    Word.read none ['a', '\\', '"', ' ', '"', ' '] = .ok ⟨['a', '\\', '"', ' ', '"'], [' ']⟩ ∧
    (¬Drops ['a', '\\'] [' ', '"'] ∧ Delimits ['a', '\\']) ∧
    ['b', '"', 'c'].all (!endsWord ·) ∧ '"' ∉ ['b'] ∧
    lexemes (String.ofList (unquotedDeck ['b', '"', 'c'])) =
      .error ⟨.unclosedQuote, "\"c", 7⟩ := by
  have found : Word.read none ['a', '\\', '"', ' ', '"', ' '] =
      .ok ⟨['a', '\\', '"', ' ', '"'], [' ']⟩ := rfl
  obtain ⟨drops, agree⟩ :=
    (delimiters_and_escaped_value _).1 _ ['a', '\\'] [' ', '"'] found rfl
  have kept : ¬Drops ['a', '\\'] [' ', '"'] := mt drops.1 (by decide)
  have differ : ¬(Delimits ['a', '\\'] ↔ Drops ['a', '\\'] [' ', '"']) :=
    mt agree.1 (by decide)
  have value := ((delimiters_and_escaped_value ['b', '"', 'c']).2 (by decide)).2 ['b'] ['c'] rfl
  exact ⟨found, ⟨kept, by simpa [kept] using differ⟩, by decide, by decide, value (by decide)⟩

theorem escaped_quote_opens_section :
    (¬∀ (text : List Char) (word : Word) (front rest : List Char),
      Word.read none text = .ok word → word.source = front ++ '"' :: rest →
        (Drops front rest ↔ Delimits front)) ∧
    ¬∀ path : List Char, path ≠ [] → path.all (!endsWord ·) →
      lexemes (String.ofList (unquotedDeck path)) =
        .ok [⟨.leaf (.deck (String.ofList path)), 0, String.ofList (unquotedDeck path)⟩,
          ⟨.finish, (unquotedDeck path).length, ""⟩] := by
  constructor
  · intro agree
    have same := agree ['a', '\\', '"', 'b', '"'] ⟨['a', '\\', '"', 'b', '"'], []⟩
      ['a', '\\'] ['b', '"'] rfl rfl
    exact absurd same (by decide)
  · intro readBack
    have unclosed := lexemes_unquotedDeck_quote [] rfl (by decide : '"' ∉ [])
    have wrong := (readBack ['"'] (by decide) (by decide)).symm.trans unclosed
    cases wrong

end CardSearch.Query
