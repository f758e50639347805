import CardSearch.Proofs.Query.Giving
import CardSearch.Proofs.Query.Locality
import CardSearch.Proofs.Query.QuotedValue

/-!
Blanks at the end of a query. They begin no token, and a quote that is open in front of them stays
open. So a query means the same with them and without them, or fails for the same reason.
-/

namespace CardSearch.Text

theorem Phrase.quote_mem_source {text : List Char} {phrase : Phrase}
    (found : Phrase.read? text = some phrase) : '"' ∈ phrase.source := by
  fun_induction Phrase.read? text generalizing phrase with
  | case1 => cases found
  | case2 =>
    cases found
    exact List.mem_singleton_self _
  | case3 rest ih | case4 rest ih | case5 character rest _ _ _ ih =>
    obtain ⟨inner, same, rfl⟩ := Option.map_eq_some_iff.1 found
    simp [ih same]

theorem Phrase.read?_of_unquoted {text : List Char} (unquoted : '"' ∉ text) :
    Phrase.read? text = none := by
  rw [Option.eq_none_iff_forall_ne_some]
  intro phrase found
  apply unquoted
  rw [← source_append_after found]
  exact List.mem_append_left _ (quote_mem_source found)

theorem Phrase.read?_append_of_none {text more : List Char} (unclosed : Phrase.read? text = none)
    (unquoted : '"' ∉ more) : Phrase.read? (text ++ more) = none := by
  fun_induction Phrase.read? text with
  | case1 => exact read?_of_unquoted unquoted
  | case2 => cases unclosed
  | case3 rest ih | case4 rest ih => simp [Phrase.read?, ih (Option.map_eq_none_iff.1 unclosed)]
  | case5 character rest notQuote keepsQuote keepsBackslash ih =>
    by_cases alone : rest = []
    · subst alone
      apply read?_of_unquoted
      simpa using ⟨Ne.symm notQuote, unquoted⟩
    · have here : Ordinary character (rest ++ []) := by
        rw [List.append_nil]
        exact ⟨notQuote, keepsQuote, keepsBackslash⟩
      rw [List.cons_append, (here.of_prefix alone).read?, ih (Option.map_eq_none_iff.1 unclosed)]
      rfl

namespace Word

theorem read_concat_of_error {opened other : Option (List Char)} {text kept : List Char}
    (failed : read opened text = .error kept) (same : other.isSome = opened.isSome)
    {character : Char} (ordinary : character ≠ '"') :
    ∃ left, read other (text ++ [character]) = .error left := by
  -- An open section keeps the text to the end, so the kept texts of the two readings differ. All
  -- that they share is whether a section is open.
  fun_induction read opened text generalizing other with
  | case1 | case2 => cases failed
  | case3 rest inside ih =>
    obtain rfl := Option.isNone_iff_eq_none.1 (Option.isSome_eq_false_iff.1 same)
    have later := Fallible.map_eq_error_iff.1 failed
    have stays : ∃ left, read (some ('"' :: (rest ++ [character]))) (rest ++ [character]) =
        .error left := ih later rfl
    simpa [read, inside, Fallible.map_eq_error_iff] using stays
  | case4 next rest inside unquoted ih =>
    obtain rfl := Option.isNone_iff_eq_none.1 (Option.isSome_eq_false_iff.1 same)
    have stays := ih (Fallible.map_eq_error_iff.1 failed) rfl
    simpa [read, inside, unquoted, Fallible.map_eq_error_iff] using stays
  | case5 opened =>
    obtain ⟨kept, rfl⟩ := Option.isSome_iff_exists.1 same
    exact ⟨kept, by simp [read, ordinary, Except.map]⟩
  | case6 opened escaped rest ih =>
    obtain ⟨kept, rfl⟩ := Option.isSome_iff_exists.1 same
    have stays : ∃ left, read (some kept) (rest ++ [character]) = .error left :=
      ih (Fallible.map_eq_error_iff.1 failed) rfl
    simpa [read, Fallible.map_eq_error_iff] using stays
  | case7 opened next rest single ih =>
    obtain ⟨kept, rfl⟩ := Option.isSome_iff_exists.1 same
    by_cases backslash : next = '\\'
    · subst backslash
      cases rest with
      | nil => exact ⟨kept, rfl⟩
      | cons escaped rest => exact absurd rfl (single escaped rest rfl)
    · have stays : ∃ left, read (if next = '"' then none else some kept) (rest ++ [character]) =
          .error left := ih (Fallible.map_eq_error_iff.1 failed) (by split <;> rfl)
      rw [List.cons_append, read]
      · simpa only [Fallible.map_eq_error_iff] using stays
      · exact fun _ _ same => absurd same backslash

theorem read_append_of_error {text kept more : List Char} (failed : read none text = .error kept)
    (unquoted : '"' ∉ more) : ∃ left, read none (text ++ more) = .error left := by
  induction more generalizing text kept with
  | nil => exact ⟨kept, by simpa using failed⟩
  | cons character more ih =>
    rw [List.mem_cons, not_or] at unquoted
    obtain ⟨left, stays⟩ := read_concat_of_error failed rfl (Ne.symm unquoted.1)
    have whole := ih stays unquoted.2
    rwa [List.append_assoc, List.singleton_append] at whole

end Word

end CardSearch.Text

namespace CardSearch.Query

open CardSearch.Text (Phrase Word isBlank)

/-- Why no token can be read where a text begins. -/
inductive Faulty : List Char → Fault → Prop where
  | phrase {rest : List Char} (unclosed : Phrase.read? rest = none) :
      Faulty ('"' :: rest) .unclosedQuote
  | quote {text opened : List Char} (begins : Cursor.beginsWord text)
      (unclosed : Word.read none text = .error opened) : Faulty text .unclosedQuote
  | word {source after : List Char} {fault : Fault} (word : IsWord source after)
      (wrong : Token.ofWord source = .error fault) : Faulty (source ++ after) fault

theorem quote_not_mem_of_blank {blanks : List Char} (blank : blanks.all isBlank) :
    '"' ∉ blanks :=
  fun quote => absurd (List.all_eq_true.1 blank '"' quote) (by decide)

theorem Faulty.append {text blanks : List Char} {fault : Fault} (faulty : Faulty text fault)
    (blank : blanks.all isBlank) : Faulty (text ++ blanks) fault := by
  have apart := standsApart_of_blank blank
  have unquoted := quote_not_mem_of_blank blank
  cases faulty with
  | phrase unclosed => exact .phrase (Phrase.read?_append_of_none unclosed unquoted)
  | quote begins unclosed =>
    obtain ⟨left, stays⟩ := Text.Word.read_append_of_error unclosed unquoted
    exact .quote (Cursor.beginsWord_append begins apart) stays
  | word word wrong =>
    rw [List.append_assoc]
    exact .word (word.append apart) wrong

namespace Cursor

variable {cursor after : Cursor} {error : SyntaxError} {fault : Fault} {rest blanks : List Char}

theorem faulty_of_nextPhrase (split : cursor.rest = '"' :: rest)
    (failed : cursor.nextPhrase rest = (.error error, after)) :
    Faulty cursor.rest error.fault := by
  unfold nextPhrase at failed
  split at failed
  next => cases failed
  next unclosed =>
    cases failed
    rw [split]
    exact .phrase unclosed

theorem faulty_of_nextWord (begins : beginsWord cursor.rest)
    (failed : cursor.nextWord = (.error error, after)) : Faulty cursor.rest error.fault := by
  unfold nextWord at failed
  split at failed
  next opened unclosed =>
    cases failed
    exact .quote begins unclosed
  next word found =>
    have isWord := isWord_of_read begins found
    rw [← Text.Word.source_append_after found]
    cases means : Token.ofWord word.source with
    | ok token =>
      rw [means] at failed
      cases failed
    | error fault =>
      rw [means] at failed
      cases failed
      exact .word isWord means

theorem faulty_of_nextToken
    (visible : ∀ character ∈ cursor.rest.head?, isBlank character = false)
    (failed : cursor.nextToken = (.error error, after)) : Faulty cursor.rest error.fault := by
  cases here : cursor.rest with
  | nil =>
    rw [nextToken, here] at failed
    cases failed
  | cons character rest =>
    have dark : isBlank character = false := visible character (by rw [here]; rfl)
    rw [← here]
    rw [nextToken, here] at failed
    dsimp only at failed
    split at failed
    next => cases failed
    split at failed
    next => cases failed
    split at failed
    next => cases failed
    split at failed
    next quote =>
      subst quote
      exact faulty_of_nextPhrase here failed
    next notOpening notClosing notDash notQuote =>
      apply faulty_of_nextWord _ failed
      rw [here]
      exact beginsWord_of_ne dark notOpening notClosing notDash notQuote

theorem exists_error_of_faulty (faulty : Faulty cursor.rest fault) :
    ∃ error, cursor.lexemes = .error error ∧ error.fault = fault := by
  generalize split : cursor.rest = text at faulty
  cases faulty with
  | phrase unclosed =>
    have failed := next_of_unclosed_phrase unclosed split
    exact ⟨_, lexemes_of_error (congrArg Prod.fst failed), rfl⟩
  | quote begins unclosed =>
    rw [← split] at begins unclosed
    exact ⟨_, lexemes_of_unclosed begins unclosed, rfl⟩
  | word word wrong =>
    have failed := next_of_fault word wrong split
    exact ⟨_, lexemes_of_error (congrArg Prod.fst failed), rfl⟩

theorem lexemes_append_of_error (failed : cursor.lexemes = .error error)
    (blank : blanks.all isBlank) :
    ∃ other, (Cursor.mk cursor.position (cursor.rest ++ blanks)).lexemes = .error other ∧
      other.fault = error.fault := by
  induction cursor using Cursor.lexemes.induct with
  | case1 cursor wrong after step =>
    obtain rfl : wrong = error := by
      rw [lexemes_of_error (congrArg Prod.fst step)] at failed
      exact Except.error.inj failed
    have faulty : Faulty (cursor.rest.dropWhile isBlank) wrong.fault :=
      faulty_of_nextToken (visible_skipBlanks cursor) step
    have split : (Cursor.mk cursor.position (cursor.rest ++ blanks)).rest =
        cursor.rest.takeWhile isBlank ++ (cursor.rest.dropWhile isBlank ++ blanks) := by
      rw [← List.append_assoc, List.takeWhile_append_dropWhile]
    rw [← lexemes_past List.all_takeWhile split]
    exact exists_error_of_faulty (faulty.append blank)
  | case2 cursor lexeme after step last =>
    rw [lexemes_eq, step] at failed
    simp only [if_pos last] at failed
    cases failed
  | case3 cursor lexeme after step unfinished ih =>
    have scans := scans_next cursor
    rw [lexemes_eq, step] at failed
    simp only [if_neg unfinished] at failed
    have later := Fallible.map_eq_error_iff.1 failed
    rw [step] at scans
    cases scans with
    | finish blank => exact absurd rfl unfinished
    | @token before source after token dark spelled split =>
      obtain ⟨other, stays, same⟩ := ih later
      have here : (Cursor.mk cursor.position (cursor.rest ++ blanks)).rest =
          before ++ (source ++ (after ++ blanks)) := by simp [split]
      refine ⟨other, ?_, same⟩
      rw [lexemes_of_blanks dark (spelled.append (standsApart_of_blank blank)) here]
      exact Fallible.map_eq_error_iff.2 stays

theorem lexemes_of_all_blank (blank : blanks.all isBlank) (position : Nat) :
    (Cursor.mk position blanks).lexemes = .ok [⟨.finish, position + blanks.length, ""⟩] := by
  let before := Cursor.mk position blanks
  have passed : (before.past blanks []).lexemes = before.lexemes :=
    lexemes_past blank (List.append_nil _).symm
  rw [← passed, lexemes_of_rest_eq_nil rfl]
  rfl

/-- Blanks at the end of a text move the end of the query and nothing else. -/
theorem lexemes_append_blanks (cursor : Cursor) (blank : blanks.all isBlank) :
    (∃ body, cursor.lexemes = .ok (body ++ [⟨.finish, cursor.finish.position, ""⟩]) ∧
      (Cursor.mk cursor.position (cursor.rest ++ blanks)).lexemes =
        .ok (body ++ [⟨.finish, cursor.finish.position + blanks.length, ""⟩])) ∨
    ∃ error other, cursor.lexemes = .error error ∧
      (Cursor.mk cursor.position (cursor.rest ++ blanks)).lexemes = .error other ∧
        other.fault = error.fault := by
  cases read : cursor.lexemes with
  | error error =>
    obtain ⟨other, failed, same⟩ := lexemes_append_of_error read blank
    exact .inr ⟨error, other, rfl, failed, same⟩
  | ok written =>
    obtain ⟨body, rfl, follows⟩ := lexemes_append read 0
    refine .inl ⟨body, rfl, ?_⟩
    have whole := follows blanks (standsApart_of_blank blank)
    rw [Nat.zero_add, Nat.zero_add, lexemes_of_all_blank blank, Lexeme.shifted_zero,
      List.map_id] at whole
    exact whole

end Cursor

namespace Reading

/-- The place of the end of the query matters only for where an error is. -/
theorem run_finish_fault (progress : Progress) {finish other : Lexeme}
    (last : finish.token = .finish) (alike : other.token = .finish) (previous : String) :
    (run progress finish previous []).1.mapError SyntaxError.fault =
      (run progress other previous []).1.mapError SyntaxError.fault := by
  obtain ⟨groups, phase⟩ := progress
  obtain ⟨token, position, text⟩ := finish
  obtain ⟨same, place, shown⟩ := other
  obtain rfl : token = .finish := last
  obtain rfl : same = .finish := alike
  cases phase with
  | operand => rfl
  | connective => cases groups <;> rfl

theorem run_append_finish_fault (progress : Progress) {finish other : Lexeme}
    (last : finish.token = .finish) (alike : other.token = .finish) (first : Lexeme)
    (previous : String) (front : List Lexeme) :
    (run progress first previous (front ++ [finish])).1.mapError SyntaxError.fault =
      (run progress first previous (front ++ [other])).1.mapError SyntaxError.fault := by
  induction front generalizing progress first previous with
  | nil =>
    simp only [List.nil_append, run]
    cases progress.step first previous with
    | stop result stays => rfl
    | on next stays => exact run_finish_fault next last alike first.text
  | cons second front ih =>
    simp only [List.cons_append, run]
    cases progress.step first previous with
    | stop result stays => rfl
    | on next stays => exact ih next second first.text

end Reading

theorem Filter.ofLexemes_append_finish_fault (front : List Lexeme) {finish other : Lexeme}
    (last : finish.token = .finish) (alike : other.token = .finish) :
    (ofLexemes (front ++ [finish])).mapError SyntaxError.fault =
      (ofLexemes (front ++ [other])).mapError SyntaxError.fault := by
  cases front with
  | nil => simp [ofLexemes, Reading.ofLexemes, Reading.next, last, alike]
  | cons first front =>
    by_cases ends : first.token = .finish
    · simp [ofLexemes, Reading.ofLexemes, Reading.next, ends]
    · rw [List.cons_append, List.cons_append, ofLexemes_cons ends, ofLexemes_cons ends]
      exact Reading.run_append_finish_fault .begin last alike first "" front

/-- Blanks at the end of a query matter only for where an error is. -/
theorem Filter.ofQuery_append_blanks (query : String) {blanks : String}
    (blank : blanks.toList.all isBlank) :
    (ofQuery (query ++ blanks)).mapError SyntaxError.fault =
      (ofQuery query).mapError SyntaxError.fault := by
  have split : Cursor.start (query ++ blanks) =
      Cursor.mk (Cursor.start query).position ((Cursor.start query).rest ++ blanks.toList) := by
    simp [Cursor.start]
  unfold ofQuery lexemes
  rw [split]
  rcases (Cursor.start query).lexemes_append_blanks blank with
    ⟨body, alone, spaced⟩ | ⟨error, other, alone, spaced, same⟩
  · rw [alone, spaced, Except.map, Except.map, Lexeme.joinTerms_concat _ rfl,
      Lexeme.joinTerms_concat _ rfl]
    exact ofLexemes_append_finish_fault _ rfl rfl
  · rw [alone, spaced]
    exact congrArg Except.error same

end CardSearch.Query
