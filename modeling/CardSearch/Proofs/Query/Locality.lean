import CardSearch.Proofs.Query.LeafReading
import CardSearch.Proofs.Query.Tiling

/-!
Reading is local. What follows a text apart from it does not change how the text is read, and the
place of a text moves its tokens and nothing else.
-/

namespace CardSearch.Query

theorem StandsApart.touches_eq_false {text : List Char} (apart : StandsApart text) :
    Cursor.touches text = false := by
  cases text with
  | nil => rfl
  | cons character text => simp [Cursor.touches, apart character rfl]

theorem StandsApart.touches_append {more : List Char} (apart : StandsApart more)
    (text : List Char) : Cursor.touches (text ++ more) = Cursor.touches text := by
  cases text with
  | nil => exact apart.touches_eq_false
  | cons character text => rfl

theorem Cursor.beginsWord_append {text more : List Char} (begins : beginsWord text)
    (apart : StandsApart more) : beginsWord (text ++ more) := by
  cases text with
  | nil => cases begins
  | cons character text =>
    rw [List.cons_append, beginsWord, apart.touches_append]
    exact begins

theorem StandsApart.endsWord {text : List Char} (apart : StandsApart text) :
    ∀ character ∈ text.head?, Text.endsWord character := by
  intro character first
  simp [Text.endsWord, apart character first]

section Append

variable {source after more : List Char} {token : Token}

theorem IsWord.append (word : IsWord source after) (apart : StandsApart more) :
    IsWord source (after ++ more) := by
  constructor
  case begins =>
    rw [← List.append_assoc]
    exact Cursor.beginsWord_append word.begins apart
  case whole =>
    rw [← List.append_assoc]
    exact Text.Word.read_append word.whole rfl apart.endsWord

theorem Token.Spelled.append (spelled : token.Spelled source after) (apart : StandsApart more) :
    token.Spelled source (after ++ more) := by
  cases spelled with
  | opening => exact .opening _
  | closing => exact .closing _
  | dash touches =>
    rw [← apart.touches_append] at touches
    exact .dash touches
  | phrase closed =>
    have whole := Text.Phrase.read?_append closed more
    rw [List.append_assoc] at whole
    exact .phrase whole
  | word word means => exact .word (word.append apart) means

end Append

def Lexeme.shifted (distance : Nat) (lexeme : Lexeme) : Lexeme :=
  { lexeme with position := distance + lexeme.position }

theorem Lexeme.shifted_zero : Lexeme.shifted 0 = id := by
  funext lexeme
  simp [shifted]

theorem Cursor.lexemes_of_blanks {cursor : Cursor} {blanks source after : List Char} {token : Token}
    (blank : blanks.all Text.isBlank) (spelled : token.Spelled source after)
    (split : cursor.rest = blanks ++ (source ++ after)) :
    cursor.lexemes = (cursor.past (blanks ++ source) after).lexemes.map
      (⟨token, cursor.position + blanks.length, String.ofList source⟩ :: ·) := by
  rw [← lexemes_past blank split, lexemes_of_spelled spelled rfl, past_past]
  rfl

theorem Cursor.lexemes_append {cursor : Cursor} {written : List Lexeme}
    (read : cursor.lexemes = .ok written) (distance : Nat) :
    ∃ body, written = body ++ [⟨.finish, cursor.position + cursor.rest.length, ""⟩] ∧
      ∀ more, StandsApart more →
        (Cursor.mk (distance + cursor.position) (cursor.rest ++ more)).lexemes =
          (Cursor.mk (distance + (cursor.position + cursor.rest.length)) more).lexemes.map
            (body.map (Lexeme.shifted distance) ++ ·) := by
  induction cursor using Cursor.lexemes.induct generalizing written with
  | case1 cursor error after step =>
    rw [lexemes_eq, step] at read
    cases read
  | case2 cursor lexeme after step last =>
    have scans := scans_next cursor
    rw [lexemes_eq, step] at read
    rw [step] at scans
    cases scans with
    | finish blank =>
      -- Only blanks are left of the first text, and the reading goes on behind them.
      cases read
      refine ⟨[], rfl, fun more apart => ?_⟩
      have skipped : ((Cursor.mk (distance + cursor.position) (cursor.rest ++ more)).past
          cursor.rest more).lexemes = _ := lexemes_past blank rfl
      rw [← skipped, past, Nat.add_assoc]
      cases (Cursor.mk (distance + (cursor.position + cursor.rest.length)) more).lexemes <;> rfl
    | token blank spelled split => exact absurd last spelled.ne_finish
  | case3 cursor lexeme after step unfinished ih =>
    have scans := scans_next cursor
    rw [lexemes_eq, step] at read
    simp only [if_neg unfinished] at read
    obtain ⟨rest, more, rfl⟩ := Fallible.map_eq_ok_iff.1 read
    rw [step] at scans
    cases scans with
    | finish blank => exact absurd rfl unfinished
    | @token blanks source after token blank spelled split =>
      obtain ⟨body, rfl, follows⟩ := ih more
      refine ⟨⟨token, cursor.position + blanks.length, String.ofList source⟩ :: body, ?_, ?_⟩
      · simp [split, past, Nat.add_assoc]
      · intro tail apart
        have here : (Cursor.mk (distance + cursor.position) (cursor.rest ++ tail)).rest =
            blanks ++ (source ++ (after ++ tail)) := by simp [split]
        have place : distance + cursor.position + (blanks ++ source).length =
            distance + (cursor.past (blanks ++ source) after).position := Nat.add_assoc _ _ _
        have finish : cursor.position + cursor.rest.length =
            (cursor.past (blanks ++ source) after).position + after.length := by
          simp [split, past, Nat.add_assoc]
        rw [lexemes_of_blanks blank (spelled.append apart) here, past, place]
        have behind := follows tail apart
        rw [rest_past] at behind
        rw [behind, finish]
        generalize (Cursor.mk _ tail).lexemes = rest
        cases rest <;> simp [Except.map, Lexeme.shifted, Nat.add_assoc]

theorem Cursor.lexemes_shifted {cursor : Cursor} {written : List Lexeme}
    (read : cursor.lexemes = .ok written) (distance : Nat) :
    (Cursor.mk (distance + cursor.position) cursor.rest).lexemes =
      .ok (written.map (Lexeme.shifted distance)) := by
  obtain ⟨body, rfl, follows⟩ := lexemes_append read distance
  have moved := follows [] (by simp [StandsApart])
  have ends (position : Nat) : (Cursor.mk position []).lexemes = .ok [⟨.finish, position, ""⟩] :=
    lexemes_of_rest_eq_nil rfl
  rw [List.append_nil, ends] at moved
  rw [moved]
  simp [Except.map, Lexeme.shifted]

theorem Cursor.lexemes_behind_blanks {gap text : String} (blank : gap.toList.all Text.isBlank)
    {written : List Lexeme} (read : (Cursor.start text).lexemes = .ok written) (position : Nat) :
    (Cursor.mk position (gap.toList ++ text.toList)).lexemes =
      .ok (written.map (Lexeme.shifted (position + gap.length))) := by
  let before := Cursor.mk position (gap.toList ++ text.toList)
  have passed : (before.past gap.toList text.toList).lexemes = before.lexemes :=
    lexemes_past blank rfl
  rw [← passed, past, String.length_toList]
  exact lexemes_shifted read _

end CardSearch.Query
