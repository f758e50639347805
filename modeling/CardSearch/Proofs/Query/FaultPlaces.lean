import CardSearch.Proofs.Query.FaultCauses
import CardSearch.Proofs.Query.Stepping
import CardSearch.Proofs.Query.Tiling

/-!
Where an error points. The text at fault is a piece of the query at the place of the error, and it
is never empty. Only an error at the end of the query shows the token in front of its place; there
is one, since a query without tokens is no error and a conjunction that nobody wrote stands in front
of a term.
-/

namespace CardSearch.Query

structure SyntaxError.PointsInto (error : SyntaxError) (position : Nat) (text : List Char) :
    Prop where
  written : error.fragment ≠ ""
  here : ∃ front back, text = front ++ (error.fragment.toList ++ back) ∧
    error.position = position + front.length

theorem SyntaxError.PointsInto.behind {error : SyntaxError} {position : Nat}
    {front text : List Char} (points : error.PointsInto (position + front.length) text) :
    error.PointsInto position (front ++ text) := by
  obtain ⟨before, back, rfl, place⟩ := points.here
  refine ⟨points.written, front ++ before, back, by simp, ?_⟩
  rw [place, List.length_append, Nat.add_assoc]

namespace Cursor

theorem pointsInto_of_scans {cursor after : Cursor} {error : SyntaxError}
    (scans : Scans cursor (.error error, after)) :
    error.PointsInto cursor.position cursor.rest ∧ error.fault.cause ≠ .unexpectedEnd := by
  cases scans with
  | @fault blanks source after fault blank word wrong split =>
    have written : String.ofList source ≠ "" := by simpa using word.source_ne_nil
    exact ⟨⟨written, blanks, after, by simpa using split, rfl⟩, (Token.cause_of_ofWord wrong).1⟩
  | @unclosed blanks front opened blank visible quote split =>
    have written : String.ofList opened ≠ "" := by
      have some : opened ≠ [] := by
        rintro rfl
        cases quote
      simpa using some
    have there : cursor.rest = blanks ++ front ++ (opened ++ []) := by simpa using split
    exact ⟨⟨written, _, [], by simpa using there, rfl⟩, by simp [Fault.cause]⟩

theorem pointsInto_of_lexemes {cursor : Cursor} {error : SyntaxError}
    (failed : cursor.lexemes = .error error) :
    error.PointsInto cursor.position cursor.rest ∧ error.fault.cause ≠ .unexpectedEnd := by
  induction cursor using Cursor.lexemes.induct with
  | case1 cursor wrong after step =>
    have scans := scans_next cursor
    rw [lexemes_eq, step] at failed
    cases failed
    rw [step] at scans
    exact pointsInto_of_scans scans
  | case2 cursor lexeme after step last =>
    rw [lexemes_eq, step] at failed
    simp only [if_pos last] at failed
    cases failed
  | case3 cursor lexeme after step unfinished ih =>
    have scans := scans_next cursor
    rw [lexemes_eq, step] at failed
    simp only [if_neg unfinished] at failed
    rw [step] at scans
    obtain ⟨points, cause⟩ := ih (Fallible.map_eq_error_iff.1 failed)
    refine ⟨?_, cause⟩
    cases scans with
    | finish => exact absurd rfl unfinished
    | token blank spelled split =>
      rw [split, ← List.append_assoc]
      exact points.behind

end Cursor

namespace Tiles

variable {ended : Bool} {position : Nat} {text : List Char} {lexemes front back : List Lexeme}
  {lexeme : Lexeme}

theorem pointsInto (tiles : Tiles ended position text lexemes) (member : lexeme ∈ lexemes)
    (written : lexeme.text ≠ "") (fault : Fault) :
    SyntaxError.PointsInto ⟨fault, lexeme.text, lexeme.position⟩ position text := by
  obtain ⟨before, after, split, place, -⟩ := tiles.exists_split member written
  exact ⟨written, before, after, split, place⟩

theorem text_of_parenthesis (tiles : Tiles ended position text lexemes)
    (member : lexeme ∈ lexemes) {symbol : String}
    (is : lexeme.token.parenthesis? = some symbol) : lexeme.text = symbol := by
  obtain ⟨front, back, rfl⟩ := List.append_of_mem member
  obtain ⟨followed, before, after, -, -, here⟩ := tiles.exists_suffix
  cases here with
  | token blank spelled more => exact spelled.of_parenthesis is
  | finish | conjunction => cases is

theorem ended_of_unwritten (tiles : Tiles ended position text (front ++ lexeme :: back))
    (inside : lexeme.token ≠ .finish) (unwritten : lexeme.text = "") :
    front.foldl (fun _ earlier => earlier.token.endsTerm) ended = true := by
  obtain ⟨followed, before, after, same, -, here⟩ := tiles.exists_suffix
  rw [same]
  cases here with
  | finish => exact absurd rfl inside
  | token blank spelled more =>
    have written := spelled.source_ne_nil
    simp [written] at unwritten
  | conjunction starts more => rfl

theorem written_of_startsTerm (tiles : Tiles ended position text lexemes)
    (member : lexeme ∈ lexemes) (starts : lexeme.token.startsTerm) : lexeme.text ≠ "" := by
  intro unwritten
  obtain ⟨front, back, split⟩ := List.append_of_mem member
  have inside : lexeme.token ≠ .finish := by
    intro last
    rw [last] at starts
    cases starts
  obtain ⟨next, rest, -, -, rfl⟩ := tiles.exists_next split inside unwritten
  cases starts

theorem of_finish (tiles : Tiles ended position text (front ++ lexeme :: back))
    (last : lexeme.token = .finish) : back = [] ∧ lexeme.position = position + text.length := by
  obtain ⟨followed, before, after, -, rfl, here⟩ := tiles.exists_suffix
  cases here with
  | finish => exact ⟨rfl, by rw [List.length_append, Nat.add_assoc]⟩
  | token blank spelled more => cases spelled.ne_finish last
  | conjunction => cases last

/-- A token that is rejected is a written one or the end of the query. -/
theorem written_of_rejects {progress : Progress} {previous : String} {error : SyntaxError}
    (tiles : Tiles false position text (front ++ lexeme :: back))
    (goes : Progress.begin.through? front = some progress)
    (rejects : progress.Rejects previous lexeme error) :
    lexeme.text ≠ "" ∨ lexeme.token = .finish := by
  have member : lexeme ∈ front ++ lexeme :: back := by simp
  cases rejects with
  | unexpectedEnd | unclosedParenthesis => exact .inr rfl
  | unexpectedClosing | unmatchedParenthesis =>
    obtain rfl := tiles.text_of_parenthesis member rfl
    exact .inl (by simp)
  | unexpectedConnective =>
    refine .inl fun unwritten => ?_
    have ended := tiles.ended_of_unwritten (by simp) unwritten
    cases (Progress.isReached_of_through? goes).trans ended
  | queryGoesOn starts | groupGoesOn starts =>
    exact .inl (tiles.written_of_startsTerm member starts)

theorem exists_blanks {finish : Lexeme}
    (tiles : Tiles ended position text (front ++ [lexeme, finish])) (written : lexeme.text ≠ "")
    (last : finish.token = .finish) :
    ∃ before blanks, text = before ++ (lexeme.text.toList ++ blanks) ∧
      lexeme.position = position + before.length ∧ blanks.all Text.isBlank := by
  obtain ⟨followed, before, after, -, rfl, here⟩ := tiles.exists_suffix
  cases here with
  | @token _ _ blanks source after token rest blank spelled more =>
    generalize token.endsTerm = followed at more
    cases more with
    | finish blank =>
      refine ⟨before ++ blanks, after, by simp, ?_, blank⟩
      rw [List.length_append, Nat.add_assoc]
    | token _ early _ => cases early.ne_finish last
  | conjunction => exact absurd rfl written

end Tiles

structure SyntaxError.Pinpoints (error : SyntaxError) (query : String) : Prop where
  inside : error.position ≤ query.length
  written : error.fragment ≠ ""
  here : error.fault.cause ≠ .unexpectedEnd →
    error.fragment.toList <+: query.toList.drop error.position
  /-- At the end of the query, the last token is shown. -/
  atEnd : error.fault.cause = .unexpectedEnd → error.position = query.length ∧
    ∃ front last finish, lexemes query = .ok (front ++ [last, finish]) ∧
      finish.token = .finish ∧ error.fragment = last.text ∧
      ∃ before blanks, query.toList = before ++ (last.text.toList ++ blanks) ∧
        last.position = before.length ∧ blanks.all Text.isBlank

namespace SyntaxError

variable {error : SyntaxError} {query : String}

theorem pinpoints_of_pointsInto (points : error.PointsInto 0 query.toList)
    (cause : error.fault.cause ≠ .unexpectedEnd) : error.Pinpoints query := by
  obtain ⟨front, back, split, place⟩ := points.here
  rw [Nat.zero_add] at place
  constructor
  case inside =>
    have whole := congrArg List.length split
    simp only [List.length_append, String.length_toList] at whole
    omega
  case written => exact points.written
  case here =>
    intro _
    rw [split, place, List.drop_left]
    exact List.prefix_append _ _
  case atEnd => exact fun atEnd => absurd atEnd cause

/-- The end of the query is reached behind a written token: in front of it stands neither nothing
nor a conjunction that nobody wrote. -/
theorem pinpoints_of_unexpectedEnd {front back : List Lexeme} {finish : Lexeme}
    (read : lexemes query = .ok (front ++ finish :: back)) (last : finish.token = .finish)
    (some : front ≠ []) :
    Pinpoints ⟨.unexpectedEnd, front.foldl (fun _ lexeme => lexeme.text) "", finish.position⟩
      query := by
  have tiles := tiles_of_lexemes read
  obtain ⟨rfl, place⟩ := tiles.of_finish last
  rw [Nat.zero_add, String.length_toList] at place
  obtain ⟨front, previous, rfl⟩ := front.eq_nil_or_concat.resolve_left some
  rw [List.concat_append] at tiles read
  have inside : previous.token ≠ .finish := by
    intro early
    cases (tiles.of_finish early).1
  have written : previous.text ≠ "" := by
    -- A conjunction that nobody wrote has a term behind it.
    intro unwritten
    obtain ⟨next, rest, same, starts, -⟩ := tiles.exists_next rfl inside unwritten
    cases same
    rw [last] at starts
    cases starts
  have shown : (front.concat previous).foldl (fun _ lexeme => lexeme.text) "" = previous.text := by
    simp
  rw [shown]
  constructor
  case inside => exact Nat.le_of_eq place
  case written => exact written
  case here => exact fun cause => absurd rfl cause
  case atEnd =>
    intro _
    obtain ⟨before, blanks, split, start, blank⟩ := tiles.exists_blanks written last
    rw [Nat.zero_add] at start
    exact ⟨place, front, previous, finish, read, last, rfl, before, blanks, split, start, blank⟩

theorem pinpoints_of_rejects {front back : List Lexeme} {current : Lexeme} {progress : Progress}
    (read : lexemes query = .ok (front ++ current :: back))
    (goes : Progress.begin.through? front = some progress)
    (begun : current.token = .finish → front ≠ [])
    (rejects : progress.Rejects (front.foldl (fun _ lexeme => lexeme.text) "") current error) :
    error.Pinpoints query := by
  have tiles := tiles_of_lexemes read
  have member : current ∈ front ++ current :: back := by simp
  have written := tiles.written_of_rejects goes rejects
  cases rejects with
  | unexpectedEnd => exact pinpoints_of_unexpectedEnd read rfl (begun rfl)
  | unexpectedClosing | unmatchedParenthesis =>
    obtain rfl := tiles.text_of_parenthesis member rfl
    exact pinpoints_of_pointsInto (tiles.pointsInto member (by simp) _) (by simp [Fault.cause])
  | unexpectedConnective =>
    have shown := written.resolve_right (by simp)
    exact pinpoints_of_pointsInto (tiles.pointsInto member shown _) (by simp [Fault.cause])
  | unclosedParenthesis =>
    rcases Progress.exists_opening_of_through? goes List.mem_cons_self with
      early | ⟨opening, earlier, is, place⟩
    · cases early
    · have among (lexemes : List Lexeme) : opening ∈ front ++ lexemes :=
        List.mem_append_left lexemes earlier
      have parenthesis : opening.token.parenthesis? = some "(" := by
        rw [is]
        rfl
      have shown : opening.text = "(" := tiles.text_of_parenthesis (among _) parenthesis
      have points := tiles.pointsInto (among _) (by simp [shown]) .unclosedParenthesis
      rw [shown, place] at points
      exact pinpoints_of_pointsInto points (by simp [Fault.cause])
  | queryGoesOn starts | groupGoesOn starts =>
    have written := tiles.written_of_startsTerm member starts
    exact pinpoints_of_pointsInto (tiles.pointsInto member written _) (by simp [Fault.cause])

end SyntaxError

/-- Every error of a query points at a piece of the query. -/
theorem pinpoints_of_ofQuery {query : String} {error : SyntaxError}
    (failed : Filter.ofQuery query = .error error) : error.Pinpoints query := by
  rcases Fallible.bind_eq_error_iff.1 failed with scanning | ⟨tokens, read, parsing⟩
  · have unread := Fallible.map_eq_error_iff.1 scanning
    obtain ⟨points, cause⟩ := Cursor.pointsInto_of_lexemes unread
    exact SyntaxError.pinpoints_of_pointsInto points cause
  · obtain ⟨body, same, -⟩ := (tiles_of_lexemes read).exists_body
    have finishes : ∃ finish ∈ tokens, finish.token = .finish := by simp [same]
    obtain ⟨front, current, back, progress, rfl, goes, begun, rejects⟩ :=
      Filter.rejects_of_ofLexemes finishes parsing
    exact SyntaxError.pinpoints_of_rejects read goes begun rejects

theorem pinpoints_of_dangling_connective :
    let error : SyntaxError := ⟨.unexpectedEnd, "OR", 9⟩
    Filter.ofQuery "-\"é\" OR  " = .error error ∧ error.Pinpoints "-\"é\" OR  " := by
  intro error
  have failed : Filter.ofQuery "-\"é\" OR  " = .error error := by cbv
  exact ⟨failed, pinpoints_of_ofQuery failed⟩

end CardSearch.Query
