import CardSearch.Proofs.Query.FaultPlaces
import CardSearch.Proofs.Query.Parentheses

/-!
An error is reported at the first token that cannot be right. The tokens in front of it can be
completed, and with it they cannot. Whether a token fits depends on two things alone: whether an
operand is due, and how many groups are open.
-/

namespace CardSearch.Query

open Parentheses

namespace Progress

def Like (one other : Progress) : Prop :=
  one.phase.isReached = other.phase.isReached ∧ one.groups.length = other.groups.length

namespace Like

variable {one other next last : Progress} {lexeme another : Lexeme}

theorem after? (like : one.Like other) (same : lexeme.token = another.token)
    (goes : one.after? lexeme = some next) :
    ∃ behind, other.after? another = some behind ∧ next.Like behind := by
  obtain ⟨groups, phase⟩ := other
  obtain ⟨token, position, text⟩ := another
  obtain ⟨due, count⟩ := like
  cases takes_of_after? goes with
  | leaf | not =>
    obtain rfl := same
    cases phase with
    | operand => exact ⟨_, rfl, rfl, count⟩
    | connective => cases due
  | opening =>
    obtain rfl := same
    cases phase with
    | operand => exact ⟨_, rfl, rfl, congrArg (· + 1) count⟩
    | connective => cases due
  | connective =>
    obtain rfl := same
    cases phase with
    | operand => cases due
    | connective => exact ⟨_, rfl, rfl, count⟩
  | closing =>
    obtain rfl := same
    cases phase with
    | operand => cases due
    | connective =>
      cases groups with
      | nil => cases count
      | cons group outer => exact ⟨_, rfl, rfl, Nat.succ.inj count⟩

theorem through? {lexemes others : List Lexeme} (like : one.Like other)
    (same : lexemes.map Lexeme.token = others.map Lexeme.token)
    (goes : one.through? lexemes = some last) :
    ∃ behind, other.through? others = some behind ∧ last.Like behind := by
  induction lexemes generalizing one other others with
  | nil =>
    obtain rfl := List.map_eq_nil_iff.1 same.symm
    cases goes
    exact ⟨other, rfl, like⟩
  | cons lexeme lexemes ih =>
    obtain ⟨another, others, rfl, first, rest⟩ := List.map_eq_cons_iff.1 same.symm
    rw [through?_cons] at goes
    obtain ⟨next, step, more⟩ := Option.bind_eq_some_iff.1 goes
    obtain ⟨middle, otherStep, likeNext⟩ := like.after? first.symm step
    rw [through?_cons, otherStep]
    exact ih likeNext rest.symm more

/-- A token that is rejected here is rejected there, whatever stands in front of it. -/
theorem exists_stop {previous : String} {error : SyntaxError} (like : one.Like other)
    (same : lexeme.token = another.token) (rejects : one.Rejects previous lexeme error)
    (before : String) :
    ∃ error stays, other.step another before = .stop (.error error) stays := by
  obtain ⟨groups, phase⟩ := other
  obtain ⟨token, position, text⟩ := another
  obtain ⟨due, count⟩ := like
  cases rejects with
  | unexpectedEnd | unexpectedClosing | unexpectedConnective =>
    obtain rfl := same
    cases phase with
    | operand => exact ⟨_, _, rfl⟩
    | connective => cases due
  | unmatchedParenthesis =>
    obtain rfl := same
    cases phase with
    | operand => cases due
    | connective =>
      obtain rfl := List.length_eq_zero_iff.1 count.symm
      exact ⟨_, _, rfl⟩
  | unclosedParenthesis =>
    obtain rfl := same
    cases phase with
    | operand => cases due
    | connective =>
      cases groups with
      | nil => cases count
      | cons => exact ⟨_, _, rfl⟩
  | @queryGoesOn _ rejected _ _ starts | @groupGoesOn _ _ _ rejected _ _ starts =>
    obtain rfl : token = rejected := same.symm
    cases phase with
    | operand => cases due
    | connective => cases token <;> cases starts <;> cases groups <;> exact ⟨_, _, rfl⟩

end Like

theorem ne_finish_of_through? {progress last : Progress} {lexemes : List Lexeme}
    (goes : progress.through? lexemes = some last) {lexeme : Lexeme} (member : lexeme ∈ lexemes) :
    lexeme.token ≠ .finish := by
  induction lexemes generalizing progress with
  | nil => cases member
  | cons first lexemes ih =>
    rw [through?_cons] at goes
    obtain ⟨next, step, rest⟩ := Option.bind_eq_some_iff.1 goes
    rcases List.mem_cons.1 member with rfl | later
    · cases takes_of_after? step <;> simp
    · exact ih rest later

theorem through?_closings (groups : List Group) (reached : Reached) {closings : List Lexeme}
    (same : closings.map Lexeme.token = List.replicate groups.length .closing) :
    ∃ final, through? ⟨groups, .connective reached⟩ closings = some ⟨[], .connective final⟩ := by
  induction groups generalizing reached closings with
  | nil =>
    obtain rfl := List.map_eq_nil_iff.1 same
    exact ⟨reached, rfl⟩
  | cons group outer ih =>
    obtain ⟨⟨token, position, text⟩, rest, rfl, rfl, more⟩ := List.map_eq_cons_iff.1 same
    rw [through?_cons, after?_closing]
    exact ih _ more

/-- Wherever a reading has got to, a term and some closing parentheses complete it. -/
theorem exists_completion (progress : Progress) :
    ∃ more reached, progress.through? more = some ⟨[], .connective reached⟩ := by
  obtain ⟨groups, phase⟩ := progress
  let closings : List Lexeme := List.replicate groups.length ⟨.closing, 0, ")"⟩
  have closing : closings.map Lexeme.token = List.replicate groups.length .closing := by
    simp [closings]
  cases phase with
  | connective reached =>
    obtain ⟨final, goes⟩ := through?_closings groups reached closing
    exact ⟨closings, final, goes⟩
  | operand awaiting =>
    obtain ⟨final, goes⟩ := through?_closings groups (awaiting.supply (.leaf (.flag 0))) closing
    refine ⟨⟨.leaf (.flag 0), 0, "flag:0"⟩ :: closings, final, ?_⟩
    rw [through?_cons, after?_leaf]
    exact goes

end Progress

theorem Filter.ofLexemes_of_through? {lexemes : List Lexeme} {finish : Lexeme} {reached : Reached}
    (goes : Progress.begin.through? lexemes = some ⟨[], .connective reached⟩)
    (last : finish.token = .finish) : ofLexemes (lexemes ++ [finish]) = .ok reached.filter := by
  have derived := (Progress.through?_begin_iff lexemes reached.filter).1 ⟨reached, goes, rfl⟩
  have inside : ∀ lexeme ∈ lexemes, lexeme.token ≠ .finish :=
    fun _ member => Progress.ne_finish_of_through? goes member
  exact (ofLexemes_append_finish last inside _).2 (.inr derived)

theorem Reading.run_error {progress last : Progress} {front back rest : List Lexeme}
    {current first : Lexeme} (goes : progress.through? front = some last)
    (stops : ∀ previous, ∃ error stays, last.step current previous = .stop (.error error) stays)
    (whole : front ++ current :: back = first :: rest) (previous : String) :
    ∃ error, (run progress first previous rest).1 = .error error := by
  induction front generalizing progress first rest previous with
  | nil =>
    obtain ⟨rfl, rfl⟩ := List.cons.inj whole
    cases goes
    obtain ⟨error, stays, stop⟩ := stops previous
    exact ⟨error, by cases back <;> simp [run, stop]⟩
  | cons lexeme front ih =>
    rw [List.cons_append] at whole
    obtain ⟨rfl, rfl⟩ := List.cons.inj whole
    rw [Progress.through?_cons, Progress.after?_eq progress lexeme previous] at goes
    obtain ⟨next, rest, more⟩ : ∃ next rest, front ++ current :: back = next :: rest :=
      List.exists_cons_of_ne_nil (by simp)
    rw [more, run]
    cases step : progress.step lexeme previous with
    | stop => simp [step] at goes
    | on behind stays =>
      rw [step] at goes
      exact ih goes more lexeme.text

theorem Filter.ofLexemes_ne_ok {front stream : List Lexeme} {current : Lexeme}
    {progress : Progress} {previous : String} {error : SyntaxError}
    (goes : Progress.begin.through? front = some progress)
    (begun : current.token = .finish → front ≠ [])
    (rejects : progress.Rejects previous current error)
    (begins : (front ++ [current]).map Lexeme.token <+: stream.map Lexeme.token)
    (filter : Filter) : ofLexemes stream ≠ .ok filter := by
  obtain ⟨tokens, same⟩ := begins
  rw [List.map_append, List.append_assoc, eq_comm] at same
  obtain ⟨others, rest, rfl, alike, after⟩ := List.map_eq_append_iff.1 same
  obtain ⟨another, rest, rfl, token, -⟩ := List.map_eq_cons_iff.1 after
  obtain ⟨behind, otherGoes, like⟩ := Progress.Like.through? ⟨rfl, rfl⟩ alike.symm goes
  obtain ⟨first, more, whole⟩ : ∃ first more, others ++ another :: rest = first :: more :=
    List.exists_cons_of_ne_nil (by simp)
  -- A stream that begins with the end of the query would mean every card.
  have started : first.token ≠ .finish := by
    cases others with
    | nil =>
      obtain rfl := List.map_eq_nil_iff.1 alike.symm
      obtain ⟨rfl, -⟩ := List.cons.inj whole
      intro last
      exact begun (token.symm.trans last) rfl
    | cons lexeme others =>
      obtain ⟨rfl, -⟩ := List.cons.inj whole
      exact Progress.ne_finish_of_through? otherGoes List.mem_cons_self
  obtain ⟨wrong, failed⟩ :=
    Reading.run_error otherGoes (like.exists_stop token.symm rejects) whole ""
  have read : ofLexemes (first :: more) = (Reading.run .begin first "" more).1 := by
    simp only [ofLexemes, Reading.ofLexemes, Reading.next]
  rw [whole, read, failed]
  simp

/-- A token that can be seen at a place: a written one, or the end of the query. -/
def Lexeme.StandsAt (lexeme : Lexeme) (position : Nat) : Prop :=
  lexeme.position = position ∧ (lexeme.text ≠ "" ∨ lexeme.token = .finish)

namespace Tiles

variable {ended : Bool} {position place : Nat} {text : List Char}
  {front back others rest lexemes : List Lexeme} {lexeme other : Lexeme}

theorem position_lt (tiles : Tiles ended position text (front ++ lexeme :: back))
    (stands : lexeme.StandsAt place) (later : other ∈ back) : place < other.position := by
  obtain ⟨rfl, written⟩ := stands
  obtain ⟨followed, before, after, -, rfl, here⟩ := tiles.exists_suffix
  cases here with
  | finish => cases later
  | @token _ _ blanks source _ _ _ blank spelled more =>
    have behind := more.position_le later
    have some := List.length_pos_iff.2 spelled.source_ne_nil
    simp only [List.length_append] at behind ⊢
    omega
  | conjunction => simp [Lexeme.conjunctionBefore] at written

theorem eq_of_standsAt (tiles : Tiles ended position text lexemes)
    (one : lexemes = front ++ lexeme :: back) (two : lexemes = others ++ other :: rest)
    (here : lexeme.StandsAt place) (there : other.StandsAt place) :
    others = front ∧ other = lexeme := by
  have split := one.symm.trans two
  rcases List.append_eq_append_iff.1 split with ⟨between, rfl, behind⟩ | ⟨between, rfl, behind⟩
  · cases between with
    | nil =>
      obtain ⟨rfl, -⟩ := List.cons.inj behind
      exact ⟨List.append_nil _, rfl⟩
    | cons first between =>
      obtain ⟨rfl, rfl⟩ := List.cons.inj behind
      rw [one] at tiles
      have behind : other ∈ between ++ other :: rest := by simp
      exact absurd there.1.symm (Nat.ne_of_lt (tiles.position_lt here behind))
  · cases between with
    | nil =>
      obtain ⟨rfl, -⟩ := List.cons.inj behind
      exact ⟨(List.append_nil _).symm, rfl⟩
    | cons first between =>
      obtain ⟨rfl, rfl⟩ := List.cons.inj behind
      rw [two] at tiles
      have behind : lexeme ∈ between ++ lexeme :: back := by simp
      exact absurd here.1.symm (Nat.ne_of_lt (tiles.position_lt there behind))

end Tiles

def Completable (lexemes : List Lexeme) : Prop :=
  ∃ more finish filter, (∀ lexeme ∈ more, lexeme.token ≠ .finish) ∧ finish.token = .finish ∧
    Filter.ofLexemes (lexemes ++ (more ++ [finish])) = .ok filter

theorem completable_of_through? {lexemes : List Lexeme} {progress : Progress}
    (goes : Progress.begin.through? lexemes = some progress) : Completable lexemes := by
  obtain ⟨more, reached, completes⟩ := progress.exists_completion
  have whole : Progress.begin.through? (lexemes ++ more) = some ⟨[], .connective reached⟩ := by
    rw [Progress.through?_append, goes]
    exact completes
  refine ⟨more, ⟨.finish, 0, ""⟩, reached.filter, ?_, rfl, ?_⟩
  · exact fun _ member => Progress.ne_finish_of_through? completes member
  · rw [← List.append_assoc]
    exact Filter.ofLexemes_of_through? whole rfl

/-- An error at the first token that cannot be right. Only the end of a query in an open group shows
the parenthesis instead. -/
structure SyntaxError.IsEarliest (error : SyntaxError) (tokens : List Lexeme) : Prop where
  /-- The tokens in front of the one at fault can be completed, and with it they cannot. -/
  first : error.fault ≠ .unclosedParenthesis →
    ∃ front current back, tokens = front ++ current :: back ∧ current.StandsAt error.position ∧
      (∀ others other rest, tokens = others ++ other :: rest → other.StandsAt error.position →
        others = front ∧ other = current) ∧
      Completable front ∧
      ∀ stream : List Lexeme,
        (front ++ [current]).map Lexeme.token <+: stream.map Lexeme.token →
        ∀ filter, Filter.ofLexemes stream ≠ .ok filter
  /-- Closing parentheses alone are missing, and the last open parenthesis is at fault. -/
  unclosed : error.fault = .unclosedParenthesis →
    ∃ body finish, tokens = body ++ [finish] ∧ finish.token = .finish ∧
      (∃ count, 0 < count ∧ ∀ closings : List Lexeme,
        closings.map Lexeme.token = List.replicate count .closing →
        ∃ filter, Filter.ofLexemes (body ++ (closings ++ [finish])) = .ok filter) ∧
      ∃ before opening behind, body = before ++ opening :: behind ∧ opening.token = .opening ∧
        opening.position = error.position ∧ ¬IsClosed (behind.map Lexeme.token) ∧
        ∀ between later rest, behind = between ++ later :: rest → later.token = .opening →
          IsClosed (rest.map Lexeme.token)

theorem Progress.Rejects.position_eq {progress : Progress} {previous : String} {current : Lexeme}
    {error : SyntaxError} (rejects : progress.Rejects previous current error)
    (other : error.fault ≠ .unclosedParenthesis) : current.position = error.position := by
  cases rejects with
  | unclosedParenthesis => exact absurd rfl other
  | _ => rfl

/-- The first error of the tokens of a query is reported at the first of them that cannot be
right. -/
theorem isEarliest_of_ofLexemes {query : String} {tokens : List Lexeme} {error : SyntaxError}
    (read : lexemes query = .ok tokens) (failed : Filter.ofLexemes tokens = .error error) :
    error.IsEarliest tokens := by
  have tiles := tiles_of_lexemes read
  obtain ⟨all, same, -⟩ := tiles.exists_body
  have finishes : ∃ finish ∈ tokens, finish.token = .finish := by simp [same]
  obtain ⟨front, current, back, progress, rfl, goes, begun, rejects⟩ :=
    Filter.rejects_of_ofLexemes finishes failed
  constructor
  case first =>
    intro other
    have stands : current.StandsAt error.position :=
      ⟨rejects.position_eq other, tiles.written_of_rejects goes rejects⟩
    refine ⟨front, current, back, rfl, stands, ?_, completable_of_through? goes, ?_⟩
    · exact fun others other rest two there => tiles.eq_of_standsAt rfl two stands there
    · exact fun stream begins => Filter.ofLexemes_ne_ok goes begun rejects begins
  case unclosed =>
    intro parenthesis
    cases rejects with
    | @unclosedParenthesis group outer reached =>
      obtain ⟨rfl, -⟩ := tiles.of_finish rfl
      have opens : Opens (group :: outer) front := Opens.of_through? goes
      refine ⟨front, _, rfl, rfl, ⟨(group :: outer).length, by simp, ?_⟩, opens.exists_last⟩
      intro closings same
      obtain ⟨final, closes⟩ := Progress.through?_closings (group :: outer) reached same
      have whole : Progress.begin.through? (front ++ closings) = some ⟨[], .connective final⟩ := by
        rw [Progress.through?_append, goes]
        exact closes
      rw [← List.append_assoc]
      exact ⟨_, Filter.ofLexemes_of_through? whole rfl⟩
    | _ => cases parenthesis

theorem isEarliest_of_closing_and_open_group :
    let dangling : List Lexeme := [⟨.opening, 0, "("⟩, ⟨.leaf (.text "a" none), 1, "a"⟩,
      ⟨.connective .or, 3, "OR"⟩, ⟨.closing, 5, ")"⟩, ⟨.connective .and, 7, ""⟩,
      ⟨.leaf (.text "b" none), 7, "b"⟩, ⟨.finish, 8, ""⟩]
    let nested : List Lexeme := [⟨.opening, 0, "("⟩, ⟨.opening, 1, "("⟩,
      ⟨.leaf (.text "a" none), 2, "a"⟩, ⟨.closing, 3, ")"⟩, ⟨.connective .and, 5, ""⟩,
      ⟨.opening, 5, "("⟩, ⟨.leaf (.text "b" none), 6, "b"⟩, ⟨.finish, 7, ""⟩]
    (lexemes "(a OR) b" = .ok dangling ∧
      Filter.ofLexemes dangling = .error ⟨.unexpectedClosing, ")", 5⟩ ∧
      SyntaxError.IsEarliest ⟨.unexpectedClosing, ")", 5⟩ dangling) ∧
    lexemes "((a) (b" = .ok nested ∧
      Filter.ofLexemes nested = .error ⟨.unclosedParenthesis, "(", 5⟩ ∧
      SyntaxError.IsEarliest ⟨.unclosedParenthesis, "(", 5⟩ nested := by
  intro dangling nested
  have first : lexemes "(a OR) b" = .ok dangling := by cbv
  have second : lexemes "((a) (b" = .ok nested := by cbv
  exact ⟨⟨first, rfl, isEarliest_of_ofLexemes first rfl⟩,
    second, rfl, isEarliest_of_ofLexemes second rfl⟩

end CardSearch.Query
