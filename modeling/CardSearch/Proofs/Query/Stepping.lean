import CardSearch.Proofs.Query.Recognition

/-!
What one token does to the unfinished expressions of a reading: it takes the reading on, ends it
with a filter or is rejected. A reading stops at the first token that does not take it on.
-/

namespace CardSearch.Query

def Phase.isReached : Phase → Bool
  | .operand _ => false
  | .connective _ => true

namespace Progress

inductive Takes : Progress → Lexeme → Progress → Prop where
  | leaf {groups : List Group} {awaiting : Awaiting} {leaf : Leaf} {position : Nat}
      {text : String} :
      Takes ⟨groups, .operand awaiting⟩ ⟨.leaf leaf, position, text⟩
        ⟨groups, .connective (awaiting.supply (.leaf leaf))⟩
  | not {groups : List Group} {awaiting : Awaiting} {position : Nat} {text : String} :
      Takes ⟨groups, .operand awaiting⟩ ⟨.not, position, text⟩
        ⟨groups, .operand awaiting.negated⟩
  | opening {groups : List Group} {awaiting : Awaiting} {position : Nat} {text : String} :
      Takes ⟨groups, .operand awaiting⟩ ⟨.opening, position, text⟩
        ⟨⟨position, awaiting⟩ :: groups, .operand .nothing⟩
  | connective {groups : List Group} {reached : Reached} {connective : Connective}
      {position : Nat} {text : String} :
      Takes ⟨groups, .connective reached⟩ ⟨.connective connective, position, text⟩
        ⟨groups, .operand (reached.extended connective)⟩
  | closing {group : Group} {outer : List Group} {reached : Reached} {position : Nat}
      {text : String} :
      Takes ⟨group :: outer, .connective reached⟩ ⟨.closing, position, text⟩
        ⟨outer, .connective (group.around.supply reached.filter)⟩

/-- The error at a token that cannot stand where it does, behind a token with the text
`previous`. -/
inductive Rejects (previous : String) : Progress → Lexeme → SyntaxError → Prop where
  | unexpectedEnd {groups : List Group} {awaiting : Awaiting} {position : Nat} {text : String} :
      Rejects previous ⟨groups, .operand awaiting⟩ ⟨.finish, position, text⟩
        ⟨.unexpectedEnd, previous, position⟩
  | unexpectedClosing {groups : List Group} {awaiting : Awaiting} {position : Nat}
      {text : String} :
      Rejects previous ⟨groups, .operand awaiting⟩ ⟨.closing, position, text⟩
        ⟨.unexpectedClosing, ")", position⟩
  | unexpectedConnective {groups : List Group} {awaiting : Awaiting} {connective : Connective}
      {position : Nat} {text : String} :
      Rejects previous ⟨groups, .operand awaiting⟩ ⟨.connective connective, position, text⟩
        ⟨.unexpectedConnective connective, text, position⟩
  | unmatchedParenthesis {reached : Reached} {position : Nat} {text : String} :
      Rejects previous ⟨[], .connective reached⟩ ⟨.closing, position, text⟩
        ⟨.unmatchedParenthesis, ")", position⟩
  | unclosedParenthesis {group : Group} {outer : List Group} {reached : Reached}
      {position : Nat} {text : String} :
      Rejects previous ⟨group :: outer, .connective reached⟩ ⟨.finish, position, text⟩
        ⟨.unclosedParenthesis, "(", group.position⟩
  | queryGoesOn {reached : Reached} {token : Token} {position : Nat} {text : String}
      (starts : token.startsTerm) :
      Rejects previous ⟨[], .connective reached⟩ ⟨token, position, text⟩
        ⟨.queryGoesOn, text, position⟩
  | groupGoesOn {group : Group} {outer : List Group} {reached : Reached} {token : Token}
      {position : Nat} {text : String} (starts : token.startsTerm) :
      Rejects previous ⟨group :: outer, .connective reached⟩ ⟨token, position, text⟩
        ⟨.groupGoesOn, text, position⟩

theorem takes_of_after? {progress next : Progress} {lexeme : Lexeme}
    (goes : progress.after? lexeme = some next) : progress.Takes lexeme next := by
  obtain ⟨groups, phase⟩ := progress
  obtain ⟨token, position, text⟩ := lexeme
  cases phase with
  | operand awaiting =>
    cases token with
    | leaf | not | opening =>
      cases goes
      constructor
    | connective | closing | finish => cases goes
  | connective reached =>
    cases token with
    | connective =>
      cases goes
      constructor
    | closing =>
      cases groups with
      | nil => cases goes
      | cons =>
        cases goes
        constructor
    | leaf | not | opening => cases groups <;> cases goes
    | finish => cases goes

theorem rejects_of_stop {progress : Progress} {current : Lexeme} {previous : String}
    {error : SyntaxError} {stays : Token}
    (stop : progress.step current previous = .stop (.error error) stays) :
    Rejects previous progress current error := by
  obtain ⟨groups, phase⟩ := progress
  obtain ⟨token, position, text⟩ := current
  cases phase with
  | operand awaiting =>
    cases token with
    | leaf | not | opening => cases stop
    | connective | closing | finish =>
      cases stop
      constructor
  | connective reached =>
    cases groups with
    | nil =>
      cases token with
      | connective | finish => cases stop
      | closing =>
        cases stop
        constructor
      | leaf | not | opening =>
        cases stop
        exact .queryGoesOn rfl
    | cons =>
      cases token with
      | connective | closing => cases stop
      | finish =>
        cases stop
        constructor
      | leaf | not | opening =>
        cases stop
        exact .groupGoesOn rfl

theorem isReached_of_takes {progress next : Progress} {lexeme : Lexeme}
    (takes : progress.Takes lexeme next) : next.phase.isReached = lexeme.token.endsTerm := by
  cases takes <;> rfl

theorem isReached_of_through? {progress last : Progress} {lexemes : List Lexeme}
    (goes : progress.through? lexemes = some last) :
    last.phase.isReached =
      lexemes.foldl (fun _ lexeme => lexeme.token.endsTerm) progress.phase.isReached := by
  induction lexemes generalizing progress with
  | nil =>
    cases goes
    rfl
  | cons lexeme lexemes ih =>
    rw [through?_cons] at goes
    obtain ⟨next, step, rest⟩ := Option.bind_eq_some_iff.1 goes
    rw [ih rest, isReached_of_takes (takes_of_after? step), List.foldl_cons]

theorem exists_opening_of_through? {progress last : Progress} {lexemes : List Lexeme}
    (goes : progress.through? lexemes = some last) {group : Group} (member : group ∈ last.groups) :
    group ∈ progress.groups ∨
      ∃ lexeme ∈ lexemes, lexeme.token = .opening ∧ lexeme.position = group.position := by
  induction lexemes generalizing progress with
  | nil =>
    cases goes
    exact .inl member
  | cons lexeme lexemes ih =>
    rw [through?_cons] at goes
    obtain ⟨next, step, rest⟩ := Option.bind_eq_some_iff.1 goes
    rcases ih rest with known | ⟨opening, later, is⟩
    · cases takes_of_after? step with
      | leaf | not | connective => exact .inl known
      | closing => exact .inl (List.mem_cons_of_mem _ known)
      | opening =>
        rcases List.mem_cons.1 known with rfl | outer
        · exact .inr ⟨_, List.mem_cons_self, rfl, rfl⟩
        · exact .inl outer
    · exact .inr ⟨opening, List.mem_cons_of_mem _ later, is⟩

theorem exists_stop_of_finish (progress : Progress) {finish : Lexeme}
    (last : finish.token = .finish) (previous : String) :
    ∃ result stays, progress.step finish previous = .stop result stays := by
  obtain ⟨groups, phase⟩ := progress
  obtain ⟨token, position, text⟩ := finish
  obtain rfl : token = .finish := last
  cases phase with
  | operand | connective => exact ⟨_, _, rfl⟩

end Progress

/-- A reading stops at one of its tokens, in front of which all tokens took it on. -/
theorem Reading.run_stops (progress : Progress) {first : Lexeme} {rest : List Lexeme}
    (finishes : ∃ finish ∈ first :: rest, finish.token = .finish) (previous : String) :
    ∃ front current back last stays, first :: rest = front ++ current :: back ∧
      progress.through? front = some last ∧
      last.step current (front.foldl (fun _ lexeme => lexeme.text) previous) =
        .stop (run progress first previous rest).1 stays := by
  induction rest generalizing progress first previous with
  | nil =>
    obtain ⟨finish, member, last⟩ := finishes
    obtain rfl := List.mem_singleton.1 member
    obtain ⟨result, stays, stop⟩ := progress.exists_stop_of_finish last previous
    refine ⟨[], finish, [], progress, stays, rfl, rfl, ?_⟩
    simp [run, stop]
  | cons next rest ih =>
    cases step : progress.step first previous with
    | stop result stays =>
      refine ⟨[], first, next :: rest, progress, stays, rfl, rfl, ?_⟩
      simp [run, step]
    | on behind stays =>
      -- The reading would have stopped at an end of the query, so it is still to come.
      have later : ∃ finish ∈ next :: rest, finish.token = .finish := by
        obtain ⟨finish, member, last⟩ := finishes
        rcases List.mem_cons.1 member with rfl | more
        · obtain ⟨result, _, stop⟩ := progress.exists_stop_of_finish last previous
          rw [stop] at step
          cases step
        · exact ⟨finish, more, last⟩
      obtain ⟨front, current, back, last, stays, split, goes, stop⟩ := ih behind later first.text
      refine ⟨first :: front, current, back, last, stays, by rw [split, List.cons_append], ?_, ?_⟩
      · rw [Progress.through?_cons, Progress.after?_eq progress first previous, step]
        exact goes
      · simpa [run, step] using stop

theorem Filter.rejects_of_ofLexemes {lexemes : List Lexeme} {error : SyntaxError}
    (finishes : ∃ finish ∈ lexemes, finish.token = .finish)
    (failed : ofLexemes lexemes = .error error) :
    ∃ front current back progress, lexemes = front ++ current :: back ∧
      Progress.begin.through? front = some progress ∧
      (current.token = .finish → front ≠ []) ∧
      progress.Rejects (front.foldl (fun _ lexeme => lexeme.text) "") current error := by
  obtain ⟨first, rest, rfl⟩ : ∃ first rest, lexemes = first :: rest := by
    obtain ⟨finish, member, -⟩ := finishes
    exact List.exists_cons_of_ne_nil (List.ne_nil_of_mem member)
  by_cases empty : first.token = .finish
  · simp [ofLexemes, Reading.ofLexemes, Reading.next, empty] at failed
  · have read : ofLexemes (first :: rest) = (Reading.run .begin first "" rest).1 := by
      simp only [ofLexemes, Reading.ofLexemes, Reading.next]
    obtain ⟨front, current, back, progress, stays, split, goes, stop⟩ :=
      Reading.run_stops .begin finishes ""
    rw [← read, failed] at stop
    refine ⟨front, current, back, progress, split, goes, ?_, Progress.rejects_of_stop stop⟩
    rintro last rfl
    obtain ⟨rfl, -⟩ := List.cons.inj split
    exact empty last

end CardSearch.Query
