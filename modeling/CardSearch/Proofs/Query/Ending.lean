import CardSearch.Proofs.Query.Recognition

/-!
Token lists without a token for the end of the query. The reading then ends on the last token, which
it replaces only where an operand was due. A closing parenthesis at the end stays in place and is
met a second time, so such a list is refused although its group is closed.
-/

namespace CardSearch.Query

namespace Reading

/-- The last token ends the query if the expressions behind it may, unless it is a closing
parenthesis. -/
theorem run_last (progress : Progress) {last : Lexeme} (inside : last.token ≠ .finish)
    (previous : String) (filter : Filter) :
    (run progress last previous []).1 = .ok filter ↔
      (∃ reached, progress.after? last = some ⟨[], .connective reached⟩ ∧
        reached.filter = filter) ∧ last.token ≠ .closing := by
  obtain ⟨groups, phase⟩ := progress
  obtain ⟨token, position, text⟩ := last
  cases phase with
  | operand awaiting =>
    cases token with
    | leaf leaf =>
      cases groups <;> simp [run, Progress.step, Progress.stepOperand, Progress.settle,
        Progress.conclude]
    | not | opening | closing | connective =>
      simp [run, Progress.after?, Progress.step, Progress.stepOperand, Progress.settle]
    | finish => exact absurd rfl inside
  | connective reached =>
    -- Here the token stays the current one and is met again where the list ends.
    cases token with
    | connective connective =>
      simp [run, Progress.step, Progress.stepConnective, Progress.settle]
    | closing =>
      cases groups <;> simp [run, Progress.step, Progress.stepConnective, Progress.settle]
    | leaf | not | opening =>
      cases groups <;> simp [run, Progress.after?, Progress.step, Progress.stepConnective]
    | finish => exact absurd rfl inside

/-- A closing parenthesis at the end is met again behind its own group. -/
theorem run_last_closing {progress next : Progress} {last : Lexeme}
    (closing : last.token = .closing) (goes : progress.after? last = some next)
    (previous : String) :
    (run progress last previous []).1 =
      .error ⟨.unmatchedParenthesis, ")", last.position⟩ := by
  obtain ⟨groups, phase⟩ := progress
  obtain ⟨token, position, text⟩ := last
  obtain rfl : token = .closing := closing
  cases phase with
  | operand => cases goes
  | connective reached =>
    cases groups with
    | nil => cases goes
    | cons group outer => rfl

end Reading

namespace Filter

variable {front : List Lexeme} {ending finish : Lexeme}
  (inside : ∀ lexeme ∈ front ++ [ending], lexeme.token ≠ .finish)

include inside

theorem ofLexemes_concat :
    (∃ behind before, Progress.begin.through? front = some behind ∧
      ofLexemes (front ++ [ending]) = (Reading.run behind ending before []).1) ∨
    (Progress.begin.through? front = none ∧
      ∀ filter, ofLexemes (front ++ [ending]) ≠ .ok filter) := by
  obtain ⟨first, rest, whole⟩ : ∃ first rest, front ++ [ending] = first :: rest :=
    List.exists_cons_of_ne_nil (by simp)
  have here : first.token ≠ .finish := inside first (by simp [whole])
  have before : ∀ lexeme ∈ front, lexeme.token ≠ .finish :=
    fun lexeme within => inside lexeme (by simp [within])
  have read : ofLexemes (front ++ [ending]) = (Reading.run .begin first "" rest).1 := by
    rw [whole, ofLexemes_cons here]
  rcases Reading.run_concat .begin before whole "" with ⟨behind, previous, goes, same⟩ | failed
  · exact .inl ⟨behind, previous, goes, read.trans (congrArg Prod.fst same)⟩
  · exact .inr (by simpa only [read] using failed)

theorem ofLexemes_concat_finish (last : finish.token = .finish) (filter : Filter) :
    ofLexemes (front ++ [ending] ++ [finish]) = .ok filter ↔
      ∃ reached, (Progress.begin.through? front).bind (·.after? ending) =
        some ⟨[], .connective reached⟩ ∧ reached.filter = filter := by
  have accepts := ofLexemes_append_finish last inside filter
  rw [← Progress.through?_begin_iff] at accepts
  simpa using accepts

end Filter

/-- Without the end of the query a token list has the meaning that it has with it, if it does not
end in a closing parenthesis. If it does, the parenthesis is reported as one without a group. -/
theorem Filter.ofLexemes_unfinished_iff {lexemes : List Lexeme} {finish : Lexeme}
    (last : finish.token = .finish) (inside : ∀ lexeme ∈ lexemes, lexeme.token ≠ .finish) :
    (∀ filter, ofLexemes lexemes = .ok filter ↔
      ofLexemes (lexemes ++ [finish]) = .ok filter ∧
        ∀ lexeme ∈ lexemes.getLast?, lexeme.token ≠ .closing) ∧
    (∀ filter, ∀ lexeme ∈ lexemes.getLast?, lexeme.token = .closing →
      ofLexemes (lexemes ++ [finish]) = .ok filter →
        ofLexemes lexemes = .error ⟨.unmatchedParenthesis, ")", lexeme.position⟩) := by
  rcases List.eq_nil_or_concat lexemes with rfl | ⟨front, ending, whole⟩
  · simp [ofLexemes, Reading.ofLexemes, Reading.next, last]
  obtain rfl : lexemes = front ++ [ending] := whole.trans List.concat_eq_append
  have here : ending.token ≠ .finish := inside ending (by simp)
  simp only [ofLexemes_concat_finish inside last, List.getLast?_concat, Option.mem_some_iff,
    forall_eq']
  rcases ofLexemes_concat inside with ⟨behind, before, goes, read⟩ | ⟨stops, failed⟩
  · simp only [goes, read, Option.bind_some]
    refine ⟨Reading.run_last behind here before, ?_⟩
    rintro filter closing ⟨reached, closed, rfl⟩
    exact Reading.run_last_closing closing closed before
  · simp [stops, failed]

theorem Filter.ofLexemes_unfinished_and_group :
    let lexemes : List Lexeme := [⟨.not, 0, "-"⟩, ⟨.leaf (.tag "x"), 1, "tag:x"⟩,
      ⟨.connective .and, 6, ""⟩, ⟨.opening, 7, "("⟩, ⟨.leaf (.flag 2), 8, "flag:2"⟩,
      ⟨.closing, 14, ")"⟩]
    let finish : Lexeme := ⟨.finish, 15, ""⟩
    finish.token = .finish ∧ (∀ lexeme ∈ lexemes, lexeme.token ≠ .finish) ∧
      ofLexemes (lexemes ++ [finish]) = .ok (.and (.not (.leaf (.tag "x"))) (.leaf (.flag 2))) ∧
      ofLexemes lexemes = .error ⟨.unmatchedParenthesis, ")", 14⟩ := by
  intro lexemes finish
  have inside : ∀ lexeme ∈ lexemes, lexeme.token ≠ .finish := by decide
  have whole : ofLexemes (lexemes ++ [finish]) =
      .ok (.and (.not (.leaf (.tag "x"))) (.leaf (.flag 2))) := rfl
  exact ⟨rfl, inside, whole,
    (ofLexemes_unfinished_iff rfl inside).2 _ ⟨.closing, 14, ")"⟩ rfl rfl whole⟩

theorem Filter.finish_behind_group_matters :
    ¬∀ (lexemes : List Lexeme) (finish : Lexeme), finish.token = .finish →
      (∀ lexeme ∈ lexemes, lexeme.token ≠ .finish) → ∀ filter,
        ofLexemes lexemes = .ok filter ↔ ofLexemes (lexemes ++ [finish]) = .ok filter := by
  intro optional
  have same := optional
    [⟨.opening, 0, "("⟩, ⟨.leaf (.text "a" none), 1, "a"⟩, ⟨.closing, 2, ")"⟩] ⟨.finish, 3, ""⟩
    rfl (by decide) (.leaf (.text "a" none))
  have refused := same.2 rfl
  cases refused

end CardSearch.Query
