import CardSearch.Proofs.Query.Juxtaposition

/-!
Queries in parentheses. Whatever a query says, it makes one operand between parentheses: such
operands are joined and negated as a whole, and inside of them nothing is read differently.
-/

namespace CardSearch.Query

open Grammar

theorem Token.joinTerms_group (tokens : List Token) :
    joinTerms (.opening :: (tokens ++ [.closing])) =
      .opening :: (joinTerms tokens ++ [.closing]) := by
  have nothing : seam tokens [.closing] = [] := by simp [seam, startsTerm]
  rw [joinTerms_cons rfl, joinTerms_append, nothing]
  rfl

theorem gives_dash {text : List Char} {tokens : List Token} (touches : Cursor.touches text)
    (gives : Gives text tokens) : Gives ('-' :: text) (.not :: tokens) := by
  intro cursor after split apart
  have negates : Cursor.touches (text ++ after) := by
    cases text with
    | nil => cases touches
    | cons character text => exact touches
  obtain ⟨behind, rfl, read⟩ := gives (cursor.past ['-'] (text ++ after)) after rfl apart
  refine ⟨⟨.not, cursor.position, "-"⟩ :: behind, rfl, ?_⟩
  rw [Cursor.lexemes_of_spelled (.dash negates) split, read, Cursor.past_past,
    List.singleton_append]
  cases (cursor.past ('-' :: text) after).lexemes <;> rfl

/-- A text that is read as one operand, wherever it stands apart from what follows. -/
def IsOperand (text : List Char) (filter : Filter) : Prop :=
  ∃ tokens, Gives text tokens ∧ .finish ∉ tokens ∧
    Derives .operand (Token.joinTerms tokens) filter

theorem isOperand_parenthesized {query : String} {filter : Filter}
    (read : Filter.ofQuery query = .ok filter) (some : filter ≠ .all) :
    IsOperand (parenthesized query.toList) filter := by
  obtain ⟨tokens, gives, inside, derived⟩ := exists_gives_of_ofQuery read some
  refine ⟨_, gives_parenthesized gives, by simp [inside], ?_⟩
  rw [Token.joinTerms_group]
  exact .group derived

namespace IsOperand

variable {text front last : List Char} {filter first second : Filter}

theorem ofQuery {query : String} (operand : IsOperand query.toList filter) :
    Filter.ofQuery query = .ok filter := by
  obtain ⟨tokens, gives, inside, derived⟩ := operand
  exact (ofQuery_of_gives gives inside filter).2 (.inr (.conjunction (.operand derived)))

theorem dash (operand : IsOperand text filter) (touches : Cursor.touches text) :
    IsOperand ('-' :: text) (.not filter) := by
  obtain ⟨tokens, gives, inside, derived⟩ := operand
  refine ⟨_, gives_dash touches gives, by simp [inside], ?_⟩
  rw [Token.joinTerms_cons rfl]
  exact .not derived

theorem keyword (operand : IsOperand text filter) :
    IsOperand ("NOT".toList ++ ' ' :: text) (.not filter) := by
  obtain ⟨tokens, gives, inside, derived⟩ := operand
  have not : Gives "NOT".toList [.not] := gives_keyword (by decide) (by decide) rfl
  refine ⟨_, gives_spaced not gives, by simp [inside], ?_⟩
  rw [List.singleton_append, Token.joinTerms_cons rfl]
  exact .not derived

theorem and {query : String} (one : IsOperand front first) (other : IsOperand last second)
    (written : query.toList = front ++ ' ' :: last) :
    Filter.ofQuery query = .ok (.and first second) := by
  obtain ⟨before, givesOne, insideOne, derivedOne⟩ := one
  obtain ⟨behind, givesOther, insideOther, derivedOther⟩ := other
  have ends := endsTerm_of_derives derivedOne
  have starts := startsTerm_of_derives derivedOther
  rw [Token.getLast?_joinTerms] at ends
  rw [Token.head?_joinTerms] at starts
  have given := gives_spaced givesOne givesOther
  rw [← written] at given
  apply (ofQuery_of_gives given (by simp [insideOne, insideOther]) _).2
  rw [(Token.joinTerms_conjunction ends starts).1]
  exact .inr (.conjunction (.and (.operand derivedOne) derivedOther))

theorem or {query : String} (one : IsOperand front first) (other : IsOperand last second)
    (written : query.toList = front ++ ' ' :: ("OR".toList ++ ' ' :: last)) :
    Filter.ofQuery query = .ok (.or first second) := by
  obtain ⟨before, givesOne, insideOne, derivedOne⟩ := one
  obtain ⟨behind, givesOther, insideOther, derivedOther⟩ := other
  have keyword : Gives "OR".toList [.connective .or] :=
    gives_keyword (by decide) (by decide) rfl
  have given := gives_spaced givesOne (gives_spaced keyword givesOther)
  rw [← written] at given
  apply (ofQuery_of_gives given (by simp [insideOne, insideOther]) _).2
  rw [List.singleton_append, Token.joinTerms_connective]
  exact .inr (.or (.conjunction (.operand derivedOne)) (.operand derivedOther))

end IsOperand

theorem toList_parenthesized (query : String) :
    ("( " ++ query ++ " )").toList = parenthesized query.toList := by
  simp [parenthesized]

/-- Queries are composed by putting them in parentheses, whatever is in them. -/
theorem ofQuery_grouped {one other : String} {first second : Filter}
    (readOne : Filter.ofQuery one = .ok first) (readOther : Filter.ofQuery other = .ok second)
    (someFirst : first ≠ .all) (someSecond : second ≠ .all) :
    Filter.ofQuery ("( " ++ one ++ " )") = .ok first ∧
      Filter.ofQuery ("( " ++ one ++ " ) ( " ++ other ++ " )") = .ok (.and first second) ∧
      Filter.ofQuery ("( " ++ one ++ " ) OR ( " ++ other ++ " )") = .ok (.or first second) ∧
      Filter.ofQuery ("-( " ++ one ++ " )") = .ok (.not first) ∧
      Filter.ofQuery ("NOT ( " ++ one ++ " )") = .ok (.not first) := by
  have front := isOperand_parenthesized readOne someFirst
  have last := isOperand_parenthesized readOther someSecond
  refine ⟨?_, front.and last ?_, front.or last ?_, ?_, ?_⟩
  · apply IsOperand.ofQuery
    rw [toList_parenthesized]
    exact front
  · simp [parenthesized]
  · simp [parenthesized]
  · have negated := front.dash rfl
    apply IsOperand.ofQuery
    simpa [parenthesized] using negated
  · have negated := front.keyword
    apply IsOperand.ofQuery
    simpa [parenthesized] using negated

theorem ofQuery_grouped_dash_and_phrase :
    Filter.ofQuery "a OR -" = .ok (.or (.leaf (.text "a" none)) (.leaf (.text "-" none))) ∧
      Filter.ofQuery "-\"b (\"" = .ok (.not (.leaf (.phrase "b ("))) ∧
      Filter.ofQuery ("( " ++ "a OR -" ++ " ) ( " ++ "-\"b (\"" ++ " )") =
        .ok (.and (.or (.leaf (.text "a" none)) (.leaf (.text "-" none)))
          (.not (.leaf (.phrase "b (")))) := by
  have one : Filter.ofQuery "a OR -" =
      .ok (.or (.leaf (.text "a" none)) (.leaf (.text "-" none))) := by cbv
  have other : Filter.ofQuery "-\"b (\"" = .ok (.not (.leaf (.phrase "b ("))) := by cbv
  exact ⟨one, other, (ofQuery_grouped one other (by simp) (by simp)).2.1⟩

end CardSearch.Query
