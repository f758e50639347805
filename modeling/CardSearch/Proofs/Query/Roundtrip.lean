import CardSearch.Proofs.Number.ExactLiteral
import CardSearch.Proofs.Query.Giving
import CardSearch.Proofs.Query.Plain

/-!
A filter that is written as a query is read back. What is written for its parts is read part by
part, whatever follows apart from them; no terms stand next to each other, so no conjunction is
added; and the grammar derives the filter from the tokens.
-/

namespace CardSearch.Query

open Grammar

theorem unjoined_of_derives {level : Level} {tokens : List Token} {filter : Filter}
    (derived : Derives level tokens filter) : Unjoined tokens := by
  induction derived with
  | leaf => exact .singleton _
  | group _ ih => exact .cons rfl (ih.append (.singleton _) rfl)
  | not _ ih => exact .cons rfl ih
  | operand _ ih | conjunction _ ih => exact ih
  | and _ _ first second | or _ _ first second => exact first.append (.cons rfl second) rfl

theorem not_finish_of_derives {level : Level} {tokens : List Token} {filter : Filter}
    (derived : Derives level tokens filter) : .finish ∉ tokens := by
  induction derived with
  | leaf => simp
  | group _ ih | not _ ih => simpa using ih
  | operand _ ih | conjunction _ ih => exact ih
  | and _ _ first second | or _ _ first second => simp [first, second]

theorem gives_joined (connective : Connective) {front last : List Char} {first second : List Token}
    (one : Gives front first) (other : Gives last second) :
    Gives (joined connective front last) (.opening :: (first ++ [.closing]) ++
      .connective connective :: .opening :: (second ++ [.closing])) := by
  have keyword : Gives connective.keyword.toList [.connective connective] := by
    cases connective with
    | and => exact gives_keyword (by decide) (by decide) rfl
    | or => exact gives_keyword (by decide) (by decide) rfl
  exact gives_spaced (gives_parenthesized one) (gives_spaced keyword (gives_parenthesized other))

theorem exists_tokens_of_written {filter : Filter} {text : List Char}
    (expressible : filter.Expressible) (written : filter.Written text) :
    ∃ tokens, Derives .disjunction tokens filter ∧ Gives text tokens := by
  induction written with
  | leaf written =>
    refine ⟨_, .conjunction (.operand (.leaf _)), gives_token fun after apart => ?_⟩
    exact Leaf.spelled_of_written expressible written apart
  | and _ _ left right =>
    obtain ⟨front, first, one⟩ := left expressible.1
    obtain ⟨last, second, other⟩ := right expressible.2
    have derived := Derives.and (.operand (.group first)) (.group second)
    exact ⟨_, .conjunction derived, gives_joined .and one other⟩
  | or _ _ left right =>
    obtain ⟨front, first, one⟩ := left expressible.1
    obtain ⟨last, second, other⟩ := right expressible.2
    have derived := Derives.or (.conjunction (.operand (.group first))) (.operand (.group second))
    exact ⟨_, derived, gives_joined .or one other⟩
  | not _ ih =>
    obtain ⟨tokens, derived, gives⟩ := ih expressible
    have keyword : Gives "NOT".toList [.not] := gives_keyword (by decide) (by decide) rfl
    exact ⟨_, .conjunction (.operand (.not (.group derived))),
      gives_spaced keyword (gives_parenthesized gives)⟩

theorem ofQuery_of_written {filter : Filter} {query : String} (expressible : filter.Expressible)
    (written : filter.Written query.toList) : Filter.ofQuery query = .ok filter := by
  obtain ⟨tokens, derived, gives⟩ := exists_tokens_of_written expressible written
  have same := Token.joinTerms_of_unjoined (unjoined_of_derives derived)
  apply (ofQuery_of_gives gives (not_finish_of_derives derived) filter).2
  exact .inr (same.symm ▸ derived)

theorem Leaf.exists_written {leaf : Leaf} (expressible : leaf.Expressible) :
    ∃ text, leaf.Written text := by
  cases leaf with
  | text value field => cases field <;> exact ⟨_, by constructor⟩
  | regex pattern field => cases field <;> exact ⟨_, by constructor⟩
  | property property comparison value =>
    obtain ⟨literal, reads⟩ := Number.exists_literal expressible
    exact ⟨_, .property property comparison reads⟩
  | phrase | tag | deck | state | flag | date | wholeWord | accentless => exact ⟨_, by constructor⟩

theorem Filter.exists_written {filter : Filter} (expressible : filter.Expressible) :
    ∃ text, filter.Written text := by
  induction filter with
  | all => cases expressible
  | leaf single =>
    obtain ⟨text, written⟩ := single.exists_written expressible
    exact ⟨text, .leaf written⟩
  | and left right first second =>
    obtain ⟨front, one⟩ := first expressible.1
    obtain ⟨last, other⟩ := second expressible.2
    exact ⟨_, .and one other⟩
  | or left right first second =>
    obtain ⟨front, one⟩ := first expressible.1
    obtain ⟨last, other⟩ := second expressible.2
    exact ⟨_, .or one other⟩
  | not operand ih =>
    obtain ⟨text, written⟩ := ih expressible
    exact ⟨_, .not written⟩

/-- Every filter that can be expressed is written by some query and read back from all of them. The
texts that are written without quotes are all that can be. -/
theorem roundtrip_of_expressible {filter : Filter} (expressible : filter.Expressible) :
    (∃ query : String, filter.Written query.toList) ∧
      (∀ query : String, filter.Written query.toList → Filter.ofQuery query = .ok filter) ∧
      ∀ value : String, IsPlain value.toList ↔
        Filter.ofQuery value = .ok (.leaf (.text value none)) := by
  refine ⟨?_, fun query written => ofQuery_of_written expressible written, fun value => ?_⟩
  · obtain ⟨text, written⟩ := filter.exists_written expressible
    exact ⟨String.ofList text, by rwa [String.toList_ofList]⟩
  · constructor
    · intro plain
      have written := Filter.Written.leaf (.text value)
      exact ofQuery_of_written plain written
    · exact isPlain_of_ofQuery

theorem roundtrip_field_number_dash :
    let field : Filter := .leaf (.text "say \"hi\"" (some "front"))
    let number : Filter := .leaf (.property .ease .atLeast ⟨0x4004000000000000⟩)
    let dash : Filter := .leaf (.text "-" none)
    let filter : Filter := .and (.not field) (.or number dash)
    filter.Expressible ∧ filter.Written
        "( NOT ( front:\"say \\\"hi\\\"\" ) ) AND ( ( prop:ease>=2.50 ) OR ( - ) )".toList ∧
      Filter.ofQuery "( NOT ( front:\"say \\\"hi\\\"\" ) ) AND ( ( prop:ease>=2.50 ) OR ( - ) )" =
        .ok filter := by
  intro field number dash filter
  have name : IsFieldName "front".toList := by
    constructor
    · constructor <;> decide
    all_goals decide
  have plain : IsPlain "-".toList := by
    constructor
    · constructor <;> decide
    all_goals decide
  have finite : Number.Binary64.isFinite ⟨0x4004000000000000⟩ := by decide
  have expressible : filter.Expressible := ⟨name, finite, plain⟩
  have value : Number.real? "2.50".toList = some ⟨0x4004000000000000⟩ := by decide +kernel
  have written : filter.Written
      "( NOT ( front:\"say \\\"hi\\\"\" ) ) AND ( ( prop:ease>=2.50 ) OR ( - ) )".toList :=
    .and (.not (.leaf (.textIn _ _))) (.or (.leaf (.property _ _ value)) (.leaf (.text _)))
  exact ⟨expressible, written, (roundtrip_of_expressible expressible).2.1 _ written⟩

end CardSearch.Query
