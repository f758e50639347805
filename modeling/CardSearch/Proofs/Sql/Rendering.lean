import CardSearch.Proofs.Query.Leaves
import CardSearch.Sql.Predicate

/-!
The characters of conditions and predicates.
-/

namespace CardSearch.Sql

open CardSearch.Query (Filter)

theorem toList_placeholder (offset index : Nat) :
    (placeholder offset index).toList =
      '$' :: Nat.toDigits 10 ((offset + index + 1) % Number.twoTo 64) := by
  simp [placeholder, Nat.toString_eq_repr, Nat.toList_repr]

theorem placeholder_of_lt {offset index : Nat} (fits : offset + index + 1 < Number.twoTo 64) :
    placeholder offset index = "$" ++ toString (offset + index + 1) := by
  rw [placeholder, Nat.mod_eq_of_lt fits]

theorem Condition.toList_render (offset : Nat) (condition : Condition) :
    (condition.render offset).toList =
      condition.pieces.flatMap fun piece => (piece.render offset).toList := by
  simp [render, String.toList_join, List.flatMap_map]

theorem Condition.render_someField (offset : Nat) (field : Option String)
    (test : Nat → List Piece) (value : String) :
    ∃ head, (someField field test value).render offset =
      head ++ String.join ((test field.toList.length).map (Piece.render offset)) ++ ")" := by
  cases field with
  | none =>
    refine ⟨"EXISTS (SELECT 1 FROM jsonb_each_text(n.fields) AS f(key, value) WHERE ", ?_⟩
    simp [render, someField, within, Piece.render, String.append_assoc]
  | some name =>
    let key := "lower(f.key) = lower(" ++ placeholder offset 0 ++ ") AND "
    refine ⟨"EXISTS (SELECT 1 FROM jsonb_each_text(n.fields) AS f(key, value) WHERE " ++ key, ?_⟩
    simp [render, someField, within, Piece.render, key, String.append_assoc]

namespace Predicate

theorem toList_both (connective : String) (left right : Predicate) :
    (both connective left right).sql.toList =
      '(' :: (left.sql.toList ++ ')' :: ' ' :: (connective.toList ++ ' ' :: '(' ::
        (right.sql.toList ++ [')']))) := by
  simp [both]

theorem toList_negation (operand : Predicate) :
    (negation operand).sql.toList =
      "NOT COALESCE".toList ++ '(' :: '(' :: (operand.sql.toList ++ ')' :: ", FALSE)".toList) := by
  simp [negation]

theorem params_eq (offset : Nat) (filter : Filter) :
    (ofFilter offset filter).params =
      filter.leaves.flatMap fun leaf => (Condition.ofLeaf leaf).params := by
  induction filter generalizing offset with
  | all => rfl
  | leaf leaf => simp [ofFilter, ofCondition, Filter.leaves]
  | and left right ihLeft ihRight | or left right ihLeft ihRight =>
    simp [ofFilter, both, Filter.leaves, ihLeft, ihRight]
  | not operand ih => exact ih offset

end Predicate

end CardSearch.Sql
