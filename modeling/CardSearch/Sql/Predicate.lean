import CardSearch.Query.Filter
import CardSearch.Sql.Condition

/-!
The condition of a whole filter on the cards `c`.
-/

namespace CardSearch.Sql

open CardSearch.Query (Filter)

structure Predicate where
  sql : String
  params : List Param
  joins : List Join
  deriving DecidableEq, Repr

namespace Predicate

def ofCondition (offset : Nat) (condition : Condition) : Predicate :=
  ⟨condition.render offset, condition.params, condition.join.toList⟩

def both (connective : String) (left right : Predicate) : Predicate :=
  ⟨"(" ++ left.sql ++ ") " ++ connective ++ " (" ++ right.sql ++ ")", left.params ++ right.params,
    Join.union left.joins right.joins⟩

/-- An operand that is unknown counts as false, so a card passes either a filter or its negation. -/
def negation (operand : Predicate) : Predicate :=
  { operand with sql := "NOT COALESCE((" ++ operand.sql ++ "), FALSE)" }

/-- The condition of a filter behind `offset` values that are bound already. Placeholders are
numbered from left to right. -/
def ofFilter (offset : Nat) : Filter → Predicate
  | .all => ⟨"TRUE", [], []⟩
  | .leaf leaf => ofCondition offset (.ofLeaf leaf)
  | .and left right =>
    let first := ofFilter offset left
    both "AND" first (ofFilter (offset + first.params.length) right)
  | .or left right =>
    let first := ofFilter offset left
    both "OR" first (ofFilter (offset + first.params.length) right)
  | .not operand => negation (ofFilter offset operand)

end Predicate

end CardSearch.Sql
