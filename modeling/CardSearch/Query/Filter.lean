import CardSearch.Query.Token

/-!
Filters: what a query means, as a tree of leaves.
-/

namespace CardSearch.Query

inductive Filter where
  /-- The filter that every card passes. -/
  | all
  | leaf (leaf : Leaf)
  | and (left right : Filter)
  | or (left right : Filter)
  | not (operand : Filter)
  deriving DecidableEq, Repr

namespace Filter

def negate : (count : Nat) → Filter → Filter
  | 0, filter => filter
  | count + 1, filter => .not (negate count filter)

def joinedBy (join : Filter → Filter → Filter) : Option Filter → Filter → Filter
  | none, right => right
  | some left, right => join left right

end Filter

end CardSearch.Query
