import CardSearch.Query.Filter

/-!
The leaves of a filter from left to right, and the meaning of a filter whose leaves hold or fail.
-/

namespace CardSearch.Query.Filter

def leaves : Filter → List Leaf
  | .all => []
  | .leaf single => [single]
  | .and left right | .or left right => left.leaves ++ right.leaves
  | .not operand => operand.leaves

/-- Whether a card passes if the leaves, counted from left to right, hold as given. -/
def holds (passes : Nat → Bool) : Filter → Bool
  | .all => true
  | .leaf _ => passes 0
  | .and left right =>
    left.holds passes && right.holds fun index => passes (left.leaves.length + index)
  | .or left right =>
    left.holds passes || right.holds fun index => passes (left.leaves.length + index)
  | .not operand => !operand.holds passes

end CardSearch.Query.Filter
