import CardSearch.Number.Binary64

/-!
Values bound to the placeholders of a statement. User data reaches a statement only here.
-/

namespace CardSearch.Sql

inductive Param where
  | text (value : String)
  | integer (value : Int)
  | real (value : Number.Binary64)
  deriving DecidableEq, Repr

end CardSearch.Sql
