import CardSearch.Number.Binary64

/-!
JSON values.
-/

namespace CardSearch

inductive Json where
  | null
  | bool (value : Bool)
  | integer (value : Int)
  | real (value : Number.Binary64)
  | text (value : String)
  | array (items : List Json)
  | object (entries : List (String × Json))
  /-- Well-formed text without a value: half of a surrogate pair, or a number out of range. -/
  | unrepresentable

namespace Json

/-- The last value under a key. -/
def get? (entries : List (String × Json)) (key : String) : Option Json :=
  entries.reverse.lookup key

end Json

end CardSearch
