import CardSearch.Search.Row

/-!
The hits that rows become.
-/

namespace CardSearch.Search

structure Note where
  id : Int
  fields : List (String × Json)

structure Deck where
  id : Int
  path : String
  name : String

structure Tag where
  slug : String
  name : String

structure Hit where
  card : Card
  note : Note
  deck : Deck
  tags : List Tag

def upToColons : List Char → List Char
  | ':' :: ':' :: _ => []
  | character :: rest => character :: upToColons rest
  | [] => []

/-- The last segment of a path. Of three colons in a row the last two separate. -/
def lastName (path : String) : String :=
  String.ofList (upToColons path.toList.reverse).reverse

namespace Hit

/-- Fields that are no object are left out. -/
def ofRow (row : Row) : Hit where
  card := row.card
  note := ⟨row.noteId, match row.fields with | .object fields => fields | _ => []⟩
  deck := ⟨row.deckId, row.deckPath, lastName row.deckPath⟩
  tags := row.tags.map fun slug => ⟨slug, lastName slug⟩

end Hit

end CardSearch.Search
