import CardSearch.Number.Binary64
import CardSearch.Query.Vocabulary

/-!
Tokens. A leaf says something about a single card; the other tokens combine leaves.
-/

namespace CardSearch.Query

inductive Leaf where
  /-- A text within the fields of a note, or within one of them. -/
  | text (value : String) (field : Option String)
  /-- A quoted text within the fields of a note. -/
  | phrase (content : String)
  | tag (pattern : String)
  | deck (path : String)
  | state (state : CardState)
  | flag (number : Nat)
  | property (property : Property) (comparison : Comparison) (value : Number.Binary64)
  | date (window : DateWindow)
  | regex (pattern : String) (field : Option String)
  | wholeWord (word : String)
  | accentless (value : String)
  deriving DecidableEq, Repr

inductive Token where
  | leaf (leaf : Leaf)
  | connective (connective : Connective)
  | not
  | opening
  | closing
  | finish
  deriving DecidableEq, Repr

namespace Token

def isLeaf : Token → Bool
  | .leaf _ => true
  | _ => false

def endsTerm : Token → Bool
  | .leaf _ | .closing => true
  | _ => false

def startsTerm : Token → Bool
  | .leaf _ | .not | .opening => true
  | _ => false

end Token

end CardSearch.Query
