import CardSearch.Query.Token

/-!
Tokens with their places in a query. Terms may stand next to each other without a connective; the
conjunction that is meant is then written out.
-/

namespace CardSearch.Query

/-- A token with the place of its first character and its text. Tokens that nobody wrote have no
text. -/
structure Lexeme where
  token : Token
  position : Nat
  text : String
  deriving DecidableEq, Repr

namespace Lexeme

def conjunctionBefore (next : Lexeme) : Lexeme :=
  ⟨.connective .and, next.position, ""⟩

/-- Writes out the conjunction of two terms that only stand next to each other. -/
def joinTerms : List Lexeme → List Lexeme
  | first :: second :: rest =>
    if first.token.endsTerm && second.token.startsTerm then
      first :: second.conjunctionBefore :: joinTerms (second :: rest)
    else first :: joinTerms (second :: rest)
  | alone => alone

end Lexeme

end CardSearch.Query
