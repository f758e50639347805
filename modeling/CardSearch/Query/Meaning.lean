import CardSearch.Query.Cursor
import CardSearch.Query.Reading

/-!
The meaning of a query text.
-/

namespace CardSearch.Query

def Filter.ofLexemes (lexemes : List Lexeme) : Except SyntaxError Filter :=
  (Reading.ofLexemes lexemes).next.1

def Filter.ofQuery (query : String) : Except SyntaxError Filter :=
  (lexemes query).bind ofLexemes

end CardSearch.Query
