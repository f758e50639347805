import CardSearch.Query.Meaning
import CardSearch.Report.Encoding

/-!
Reports on a query: its tokens, its filter, or the condition that the filter stands for.
-/

namespace CardSearch.Report

open CardSearch.Query CardSearch.Sql

inductive Kind where
  | tokens
  | tree
  /-- The condition behind some values that are bound already. -/
  | sql (offset : Nat)
  deriving DecidableEq, Repr

def ofQuery (kind : Kind) (query : String) : Except SyntaxError Json :=
  match kind with
  | .tokens => (lexemes query).map fun found => .array (found.map ofLexeme)
  | .tree => (Filter.ofQuery query).map ofFilter
  | .sql offset => (Filter.ofQuery query).map fun filter => ofPredicate (.ofFilter offset filter)

end CardSearch.Report
