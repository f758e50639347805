import CardSearch.Number.Decimal
import CardSearch.Proofs.Text.Escaping
import CardSearch.Query.Clause
import CardSearch.Query.Filter

/-!
How a filter is written as a query. Texts are quoted, every group is in parentheses of its own, and
a number may be written with any literal.
-/

namespace CardSearch.Query

open CardSearch.Text (quoted)
open CardSearch.Text.Word (isBare)

def clause (name value : List Char) : List Char :=
  name ++ ':' :: value

def DateWindow.written (window : DateWindow) : List Char :=
  Nat.toDigits 10 window.days ++ match window.rating with
    | none => []
    | some rating => ':' :: Nat.toDigits 10 rating.number

inductive Leaf.Written : Leaf → List Char → Prop where
  | text (value : String) : Written (.text value none) value.toList
  | textIn (value field : String) :
      Written (.text value (some field)) (clause field.toList (quoted value.toList))
  | phrase (content : String) : Written (.phrase content) (quoted content.toList)
  | tag (pattern : String) :
      Written (.tag pattern) (clause "tag".toList (quoted pattern.toList))
  | deck (path : String) : Written (.deck path) (clause "deck".toList (quoted path.toList))
  | state (state : CardState) :
      Written (.state state) (clause "is".toList state.keyword.toList)
  | flag (number : Nat) :
      Written (.flag number) (clause "flag".toList (Nat.toDigits 10 number))
  | property {literal : List Char} {value : Number.Binary64} (property : Property)
      (comparison : Comparison) (reads : Number.real? literal = some value) :
      Written (.property property comparison value)
        (clause "prop".toList
          (property.keyword.toList ++ (comparison.symbol.toList ++ literal)))
  | date (window : DateWindow) :
      Written (.date window) (clause window.kind.keyword.toList window.written)
  | regex (pattern : String) :
      Written (.regex pattern none) (clause "re".toList (quoted pattern.toList))
  | regexIn (pattern field : String) :
      Written (.regex pattern (some field))
        (clause field.toList (clause "re".toList (quoted pattern.toList)))
  | wholeWord (word : String) :
      Written (.wholeWord word) (clause "w".toList (quoted word.toList))
  | accentless (value : String) :
      Written (.accentless value) (clause "nc".toList (quoted value.toList))

/-- A text that a word can hold without quotes, and that stands for itself there. -/
structure IsBare (text : List Char) : Prop where
  nonempty : text ≠ []
  bare : text.all isBare
  single : ¬['\\', '\\'] <:+: text

structure IsPlain (text : List Char) : Prop extends IsBare text where
  noClause : text.head? = some ':' ∨ ':' ∉ text
  noDash : text.head? = some '-' → text = ['-']
  noKeyword : String.ofList text ∉ ["AND", "OR", "NOT"]

structure IsFieldName (text : List Char) : Prop extends IsBare text where
  noColon : ':' ∉ text
  noDash : text.head? ≠ some '-'
  unreserved : Text.lowered (String.ofList text) ∉ ClauseKind.vocabulary.map Prod.fst

def Leaf.Expressible : Leaf → Prop
  | .text value none => IsPlain value.toList
  | .text _ (some field) | .regex _ (some field) => IsFieldName field.toList
  | .flag number => number < 8
  | .property _ _ value => value.isFinite
  | .date window => window.days < Number.twoTo 32 ∧ (window.kind = .added → window.rating = none)
  | .phrase _ | .tag _ | .deck _ | .state _ | .regex _ none | .wholeWord _ | .accentless _ => True

def Filter.Expressible : Filter → Prop
  | .all => False
  | .leaf single => single.Expressible
  | .and left right | .or left right => left.Expressible ∧ right.Expressible
  | .not operand => operand.Expressible

def parenthesized (text : List Char) : List Char :=
  "( ".toList ++ (text ++ " )".toList)

def joined (connective : Connective) (front last : List Char) : List Char :=
  parenthesized front ++ ' ' :: (connective.keyword.toList ++ ' ' :: parenthesized last)

inductive Filter.Written : Filter → List Char → Prop where
  | leaf {leaf : Leaf} {text : List Char} (written : leaf.Written text) : Written (.leaf leaf) text
  | and {left right : Filter} {front last : List Char} (first : Written left front)
      (second : Written right last) : Written (.and left right) (joined .and front last)
  | or {left right : Filter} {front last : List Char} (first : Written left front)
      (second : Written right last) : Written (.or left right) (joined .or front last)
  | not {operand : Filter} {text : List Char} (written : Written operand text) :
      Written (.not operand) ("NOT ".toList ++ parenthesized text)

end CardSearch.Query
