import CardSearch.Json.Value
import CardSearch.Query.Filter
import CardSearch.Query.Lexeme
import CardSearch.Sql.Predicate

/-!
Tokens, filters and conditions as JSON. The keys of every object ascend.
-/

namespace CardSearch.Report

open CardSearch.Query CardSearch.Sql

def optional {α : Type} (encode : α → Json) : Option α → Json
  | none => .null
  | some value => encode value

def propertyName : Property → String
  | .interval => "interval"
  | property => property.keyword

def ofDate (window : DateWindow) : List (String × Json) :=
  [("days", .integer window.days), ("kind", .text window.kind.keyword),
   ("rating", optional (fun rating => .text (Rating.keyword rating)) window.rating)]

def ofProperty (property : Property) (comparison : Comparison) : List (String × Json) :=
  [("name", .text (propertyName property)), ("op", .text comparison.symbol)]

def tokenKind (kind : String) : String × Json :=
  ("token", .text kind)

def ofLeafToken : Leaf → Json
  | .text value none => .object [tokenKind "text", ("value", .text value)]
  | .text value (some field) =>
    .object [("field", .text field), tokenKind "field", ("value", .text value)]
  | .phrase content => .object [tokenKind "quoted_text", ("value", .text content)]
  | .tag pattern => .object [("pattern", .text pattern), tokenKind "tag"]
  | .deck path => .object [("path", .text path), tokenKind "deck"]
  | .state state => .object [("state", .text state.keyword), tokenKind "state"]
  | .flag number => .object [("flag", .integer number), tokenKind "flag"]
  | .property property comparison value =>
    .object (ofProperty property comparison ++ [tokenKind "property", ("value", .real value)])
  | .date window => .object (ofDate window ++ [tokenKind "date"])
  | .regex pattern field =>
    .object [("field", optional .text field), ("pattern", .text pattern), tokenKind "regex"]
  | .wholeWord word => .object [tokenKind "word_boundary", ("word", .text word)]
  | .accentless value => .object [tokenKind "accent_insensitive", ("value", .text value)]

def ofToken : Token → Json
  | .leaf leaf => ofLeafToken leaf
  | .connective .and => .object [tokenKind "and"]
  | .connective .or => .object [tokenKind "or"]
  | .not => .object [tokenKind "not"]
  | .opening => .object [tokenKind "l_paren"]
  | .closing => .object [tokenKind "r_paren"]
  | .finish => .object [tokenKind "eof"]

def ofLexeme (lexeme : Lexeme) : Json :=
  .object [("lexeme", .text lexeme.text), ("position", .integer lexeme.position),
    ("token", ofToken lexeme.token)]

def node (kind : String) (value : Json) : Json :=
  .object [("node", .text kind), ("value", value)]

def ofLeafNode : Leaf → Json
  | .text value field =>
    node "text" (.object [("field", optional .text field), ("value", .text value)])
  | .phrase content => node "quoted_text" (.text content)
  | .tag pattern => node "tag" (.text pattern)
  | .deck path => node "deck" (.text path)
  | .state state => node "state" (.text state.keyword)
  | .flag number => node "flag" (.integer number)
  | .property property comparison value =>
    node "property" (.object (ofProperty property comparison ++ [("value", .real value)]))
  | .date window => node "date" (.object (ofDate window))
  | .regex pattern field =>
    node "regex" (.object [("field", optional .text field), ("pattern", .text pattern)])
  | .wholeWord word => node "word_boundary" (.text word)
  | .accentless value => node "accent_insensitive" (.text value)

def ofFilter : Filter → Json
  | .all => .object [("node", .text "match_all")]
  | .leaf leaf => ofLeafNode leaf
  | .and left right => node "and" (.object [("left", ofFilter left), ("right", ofFilter right)])
  | .or left right => node "or" (.object [("left", ofFilter left), ("right", ofFilter right)])
  | .not operand => node "not" (ofFilter operand)

def ofParam : Param → Json
  | .text value => .text value
  | .integer value => .integer value
  | .real value => .real value

def ofPredicate (predicate : Predicate) : Json :=
  .object [("joins", .array (predicate.joins.map fun join => .text join.sql)),
    ("params", .array (predicate.params.map ofParam)), ("predicate", .text predicate.sql)]

end CardSearch.Report
