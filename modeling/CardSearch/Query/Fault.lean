import CardSearch.Query.Vocabulary

/-!
What can be wrong with a query. A fault is the reason in terms of the language; a syntax error adds
the piece of text at fault and its place.
-/

namespace CardSearch.Query

inductive Cause where
  | unclosedQuote
  | unknownState
  | invalidFlag
  | invalidProperty
  | invalidDate
  | unbalancedParenthesis
  | unexpectedEnd
  | unexpectedToken
  deriving DecidableEq, Repr

inductive Fault where
  | unclosedQuote
  | unknownState (value : String)
  | invalidFlag (value : String)
  | missingComparison (clause : String)
  | unknownProperty (name : String)
  | invalidPropertyValue (value : String) (property : Property)
  | malformedDate (kind : WindowKind) (clause : String)
  | invalidDays (kind : WindowKind) (days : String)
  | invalidRating (rating : String)
  | unclosedParenthesis
  | unmatchedParenthesis
  | unexpectedEnd
  | unexpectedClosing
  | unexpectedConnective (connective : Connective)
  /-- A second term follows in a group without a connective. -/
  | groupGoesOn
  /-- A second term follows outside all groups without a connective. -/
  | queryGoesOn
  deriving DecidableEq, Repr

namespace Fault

def cause : Fault → Cause
  | .unclosedQuote => .unclosedQuote
  | .unknownState _ => .unknownState
  | .invalidFlag _ => .invalidFlag
  | .missingComparison _ | .unknownProperty _ | .invalidPropertyValue _ _ => .invalidProperty
  | .malformedDate _ _ | .invalidDays _ _ | .invalidRating _ => .invalidDate
  | .unclosedParenthesis | .unmatchedParenthesis => .unbalancedParenthesis
  | .unexpectedEnd => .unexpectedEnd
  | .unexpectedClosing | .unexpectedConnective _ | .groupGoesOn | .queryGoesOn => .unexpectedToken

def listed {meaning : Type} (vocabulary : List (String × meaning)) : String :=
  ", ".intercalate (vocabulary.map Prod.fst)

def message : Fault → String
  | .unclosedQuote => "Unclosed double quote"
  | .unknownState value =>
    "Unknown card state '" ++ value ++ "': expected one of " ++ listed CardState.vocabulary
  | .invalidFlag value => "Invalid flag '" ++ value ++ "': flags range from 0 to 7"
  | .missingComparison clause =>
    "Missing comparison operator in property clause '" ++ clause ++ "': expected one of " ++
      ", ".intercalate (Comparison.all.map Comparison.symbol)
  | .unknownProperty name =>
    "Unknown property '" ++ name ++ "': expected one of " ++ listed Property.vocabulary
  | .invalidPropertyValue value property =>
    "Invalid value '" ++ value ++ "' for property " ++ property.keyword ++ ": expected a number"
  | .malformedDate kind clause =>
    "Malformed " ++ kind.keyword ++ " clause '" ++ clause ++ "': expected " ++ kind.keyword ++
      ":DAYS" ++ (match kind with | .added => "" | .rated => "[:RATING]")
  | .invalidDays kind days =>
    "Invalid day count '" ++ days ++ "' in " ++ kind.keyword ++
      ": expected a non-negative whole number"
  | .invalidRating rating =>
    "Invalid rating '" ++ rating ++
      "' in rated: expected 1 (Again), 2 (Hard), 3 (Good) or 4 (Easy)"
  | .unclosedParenthesis => "Unclosed parenthesis: missing ')'"
  | .unmatchedParenthesis => "Unmatched closing parenthesis"
  | .unexpectedEnd => "Unexpected end of query: expected a search term"
  | .unexpectedClosing => "Unexpected ')': expected a search term"
  | .unexpectedConnective connective =>
    "Unexpected operator '" ++ connective.keyword ++ "': expected a search term"
  | .groupGoesOn => "Expected ')' to close group"
  | .queryGoesOn => "Expected an operator or the end of the query"

end Fault

structure SyntaxError where
  fault : Fault
  fragment : String
  position : Nat
  deriving DecidableEq, Repr

namespace SyntaxError

def located (message fragment : String) (position : Nat) : String :=
  message ++ " (at position " ++ toString position ++ ": `" ++ fragment ++ "`)"

def text (error : SyntaxError) : String :=
  located error.fault.message error.fragment error.position

end SyntaxError

end CardSearch.Query
