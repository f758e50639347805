import CardSearch.Text.LetterCase

/-!
The closed vocabularies of the query language. The keywords of states and properties are accepted in
any letter case; each meaning has one keyword of its own.
-/

namespace CardSearch.Query

inductive Connective where
  | and
  | or
  deriving DecidableEq, Repr

def Connective.keyword : Connective → String
  | .and => "AND"
  | .or => "OR"

inductive CardState where
  | due
  | new
  | learning
  | review
  | relearning
  | paused
  | skipped
  deriving DecidableEq, Repr

namespace CardState

def vocabulary : List (String × CardState) :=
  [("due", .due), ("new", .new), ("learning", .learning), ("review", .review),
   ("relearning", .relearning), ("paused", .paused), ("buried", .skipped), ("skipped", .skipped)]

def ofKeyword? (keyword : String) : Option CardState :=
  vocabulary.lookup (Text.lowered keyword)

def keyword : CardState → String
  | .due => "due"
  | .new => "new"
  | .learning => "learning"
  | .review => "review"
  | .relearning => "relearning"
  | .paused => "paused"
  | .skipped => "skipped"

theorem ofKeyword?_keyword (state : CardState) : ofKeyword? state.keyword = some state := by
  cases state <;> decide

end CardState

inductive Property where
  | interval
  | lapses
  | ease
  | reps
  | stability
  | retrievability
  | difficulty
  deriving DecidableEq, Repr

namespace Property

def vocabulary : List (String × Property) :=
  [("ivl", .interval), ("lapses", .lapses), ("ease", .ease), ("reps", .reps),
   ("stability", .stability), ("retrievability", .retrievability), ("difficulty", .difficulty)]

def ofKeyword? (keyword : String) : Option Property :=
  vocabulary.lookup (Text.lowered keyword)

def keyword : Property → String
  | .interval => "ivl"
  | .lapses => "lapses"
  | .ease => "ease"
  | .reps => "reps"
  | .stability => "stability"
  | .retrievability => "retrievability"
  | .difficulty => "difficulty"

end Property

inductive Comparison where
  | atLeast
  | atMost
  | different
  | greater
  | less
  | equal
  deriving DecidableEq, Repr

namespace Comparison

def all : List Comparison :=
  [.atLeast, .atMost, .different, .greater, .less, .equal]

def symbol : Comparison → String
  | .atLeast => ">="
  | .atMost => "<="
  | .different => "!="
  | .greater => ">"
  | .less => "<"
  | .equal => "="

def ofSymbol? (symbol : String) : Option Comparison :=
  all.find? (·.symbol == symbol)

/-- The comparison a text begins with and what follows it. A second character is taken if it makes a
longer symbol. -/
def leading? : List Char → Option (Comparison × List Char)
  | '>' :: '=' :: rest => some (.atLeast, rest)
  | '<' :: '=' :: rest => some (.atMost, rest)
  | '!' :: '=' :: rest => some (.different, rest)
  | '>' :: rest => some (.greater, rest)
  | '<' :: rest => some (.less, rest)
  | '=' :: rest => some (.equal, rest)
  | _ => none

theorem leading?_symbol (comparison : Comparison) (rest : List Char)
    (apart : rest.head? ≠ some '=') :
    leading? (comparison.symbol.toList ++ rest) = some (comparison, rest) := by
  cases comparison <;> cases rest with
  | nil => rfl
  | cons character rest => simp_all [symbol, leading?]

end Comparison

inductive WindowKind where
  | added
  | rated
  deriving DecidableEq, Repr

def WindowKind.keyword : WindowKind → String
  | .added => "added"
  | .rated => "rated"

inductive Rating where
  | again
  | hard
  | good
  | easy
  deriving DecidableEq, Repr

namespace Rating

def all : List Rating :=
  [.again, .hard, .good, .easy]

def number : Rating → Nat
  | .again => 1
  | .hard => 2
  | .good => 3
  | .easy => 4

def ofNumber? (number : Nat) : Option Rating :=
  all.find? (·.number == number)

def keyword : Rating → String
  | .again => "again"
  | .hard => "hard"
  | .good => "good"
  | .easy => "easy"

end Rating

structure DateWindow where
  kind : WindowKind
  days : Nat
  rating : Option Rating
  deriving DecidableEq, Repr

end CardSearch.Query
