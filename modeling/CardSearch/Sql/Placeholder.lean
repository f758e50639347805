import CardSearch.Number.Numeral
import CardSearch.Number.Power
import CardSearch.Text.DecimalDigit

/-!
The placeholders in a statement: a dollar sign and a run of decimal digits. Digits of any script
belong to the run, but only ASCII digits make a number, and only a 64-bit one.
-/

namespace CardSearch.Sql.Placeholder

/-- The runs of digits behind the dollar signs of a text; a run is empty where no digit follows. -/
def runs : List Char → List (List Char)
  | [] => []
  | character :: rest =>
    if character = '$' then rest.takeWhile Text.isDecimalDigit :: runs rest else runs rest

def insert (number : Nat) : List Nat → List Nat
  | [] => [number]
  | first :: rest =>
    if number < first then number :: first :: rest
    else if number = first then first :: rest
    else first :: insert number rest

def numbers (sql : String) : List Nat :=
  ((runs sql.toList).filterMap (Number.numeral? (Number.twoTo 64))).foldr insert []

def count (sql : String) : Nat :=
  (numbers sql).length

end CardSearch.Sql.Placeholder
