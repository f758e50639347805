import CardSearch.Number.Binary64
import CardSearch.Number.Numeral

/-!
Decimal literals: an optional sign, digits with at most one point among, before or behind them, and
an optional exponent. A literal is read exactly and rounded once.
-/

namespace CardSearch.Number

/-- The number `digits * 10 ^ exponent`, with a sign that zero has too. -/
structure Decimal where
  negative : Bool
  digits : Nat
  exponent : Int
  deriving DecidableEq, Repr

namespace Decimal

def sign : List Char → Bool × List Char
  | '-' :: rest => (true, rest)
  | '+' :: rest => (false, rest)
  | rest => (false, rest)

/-- Once an exponent has reached 65536 its further digits are passed over: the number is far out of
range whatever they are, unless its own digits fill as many places. -/
def exponentValue (digits : List Char) : Nat :=
  digits.foldl (fun total digit => if total < 65536 then 10 * total + digitValue digit else total) 0

def exponent? : List Char → Option Int
  | [] => some 0
  | mark :: rest =>
    let (negative, digits) := sign rest
    if (mark == 'e' || mark == 'E') && !digits.isEmpty && digits.all Char.isDigit then
      some (if negative then -(exponentValue digits : Int) else exponentValue digits)
    else none

def places : List Char → List Char × List Char
  | '.' :: rest => (rest.takeWhile Char.isDigit, rest.dropWhile Char.isDigit)
  | rest => ([], rest)

def read? (text : List Char) : Option Decimal :=
  let (negative, unsigned) := sign text
  let whole := unsigned.takeWhile Char.isDigit
  let (part, rest) := places (unsigned.dropWhile Char.isDigit)
  if whole.isEmpty && part.isEmpty then none
  else (exponent? rest).map fun exponent =>
    ⟨negative, value (whole ++ part), exponent - part.length⟩

/-- The nearest double, if it is finite. Literals far outside the range are settled by their width
alone. -/
def toBinary64? (number : Decimal) : Option Binary64 :=
  let leading := (width number.digits : Int) + number.exponent
  if number.digits = 0 || leading < -400 then some (.zero number.negative)
  else if 400 < leading then none
  else match number.exponent with
    | .ofNat exponent => Binary64.ofFraction? number.negative (number.digits * tenTo exponent) 1
    | .negSucc exponent => Binary64.ofFraction? number.negative number.digits (tenTo (exponent + 1))

end Decimal

def real? (text : List Char) : Option Binary64 :=
  (Decimal.read? text).bind Decimal.toBinary64?

end CardSearch.Number
