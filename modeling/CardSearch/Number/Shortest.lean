import CardSearch.Number.Binary64
import CardSearch.Number.Numeral

/-!
The decimal text of a double: the fewest digits that read back as it, and of those the nearest.
-/

namespace CardSearch.Number

namespace Binary64

/-- The reals that round to a positive double, as multiples of a quarter of its unit. The double
itself is `center`; the ends belong to it when its significand is even. -/
structure Interval where
  power : Int
  low : Nat
  center : Nat
  high : Nat
  closed : Bool

/-- Below a power of two the doubles lie twice as dense. -/
def interval (number : Binary64) : Interval where
  power := number.power - 2
  low := 4 * number.significand -
    (if number.significand = twoTo 52 ∧ -1074 < number.power then 1 else 2)
  center := 4 * number.significand
  high := 4 * number.significand + 2
  closed := number.significand % 2 = 0

def leadingExponent (numerator denominator : Nat) : Int :=
  if denominator ≤ numerator then (width (numerator / denominator) : Int) - 1
  else -(width ((denominator - 1) / numerator) : Int)

structure Grid where
  low : Nat
  center : Nat
  high : Nat
  denominator : Nat

def Interval.grid (interval : Interval) (exponent : Int) : Grid :=
  let (two, half) := scale interval.power 1 1
  let (up, down) := match exponent with
    | .ofNat ten => (1, tenTo ten)
    | .negSucc ten => (tenTo (ten + 1), 1)
  ⟨interval.low * two * up, interval.center * two * up, interval.high * two * up, half * down⟩

/-- The multiple of the grid nearest to the value among the two next to it that lie in the interval;
of two as near, the even one. -/
def Grid.nearest? (grid : Grid) (closed : Bool) : Option Nat :=
  let below := grid.center / grid.denominator
  let inside (multiple : Nat) : Bool :=
    let point := multiple * grid.denominator
    if closed then grid.low ≤ point && point ≤ grid.high else grid.low < point && point < grid.high
  let nearest := roundQuotient grid.center grid.denominator
  if inside nearest then some nearest
  else if inside below then some below
  else if inside (below + 1) then some (below + 1)
  else none

structure Digits where
  digits : List Char
  exponent : Int

def dropTrailingZeros (digits : List Char) : List Char :=
  (digits.reverse.dropWhile (· == '0')).reverse

def shortestAmong (interval : Interval) (leading : Int) : (counts : List Nat) → Digits
  | [] => ⟨['0'], 0⟩
  | count :: more =>
    let exponent := leading - count + 1
    match (interval.grid exponent).nearest? interval.closed with
    | some multiple =>
      let digits := Nat.toDigits 10 multiple
      ⟨dropTrailingZeros digits, exponent + digits.length - 1⟩
    | none => shortestAmong interval leading more

def shortest (number : Binary64) : Digits :=
  let (numerator, denominator) := number.fraction
  shortestAmong number.interval (leadingExponent numerator denominator)
    [1, 2, 3, 4, 5, 6, 7, 8, 9, 10, 11, 12, 13, 14, 15, 16, 17]

def zeros (count : Nat) : List Char :=
  List.replicate count '0'

/-- Exponents from -5 to 15 are written out, with one decimal place at least; others behind an `e`
with their sign. -/
def Digits.text (number : Digits) : List Char :=
  match number.exponent with
  | .ofNat exponent =>
    if exponent ≤ 15 then
      let padded := number.digits ++ zeros (exponent + 2 - number.digits.length)
      padded.take (exponent + 1) ++ '.' :: padded.drop (exponent + 1)
    else scientific ('+' :: Nat.toDigits 10 exponent)
  | .negSucc exponent =>
    if exponent < 5 then '0' :: '.' :: (zeros exponent ++ number.digits)
    else scientific ('-' :: Nat.toDigits 10 (exponent + 1))
where
  scientific (exponent : List Char) : List Char :=
    match number.digits with
    | [] => []
    | [digit] => digit :: 'e' :: exponent
    | first :: rest => first :: '.' :: (rest ++ 'e' :: exponent)

def text (number : Binary64) : String :=
  let magnitude := if number.significand = 0 then ['0', '.', '0'] else number.shortest.text
  String.ofList (if number.negative then '-' :: magnitude else magnitude)

end Binary64

end CardSearch.Number
