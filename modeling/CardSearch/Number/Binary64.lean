import CardSearch.Number.Power

/-!
Double precision numbers as IEEE 754 words. Arithmetic is exact on natural numbers and rounds once,
half to even.
-/

namespace CardSearch.Number

structure Binary64 where
  bits : UInt64
  deriving DecidableEq, Repr, Inhabited

/-- The nearest whole number to a quotient; a half goes to the even neighbour. -/
def roundQuotient (numerator denominator : Nat) : Nat :=
  let quotient := numerator / denominator
  let twice := 2 * (numerator % denominator)
  if twice < denominator then quotient
  else if denominator < twice then quotient + 1
  else quotient + quotient % 2

namespace Binary64

def negative (number : Binary64) : Bool :=
  number.bits >>> 63 == 1

def exponentField (number : Binary64) : Nat :=
  ((number.bits >>> 52) &&& 0x7FF).toNat

def fractionField (number : Binary64) : Nat :=
  (number.bits &&& 0xFFFFFFFFFFFFF).toNat

def isFinite (number : Binary64) : Bool :=
  number.exponentField < 2047

/-- A finite number is, up to its sign, `significand * 2 ^ power`. -/
def significand (number : Binary64) : Nat :=
  if number.exponentField = 0 then number.fractionField else twoTo 52 + number.fractionField

def power (number : Binary64) : Int :=
  if number.exponentField = 0 then -1074 else (number.exponentField : Int) - 1075

def zero (negative : Bool) : Binary64 :=
  ⟨if negative then 0x8000000000000000 else 0⟩

def scale (power : Int) (numerator denominator : Nat) : Nat × Nat :=
  match power with
  | .ofNat exponent => (numerator * twoTo exponent, denominator)
  | .negSucc exponent => (numerator, denominator * twoTo (exponent + 1))

def fraction (number : Binary64) : Nat × Nat :=
  scale number.power number.significand 1

/-- The power of two whose multiples the doubles near a fraction are. -/
def unit (numerator denominator : Nat) : Int :=
  let estimate : Int := (Nat.log2 numerator : Int) - Nat.log2 denominator - 52
  let (above, below) := scale (-estimate) numerator denominator
  let exact := if above < twoTo 52 * below then estimate - 1 else estimate
  if exact < -1074 then -1074 else exact

/-- The nearest double to a fraction, of two the one with the even significand. There is none when
it would not be finite. -/
def ofFraction? (negative : Bool) (numerator denominator : Nat) : Option Binary64 :=
  if numerator = 0 then some (zero negative)
  else
    let power := unit numerator denominator
    let (above, below) := scale (-power) numerator denominator
    let word := (power + 1074).toNat * twoTo 52 + roundQuotient above below
    if word < 2047 * twoTo 52 then some ⟨(zero negative).bits + UInt64.ofNat word⟩ else none

end Binary64

end CardSearch.Number
