import CardSearch.Json.Value
import CardSearch.Number.Decimal

/-!
Numbers in JSON. Whole numbers of 64 bits are exact. All others are read as doubles in two
roundings: the digits, as far as they fit a word, and then their scaling by a power of ten.
-/

namespace CardSearch.Json

open CardSearch.Number

/-- The text of a number in its parts. Without an exponent or a fraction these are empty. -/
structure NumberText where
  negative : Bool
  whole : List Char
  fraction : List Char
  exponent : List Char
  exponentNegative : Bool

/-- Digits that fit a 64-bit word, and the power of ten by which they fall short. -/
structure Significand where
  word : Nat
  exponent : Int
  full : Bool

/-- Takes a digit in front of the point. From the first that does not fit on they are dropped. -/
def Significand.takeWhole (significand : Significand) (digit : Char) : Significand :=
  let longer := 10 * significand.word + digitValue digit
  if significand.full || twoTo 64 ≤ longer then
    { significand with exponent := significand.exponent + 1, full := true }
  else { significand with word := longer }

def Significand.takeFraction (significand : Significand) (digit : Char) : Significand :=
  let longer := 10 * significand.word + digitValue digit
  if significand.full || twoTo 64 ≤ longer then { significand with full := true }
  else { significand with word := longer, exponent := significand.exponent - 1 }

def significand (text : NumberText) : Significand :=
  let whole := text.whole.foldl Significand.takeWhole ⟨0, 0, false⟩
  text.fraction.foldl Significand.takeFraction { whole with full := false }

def multipliedBy (number : Binary64) (exponent : Nat) : Option Binary64 :=
  let (above, below) := number.fraction
  (Binary64.ofFraction? false (tenTo exponent) 1).bind fun ten =>
    let (scale, unit) := ten.fraction
    Binary64.ofFraction? false (above * scale) (below * unit)

def dividedBy (number : Binary64) (exponent : Nat) : Option Binary64 :=
  let (above, below) := number.fraction
  (Binary64.ofFraction? false (tenTo exponent) 1).bind fun ten =>
    let (scale, unit) := ten.fraction
    Binary64.ofFraction? false (above * unit) (below * scale)

def greatestPower : Nat := 308

/-- The double of a word times a power of ten. An exponent below -308 takes two divisions, and one
below -616 leaves nothing of a word. -/
def scaled (number : Binary64) : (exponent : Int) → Option Binary64
  | .ofNat exponent =>
    if exponent ≤ greatestPower then multipliedBy number exponent
    else if number.significand = 0 then some number
    else none
  | .negSucc places =>
    if places + 1 ≤ greatestPower then dividedBy number (places + 1)
    else if places + 1 ≤ 2 * greatestPower then
      (dividedBy number greatestPower).bind (dividedBy · (places + 1 - greatestPower))
    else some (.zero false)

def withSign (negative : Bool) (number : Binary64) : Binary64 :=
  if negative then ⟨number.bits ||| 0x8000000000000000⟩ else number

def approximate? (text : NumberText) : Option Binary64 := do
  let digits := significand text
  let number ← Binary64.ofFraction? false digits.word 1
  let shift : Int := value text.exponent
  let exponent := digits.exponent + if text.exponentNegative then -shift else shift
  return withSign text.negative (← scaled number exponent)

/-- The value of a number. Minus zero is no whole number. -/
def ofNumber (text : NumberText) : Json :=
  let whole := value text.whole
  let plain := text.fraction.isEmpty && text.exponent.isEmpty
  if plain && !text.negative && whole < twoTo 64 then .integer whole
  else if plain && text.negative && 0 < whole && whole ≤ twoTo 63 then .integer (-whole)
  else match approximate? text with
    | some number => .real number
    | none => .unrepresentable

end CardSearch.Json
