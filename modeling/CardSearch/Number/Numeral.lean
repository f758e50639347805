/-!
Whole numbers written in ASCII digits, without a sign.
-/

namespace CardSearch.Number

def digitValue (digit : Char) : Nat :=
  digit.toNat - '0'.toNat

def value (digits : List Char) : Nat :=
  digits.foldl (fun total digit => 10 * total + digitValue digit) 0

def numeral? (bound : Nat) (text : List Char) : Option Nat :=
  if !text.isEmpty && text.all Char.isDigit && value text < bound then some (value text) else none

def width (number : Nat) : Nat :=
  (Nat.toDigits 10 number).length

end CardSearch.Number
