import CardSearch.Number.Numeral
import Mathlib.Data.Nat.Digits.Defs

/-!
Numbers written in decimal digits are read back. A text is read as a number exactly if it is made of
digits that stand for the number.
-/

namespace CardSearch.Number

theorem all_isDigit_toDigits (number : Nat) : (Nat.toDigits 10 number).all Char.isDigit := by
  rw [List.all_eq_true]
  intro digit member
  exact Nat.isDigit_of_mem_toDigits (by decide) (by decide) member

theorem value_toDigits (number : Nat) : value (Nat.toDigits 10 number) = number := by
  have reads := @Nat.ofDigitChars_ten_toDigits number
  rw [Nat.ofDigitChars_eq_foldl] at reads
  exact reads

theorem toDigits_injective : Function.Injective (Nat.toDigits 10) :=
  Function.LeftInverse.injective value_toDigits

/-- One or more ASCII digits, with the number that they are in the decimal system. There may be
zeros in front. -/
structure IsNumeral (text : List Char) (number : Nat) : Prop where
  nonempty : text ≠ []
  digits : text.all Char.isDigit
  value : Nat.ofDigits 10 (text.reverse.map digitValue) = number

theorem value_eq_ofDigits (text : List Char) :
    value text = Nat.ofDigits 10 (text.reverse.map digitValue) := by
  rw [value, ← List.foldr_reverse]
  induction text.reverse with
  | nil => rfl
  | cons digit digits ih =>
    rw [List.foldr_cons, List.map_cons, Nat.ofDigits_cons, ih]
    exact Nat.add_comm _ _

theorem numeral?_eq_some_iff {bound number : Nat} {text : List Char} :
    numeral? bound text = some number ↔ IsNumeral text number ∧ number < bound := by
  simp only [numeral?, Option.ite_none_right_eq_some, Bool.and_eq_true, decide_eq_true_eq,
    Bool.not_eq_true', List.isEmpty_eq_false_iff, Option.some.injEq]
  constructor
  · rintro ⟨⟨⟨nonempty, digits⟩, small⟩, rfl⟩
    exact ⟨⟨nonempty, digits, (value_eq_ofDigits text).symm⟩, small⟩
  · rintro ⟨⟨nonempty, digits, same⟩, small⟩
    rw [← value_eq_ofDigits] at same
    exact ⟨⟨⟨nonempty, digits⟩, same ▸ small⟩, same⟩

theorem isNumeral_toDigits (number : Nat) : IsNumeral (Nat.toDigits 10 number) number := by
  constructor
  case nonempty => exact Nat.toDigits_ne_nil
  case digits => exact all_isDigit_toDigits number
  case value => rw [← value_eq_ofDigits, value_toDigits]

theorem numeral?_toDigits {bound number : Nat} (below : number < bound) :
    numeral? bound (Nat.toDigits 10 number) = some number :=
  numeral?_eq_some_iff.2 ⟨isNumeral_toDigits number, below⟩

end CardSearch.Number
