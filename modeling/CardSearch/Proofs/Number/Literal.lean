import CardSearch.Number.Decimal

/-!
The characters of decimal literals.
-/

namespace CardSearch.Number

namespace Decimal

def isLiteral (character : Char) : Bool :=
  character.isDigit || ['+', '-', '.', 'e', 'E'].contains character

theorem all_takeWhile_isDigit (text : List Char) : (text.takeWhile Char.isDigit).all isLiteral := by
  rw [List.all_eq_true]
  intro digit member
  simp [isLiteral, List.all_eq_true.1 List.all_takeWhile digit member]

theorem all_of_sign {text : List Char} (rest : (sign text).2.all isLiteral) :
    text.all isLiteral := by
  unfold sign at rest
  split at rest
  · exact rest
  · exact rest
  · exact rest

theorem all_of_exponent? {text : List Char} {exponent : Int}
    (found : exponent? text = some exponent) : text.all isLiteral := by
  cases text with
  | nil => rfl
  | cons mark rest =>
    simp only [exponent?, Option.ite_none_right_eq_some, Bool.and_eq_true, Bool.or_eq_true,
      beq_iff_eq] at found
    obtain ⟨⟨⟨letter, -⟩, digits⟩, -⟩ := found
    have tail : rest.all isLiteral := by
      apply all_of_sign
      rw [List.all_eq_true] at digits ⊢
      intro digit member
      simp [isLiteral, digits digit member]
    rcases letter with rfl | rfl
    · exact tail
    · exact tail

theorem all_of_places {text : List Char} (rest : (places text).2.all isLiteral) :
    text.all isLiteral := by
  unfold places at rest
  split at rest
  next after =>
    have digits := all_takeWhile_isDigit after
    have whole := List.takeWhile_append_dropWhile (p := Char.isDigit) (l := after)
    rw [← whole, List.all_cons, List.all_append, digits]
    exact rest
  next => exact rest

theorem all_of_read? {text : List Char} {number : Decimal} (found : read? text = some number) :
    text.all isLiteral := by
  simp only [read?, Option.ite_none_left_eq_some] at found
  obtain ⟨exponent, tail, -⟩ := Option.map_eq_some_iff.1 found.2
  apply all_of_sign
  have whole := List.takeWhile_append_dropWhile (p := Char.isDigit) (l := (sign text).2)
  rw [← whole, List.all_append, all_takeWhile_isDigit, Bool.true_and]
  exact all_of_places (all_of_exponent? tail)

end Decimal

theorem all_of_real? {text : List Char} {value : Binary64} (reads : real? text = some value) :
    text.all Decimal.isLiteral := by
  obtain ⟨number, found, -⟩ := Option.bind_eq_some_iff.1 reads
  exact Decimal.all_of_read? found

end CardSearch.Number
