import CardSearch.Proofs.Number.Numeral
import CardSearch.Proofs.Query.Writing

/-!
The parts of a clause, and the values of the clauses with whole numbers: flags from 0 to 7, and
windows of days. A value is taken exactly if it is one of its grammar, with the number that its
digits stand for.
-/

namespace CardSearch.Query

open CardSearch.Number (IsNumeral)

theorem splitColon?_eq_some_iff {word name value : List Char} :
    splitColon? word = some (name, value) ↔ word = clause name value ∧ ':' ∉ name := by
  induction word generalizing name with
  | nil => simp [splitColon?, clause]
  | cons character word ih =>
    rw [splitColon?]
    split
    next colon =>
      cases name with
      | nil => simp [clause, colon]
      | cons first name =>
        simp only [Option.some.injEq, Prod.mk.injEq, clause, List.cons_append, List.cons.injEq]
        grind
    next other =>
      cases name with
      | nil => simp [clause, other]
      | cons first name =>
        simp only [Option.map_eq_some_iff, clause, List.cons_append, List.cons.injEq] at ih ⊢
        grind

theorem splitColon?_clause {name : List Char} (whole : ':' ∉ name) (value : List Char) :
    splitColon? (clause name value) = some (name, value) :=
  splitColon?_eq_some_iff.2 ⟨rfl, whole⟩

theorem splitColon?_eq_none_iff {word : List Char} : splitColon? word = none ↔ ':' ∉ word := by
  induction word with
  | nil => simp [splitColon?]
  | cons character word ih =>
    by_cases colon : character = ':'
    · simp [splitColon?, colon]
    · simp [splitColon?, colon, ih, Ne.symm colon]

def IsFlag (value : List Char) (leaf : Leaf) : Prop :=
  ∃ number ≤ 7, IsNumeral value number ∧ leaf = .flag number

def IsDayCount (text : List Char) (days : Nat) : Prop :=
  IsNumeral text days ∧ days ≤ 2 ^ 32 - 1

/-- The values of a clause for a window of days. Only a rated one may have a button behind the
days. -/
inductive IsWindow : WindowKind → List Char → Leaf → Prop where
  | days {kind : WindowKind} {text : List Char} {days : Nat} (count : IsDayCount text days) :
      IsWindow kind text (.date ⟨kind, days, none⟩)
  | rated {text mark : List Char} {days : Nat} {rating : Rating} (count : IsDayCount text days)
      (button : IsNumeral mark rating.number) :
      IsWindow .rated (text ++ ':' :: mark) (.date ⟨.rated, days, some rating⟩)

theorem colon_not_mem_of_isNumeral {text : List Char} {number : Nat}
    (numeral : IsNumeral text number) : ':' ∉ text :=
  fun colon => absurd (List.all_eq_true.1 numeral.digits ':' colon) (by decide)

theorem Rating.ofNumber?_eq_some_iff {number : Nat} {rating : Rating} :
    ofNumber? number = some rating ↔ number = rating.number := by
  constructor
  · intro found
    have same := List.find?_some found
    exact (beq_iff_eq.1 same).symm
  · rintro rfl
    cases rating <;> rfl

namespace Leaf

theorem readFlag_eq_ok_iff {value : List Char} {leaf : Leaf} :
    readFlag value = .ok leaf ↔ IsFlag value leaf := by
  unfold readFlag IsFlag
  constructor
  · intro reads
    split at reads
    next number found =>
      cases reads
      obtain ⟨numeral, small⟩ := Number.numeral?_eq_some_iff.1 found
      exact ⟨number, Nat.le_of_lt_succ small, numeral, rfl⟩
    next => cases reads
  · rintro ⟨number, small, numeral, rfl⟩
    rw [Number.numeral?_eq_some_iff.2 ⟨numeral, Nat.lt_succ_of_le small⟩]

theorem readDays_eq_ok_iff {kind : WindowKind} {text : List Char} {days : Nat} :
    readDays kind text = .ok days ↔ IsDayCount text days := by
  have bound : Number.twoTo 32 = 2 ^ 32 - 1 + 1 := by decide
  unfold readDays IsDayCount
  rw [← Nat.lt_succ_iff, Nat.succ_eq_add_one, ← bound, ← Number.numeral?_eq_some_iff]
  cases Number.numeral? (Number.twoTo 32) text <;> simp

theorem readRating_eq_ok_iff {text : List Char} {rating : Rating} :
    readRating text = .ok rating ↔ IsNumeral text rating.number := by
  have small : rating.number < 5 := by cases rating <;> decide
  have found : (Number.numeral? 5 text).bind Rating.ofNumber? = some rating ↔
      IsNumeral text rating.number := by
    simp only [Option.bind_eq_some_iff, Rating.ofNumber?_eq_some_iff, exists_eq_right,
      Number.numeral?_eq_some_iff, small, and_true]
  rw [← found, readRating]
  cases (Number.numeral? 5 text).bind Rating.ofNumber? <;> simp

theorem readDate_eq_ok_iff {kind : WindowKind} {value : List Char} {leaf : Leaf} :
    readDate kind value = .ok leaf ↔ IsWindow kind value leaf := by
  constructor
  · intro reads
    unfold readDate at reads
    split at reads
    next =>
      obtain ⟨days, count, rfl⟩ := Fallible.map_eq_ok_iff.1 reads
      exact .days (readDays_eq_ok_iff.1 count)
    next days rating parts =>
      obtain ⟨rfl, -⟩ := splitColon?_eq_some_iff.1 parts
      split at reads
      next rated =>
        obtain ⟨rfl, -⟩ := rated
        obtain ⟨days, count, reads⟩ := Fallible.bind_eq_ok_iff.1 reads
        obtain ⟨rating, button, same⟩ := Fallible.bind_eq_ok_iff.1 reads
        cases same
        exact .rated (readDays_eq_ok_iff.1 count) (readRating_eq_ok_iff.1 button)
      next => cases reads
  · intro window
    cases window with
    | days count =>
      have whole := splitColon?_eq_none_iff.2 (colon_not_mem_of_isNumeral count.1)
      rw [readDate, whole, readDays_eq_ok_iff.2 count]
      rfl
    | @rated text mark days rating count button =>
      have parts := splitColon?_clause (colon_not_mem_of_isNumeral count.1) mark
      have last := colon_not_mem_of_isNumeral button
      rw [clause] at parts
      rw [readDate, parts]
      simp only [last, not_false_eq_true, and_self, ↓reduceIte]
      rw [readDays_eq_ok_iff.2 count, readRating_eq_ok_iff.2 button]
      rfl

end Leaf

end CardSearch.Query
