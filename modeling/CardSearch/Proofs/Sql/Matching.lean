import CardSearch.Sql.Like
import Mathlib.Data.List.Infix

/-!
What a pattern of `LIKE` matches. Characters are compared as `fold` leaves them: a comparison that
does not see the letter case, `ILIKE`, folds letters that differ only in it to the same one. Behind
an escape all characters of a text stand for themselves.
-/

namespace CardSearch.Sql.Like

inductive Item where
  | literal (character : Char)
  /-- Any one character. -/
  | one
  /-- Any run of characters. -/
  | run
  deriving DecidableEq, Repr

/-- Reads a pattern. There is none if it ends with a backslash that takes no meaning away. -/
def items? : List Char → Option (List Item)
  | [] => some []
  | character :: rest =>
    if character = '\\' then
      match rest with
      | [] => none
      | escaped :: rest => (items? rest).map (.literal escaped :: ·)
    else if character = '%' then (items? rest).map (.run :: ·)
    else if character = '_' then (items? rest).map (.one :: ·)
    else (items? rest).map (.literal character :: ·)

def fits (fold : Char → Char) : List Item → List Char → Bool
  | [], text => text.isEmpty
  | .run :: items, text => text.tails.any (fits fold items)
  | .one :: items, _ :: text => fits fold items text
  | .literal wanted :: items, found :: text => fold found = fold wanted && fits fold items text
  | .one :: _, [] | .literal _ :: _, [] => false

def matched (fold : Char → Char) (pattern text : List Char) : Bool :=
  (items? pattern).any fun items => fits fold items text

def Same (fold : Char → Char) (text other : List Char) : Prop :=
  text.map fold = other.map fold

def Begins (fold : Char → Char) (text front : List Char) : Prop :=
  front.map fold <+: text.map fold

theorem items?_ordinary {character : Char} (ordinary : isSpecial character = false)
    (rest : List Char) :
    items? (character :: rest) = (items? rest).map (.literal character :: ·) := by
  simp only [isSpecial, Bool.or_eq_false_iff, beq_eq_false_iff_ne] at ordinary
  obtain ⟨⟨backslash, percent⟩, underscore⟩ := ordinary
  rw [items?.eq_def]
  simp only [backslash, percent, underscore, if_false]

theorem items?_escapeChars_append (text pattern : List Char) :
    items? (escapeChars text ++ pattern) =
      (items? pattern).map (text.map Item.literal ++ ·) := by
  induction text with
  | nil => simp [escapeChars]
  | cons character text ih =>
    cases special : isSpecial character with
    | true =>
      rw [escapeChars, if_pos special, List.cons_append, List.cons_append, items?.eq_def]
      simp [ih, Function.comp_def]
    | false =>
      rw [escapeChars, special, if_neg Bool.false_ne_true, List.cons_append,
        items?_ordinary special, ih]
      simp [Function.comp_def]

theorem escapeChars_append (front last : List Char) :
    escapeChars (front ++ last) = escapeChars front ++ escapeChars last := by
  induction front with
  | nil => rfl
  | cons character front ih =>
    rw [List.cons_append, escapeChars, escapeChars, ih]
    split <;> rfl

variable (fold : Char → Char)

theorem same_append_iff (base more : List Char) : Same fold (base ++ more) base ↔ more = [] := by
  simp [Same]

theorem begins_append_iff (base more front : List Char) :
    Begins fold (base ++ more) (base ++ front) ↔ Begins fold more front := by
  simp only [Begins, List.map_append, List.prefix_append_right_inj]

theorem fits_literals_append (wanted : List Char) (items : List Item) (text : List Char) :
    fits fold (wanted.map Item.literal ++ items) text ↔
      ∃ front rest, text = front ++ rest ∧ Same fold front wanted ∧ fits fold items rest := by
  induction wanted generalizing text with
  | nil =>
    constructor
    · intro whole
      exact ⟨[], text, rfl, rfl, whole⟩
    · rintro ⟨front, rest, rfl, same, whole⟩
      obtain rfl := List.map_eq_nil_iff.1 same
      exact whole
  | cons character wanted ih =>
    cases text with
    | nil =>
      constructor
      · intro whole
        simp [fits] at whole
      · rintro ⟨front, rest, nothing, same, -⟩
        obtain ⟨rfl, rfl⟩ := List.append_eq_nil_iff.1 nothing.symm
        simp [Same] at same
    | cons found text =>
      simp only [List.map_cons, List.cons_append, fits, Bool.and_eq_true, decide_eq_true_eq, ih]
      constructor
      · rintro ⟨here, front, rest, rfl, same, whole⟩
        exact ⟨found :: front, rest, rfl, congrArg₂ List.cons here same, whole⟩
      · rintro ⟨front, rest, split, same, whole⟩
        cases front with
        | nil => simp [Same] at same
        | cons first front =>
          obtain ⟨rfl, rfl⟩ := List.cons.inj split
          obtain ⟨here, later⟩ := List.cons.inj same
          exact ⟨here, front, rest, rfl, later, whole⟩

theorem fits_run (text : List Char) : fits fold [.run] text := by
  have ends : [] ∈ text.tails := (List.mem_tails _ _).2 List.nil_suffix
  exact List.any_eq_true.2 ⟨[], ends, rfl⟩

/-- An escaped text is a pattern for itself alone. -/
theorem matched_escapeChars (text wanted : List Char) :
    matched fold (escapeChars wanted) text ↔ Same fold text wanted := by
  have items := items?_escapeChars_append wanted []
  rw [List.append_nil] at items
  rw [matched, items]
  simp only [items?, Option.map_some, Option.any_some, fits_literals_append]
  constructor
  · rintro ⟨front, rest, rfl, same, nothing⟩
    obtain rfl : rest = [] := List.isEmpty_iff.1 nothing
    simpa using same
  · intro same
    exact ⟨text, [], by simp, same, rfl⟩

/-- An escaped text in front of a percent sign is a pattern for the texts that begin with it. -/
theorem matched_escapeChars_run (text wanted : List Char) :
    matched fold (escapeChars wanted ++ ['%']) text ↔ Begins fold text wanted := by
  have run : items? ['%'] = some [.run] := by decide
  rw [matched, items?_escapeChars_append, run]
  simp only [Option.map_some, Option.any_some, fits_literals_append, fits_run, and_true]
  constructor
  · rintro ⟨front, rest, rfl, same⟩
    rw [Begins, ← same, List.map_append]
    exact List.prefix_append _ _
  · rintro ⟨rest, split⟩
    obtain ⟨front, last, rfl, same, -⟩ := List.map_eq_append_iff.1 split.symm
    exact ⟨front, last, rfl, same⟩

example : matched Char.toLower (escapeChars ['a', '_'] ++ ['%']) ['A', '_', 'x'] = true ∧
    matched Char.toLower (escapeChars ['a', '_'] ++ ['%']) ['A', 'b', 'x'] = false := by
  decide

end CardSearch.Sql.Like
