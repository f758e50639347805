import CardSearch.Proofs.Sql.Rendering

/-!
How the expression of a whole word is read. It is written in two passes: all special characters are
escaped, and the escaped stars are replaced by runs of word characters. No star stands in the
escaped text without a backslash of its own, so the second pass meets the stars of the word alone,
also behind backslashes; every character of the word becomes one atom of the expression.
-/

namespace CardSearch.Text

/-- Writes `new` for every occurrence of a text that is not empty. Occurrences are found from left to
right and do not overlap. -/
def replaced (old new : List Char) : List Char → List Char
  | [] => []
  | character :: rest =>
    if old <+: character :: rest then new ++ replaced old new (rest.drop (old.length - 1))
    else character :: replaced old new rest
termination_by text => text.length
decreasing_by all_goals grind

theorem replaced_cons_of_not_prefix {old : List Char} {character : Char} {rest : List Char}
    (apart : ¬old <+: character :: rest) (new : List Char) :
    replaced old new (character :: rest) = character :: replaced old new rest := by
  rw [replaced, if_neg apart]

theorem replaced_append {first : Char} (others new rest : List Char) :
    replaced (first :: others) new (first :: others ++ rest) =
      new ++ replaced (first :: others) new rest := by
  have found : first :: others <+: first :: (others ++ rest) := List.prefix_append _ rest
  rw [List.cons_append, replaced, if_pos found]
  simp

end CardSearch.Text

namespace CardSearch.Sql.WholeWord

inductive Atom where
  | literal (character : Char)
  /-- Any run of word characters. -/
  | run
  deriving DecidableEq, Repr

/-- Reads an expression from left to right. There is no reading if it ends with a backslash that
takes no character with it. -/
def atoms? : List Char → Option (List Atom)
  | [] => some []
  | '\\' :: 'w' :: '*' :: rest => (atoms? rest).map (.run :: ·)
  | '\\' :: escaped :: rest => (atoms? rest).map (.literal escaped :: ·)
  | ['\\'] => none
  | character :: rest => (atoms? rest).map (.literal character :: ·)

def Atom.ofChar (character : Char) : Atom :=
  if character = '*' then .run else .literal character

def escaped (word : List Char) : List Char :=
  word.flatMap fun character => if isSpecial character then ['\\', character] else [character]

theorem head?_escaped_ne_star (word : List Char) : (escaped word).head? ≠ some '*' := by
  cases word with
  | nil => simp [escaped]
  | cons character rest =>
    rw [escaped, List.flatMap_cons]
    split
    next special => simp
    next ordinary =>
      rintro star
      obtain rfl := Option.some.inj star
      exact ordinary (by decide)

/-- Wherever an escaped text goes on, the second pass finds no star to replace in front of it. -/
theorem not_prefix_escaped (character : Char) (word : List Char) :
    ¬['\\', '*'] <+: character :: escaped word := by
  rintro ⟨rest, same⟩
  obtain ⟨-, behind⟩ := List.cons.inj same
  exact head?_escaped_ne_star word (by rw [← behind]; rfl)

theorem escaped_cons (character : Char) (word : List Char) :
    escaped (character :: word) =
      if isSpecial character then '\\' :: character :: escaped word
      else character :: escaped word := by
  rw [escaped, List.flatMap_cons]
  split <;> rfl

/-- The second pass replaces the stars of the word. -/
theorem replaced_escaped (word : List Char) :
    Text.replaced ['\\', '*'] ['\\', 'w', '*'] (escaped word) = word.flatMap item := by
  induction word with
  | nil => simp [escaped, Text.replaced]
  | cons character word ih =>
    have own := Text.replaced_cons_of_not_prefix (not_prefix_escaped character word)
    rw [escaped_cons, List.flatMap_cons, item, ← ih]
    by_cases star : character = '*'
    · subst star
      exact Text.replaced_append ['*'] ['\\', 'w', '*'] (escaped word)
    by_cases special : isSpecial character
    · have backslash : ¬['\\', '*'] <+: '\\' :: character :: escaped word := by
        simp [Ne.symm star]
      rw [if_pos special, if_neg star, if_pos special,
        Text.replaced_cons_of_not_prefix backslash, own]
      rfl
    · rw [if_neg special, if_neg star, if_neg special, own]
      rfl

theorem atoms?_item_append (character : Char) (rest : List Char) :
    atoms? (item character ++ rest) = (atoms? rest).map (.ofChar character :: ·) := by
  unfold item Atom.ofChar
  split
  next star => rfl
  next other =>
    split
    next special =>
      have letter : character ≠ 'w' := by
        rintro rfl
        exact absurd special (by decide)
      rw [List.cons_append, List.singleton_append, atoms?]
      exact fun _ same => absurd same letter
    next ordinary =>
      have unescaped : character ≠ '\\' := by
        rintro rfl
        exact ordinary (by decide)
      rw [List.singleton_append, atoms?]
      · exact fun _ same => absurd same unescaped
      · exact fun _ _ same => absurd same unescaped
      · exact fun same => absurd same unescaped

theorem atoms?_flatMap_item (word : List Char) :
    atoms? (word.flatMap item) = some (word.map .ofChar) := by
  induction word with
  | nil => rfl
  | cons character word ih =>
    rw [List.flatMap_cons, atoms?_item_append, ih]
    rfl

example : "a\\*".toList.flatMap item = "a\\\\\\w*".toList ∧
    atoms? "a\\\\\\w*".toList = some [.literal 'a', .literal '\\', .run] := by
  decide +kernel

end CardSearch.Sql.WholeWord

namespace CardSearch.Sql.Predicate

open Condition

/-- The expression that is bound for a word is what the two passes make of the word between the
marks for its ends, and it has one atom for every character of the word: a run for a star and the
character itself for any other. -/
theorem atoms_of_wholeWord (offset : Nat) (word : String) :
    ∃ head body pattern,
      (ofFilter offset (.leaf (.wholeWord word))).sql =
          head ++ "f.value ~* " ++ placeholder offset 0 ++ ")" ∧
        (ofFilter offset (.leaf (.wholeWord word))).params = [.text pattern] ∧
        pattern.toList = ['\\', 'm'] ++ body ++ ['\\', 'M'] ∧
        body = Text.replaced ['\\', '*'] ['\\', 'w', '*'] (WholeWord.escaped word.toList) ∧
        WholeWord.atoms? body = some (word.toList.map fun character =>
          if character = '*' then .run else .literal character) := by
  obtain ⟨head, text⟩ := render_someField offset none valueMatches (WholeWord.pattern word)
  refine ⟨head, word.toList.flatMap WholeWord.item, WholeWord.pattern word, ?_, rfl, ?_,
    (WholeWord.replaced_escaped word.toList).symm, ?_⟩
  · rw [ofFilter, ofCondition, ofLeaf, text]
    simp [valueMatches, Piece.render, String.append_assoc]
  · simp [WholeWord.pattern]
  · rw [WholeWord.atoms?_flatMap_item]
    rfl

end CardSearch.Sql.Predicate
