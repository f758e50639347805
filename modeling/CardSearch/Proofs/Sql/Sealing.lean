import CardSearch.Proofs.Sql.ConditionText

/-!
No part of the condition of a leaf reads as a condition of its own. So a text that is made of such
conditions has one reading.
-/

namespace CardSearch.Sql

namespace Expression

open Condition Piece

variable {IsCondition : List Symbol → Prop}

theorem operand_of_balanced {level : Level} {text : List Symbol} {expression : Expression}
    (reads : Reads IsCondition level text expression)
    (balanced : Balanced Level.operand.bars text) : Reads IsCondition .operand text expression := by
  induction reads with
  | condition is single => exact .condition is single
  | truth value => exact .truth value
  | group inner => exact .group inner
  | known inner => exact .known inner
  | operand _ ih | negation _ ih | conjunction _ ih => exact ih balanced
  | not => exact absurd balanced (not_balanced_not _)
  | and front | or front =>
    exact absurd balanced (not_balanced_around (balanced_of_reads front) rfl)

/-- Texts that begin like the inner part of a condition. No reading does. -/
def beginsInside : List Symbol → Bool
  | [] => true
  | .word first :: _ => first = "c.due".toList || first = "c.card_type".toList
  | _ :: _ => false

theorem beginsInside_append {front : List Symbol} (outside : beginsInside front = false)
    (last : List Symbol) : beginsInside (front ++ last) = false := by
  cases front with
  | nil => cases outside
  | cons first rest => cases first <;> exact outside

theorem beginsInside_of_shaped {text : List Symbol} (shaped : Shaped text) :
    beginsInside text = false := by
  rcases shaped with begins | ⟨slot, rfl | rfl⟩
  · unfold mayBegin at begins
    split at begins
    · rfl
    · simp only [Bool.and_eq_true, bne_iff_ne, ne_eq] at begins
      simp only [beginsInside, Bool.or_eq_false_iff, decide_eq_false_iff_not]
      exact begins.1
    · cases begins
  · rfl
  · rfl

theorem beginsInside_of_reads (shaped : ∀ text, IsCondition text → Shaped text) {level : Level}
    {text : List Symbol} {expression : Expression}
    (reads : Reads IsCondition level text expression) : beginsInside text = false := by
  induction reads with
  | condition is => exact beginsInside_of_shaped (shaped _ is)
  | truth | group | known | not => rfl
  | operand _ ih | negation _ ih | conjunction _ ih => exact ih
  | and _ _ front | or _ _ front => exact beginsInside_append front _

theorem not_shaped_belowText (slot : List Char) : ¬Shaped (belowText slot) := by
  rintro (begins | ⟨_, same | same⟩)
  · have never : mayBegin (belowText slot) = false := rfl
    rw [never] at begins
    cases begins
  · simp [belowText, pathText] at same
  · simp [belowText, subtreeText] at same

/-- Of the two comparisons with a path the second is no condition. -/
theorem not_reads_paths (shaped : ∀ text, IsCondition text → Shaped text) (slot : List Char)
    (expression : Expression) :
    ¬Reads IsCondition .disjunction (pathText slot ++ .or :: belowText slot) expression := by
  have path : Balanced Level.disjunction.bars (pathText slot) := rfl
  have below : Balanced Level.operand.bars (belowText slot) := rfl
  intro reads
  generalize same : pathText slot ++ .or :: belowText slot = text at reads
  cases reads with
  | conjunction alone =>
    rw [← same] at alone
    exact not_balanced_around path rfl (balanced_of_reads alone)
  | or front last =>
    obtain ⟨-, rfl⟩ := split_unique path (balanced_of_reads front)
      (below.weaken fun _ barred => Level.bars_operand (Level.bars_negation barred))
      (balanced_of_reads last) rfl rfl same
    cases operand_of_balanced last below with
    | condition is => exact not_shaped_belowText slot (shaped _ is)

theorem sealed_of_shaped (shaped : ∀ text, IsCondition text → Shaped text) :
    Sealed IsCondition := by
  intro text expression is reads
  cases reads with
  | condition => rfl
  | truth value => simpa [Shaped, mayBegin, pathText, subtreeText] using shaped _ is
  | known => simpa [Shaped, mayBegin, pathText, subtreeText] using shaped _ is
  | @group inner _ reads =>
    rcases shaped _ is with begins | ⟨slot, same | same⟩
    · have outside := beginsInside_of_reads shaped reads
      cases inner with
      | nil => cases begins
      | cons first rest =>
        cases first with
        | word => exact absurd (outside.symm.trans begins) Bool.false_ne_true
        | _ => cases begins
    · simp [pathText] at same
    · simp only [subtreeText, List.cons.injEq, List.append_cancel_right_eq, true_and] at same
      rw [same] at reads
      exact absurd reads (not_reads_paths shaped slot expression)

end Expression

end CardSearch.Sql
