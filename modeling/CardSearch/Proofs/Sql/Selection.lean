import CardSearch.Proofs.Query.Leaves
import CardSearch.Proofs.Sql.Rendering
import CardSearch.Proofs.Sql.Sealing

/-!
The predicate of a filter, read as SQL, is true for the cards that pass the filter. A condition that
is unknown counts as failed, also below negations, so a filter and its negation never agree.
-/

namespace CardSearch.Sql

open CardSearch.Query Expression

def conditionTexts (offset : Nat) : List Leaf → List (List Symbol)
  | [] => []
  | leaf :: rest =>
    Condition.symbols offset leaf ::
      conditionTexts (offset + (Condition.ofLeaf leaf).params.length) rest

theorem conditionTexts_append (offset : Nat) (front last : List Leaf) :
    conditionTexts offset (front ++ last) = conditionTexts offset front ++
      conditionTexts
        (offset + (front.flatMap fun leaf => (Condition.ofLeaf leaf).params).length) last := by
  induction front generalizing offset with
  | nil => rfl
  | cons leaf front ih => simp [conditionTexts, ih, Nat.add_assoc]

def IsLeafCondition (text : List Symbol) : Prop :=
  ∃ offset leaf, text = Condition.symbols offset leaf

theorem sealed_isLeafCondition : Sealed IsLeafCondition := by
  apply sealed_of_shaped
  rintro text ⟨offset, leaf, rfl⟩
  exact Condition.shaped_symbols offset leaf

namespace Predicate

def Says (sql : String) (expression : Expression) : Prop :=
  Reads IsLeafCondition .disjunction (Symbol.read sql.toList) expression

theorem says_unique {sql : String} {first second : Expression} (one : Says sql first)
    (another : Says sql second) : first = second :=
  reads_unique sealed_isLeafCondition one another rfl

def expression (offset : Nat) : Filter → Expression
  | .all => .truth true
  | .leaf leaf => .condition (Condition.symbols offset leaf)
  | .and left right =>
    .and (expression offset left)
      (expression (offset + (ofFilter offset left).params.length) right)
  | .or left right =>
    .or (expression offset left)
      (expression (offset + (ofFilter offset left).params.length) right)
  | .not operand => .not (.known (expression offset operand))

section

open CardSearch.Sql.Symbol

variable {left right operand : Predicate}

theorem read_both (front : Complete left.sql.toList) (last : Complete right.sql.toList)
    {connective : String} (word : Complete connective.toList) :
    Complete (both connective left right).sql.toList ∧
      Symbol.read (both connective left right).sql.toList =
        .opening :: (Symbol.read left.sql.toList ++ [.closing]) ++
          (Symbol.read connective.toList ++
            .opening :: (Symbol.read right.sql.toList ++ [.closing])) := by
  have opens : separator? '(' = some [.opening] := by decide
  have closes : separator? ')' = some [.closing] := by decide
  have blank : separator? ' ' = some [] := by decide
  rw [toList_both]
  constructor
  · apply complete_append_separator complete_nil opens
    apply complete_append_separator front closes
    apply complete_append_separator complete_nil blank
    apply complete_append_separator word blank
    apply complete_append_separator complete_nil opens
    exact complete_append_separator last closes complete_nil
  · rw [read_separator opens, read_append_separator front closes, read_separator blank,
      read_append_separator word blank, read_separator opens, read_append_separator last closes]
    simp

theorem read_negation (inner : Complete operand.sql.toList) :
    Complete (negation operand).sql.toList ∧
      Symbol.read (negation operand).sql.toList =
        .not :: .coalesce :: .opening ::
          (.opening :: (Symbol.read operand.sql.toList ++ [.closing]) ++
            [.comma, .truth false, .closing]) := by
  have opens : separator? '(' = some [.opening] := by decide
  have closes : separator? ')' = some [.closing] := by decide
  have word : Complete "NOT COALESCE".toList := ⟨"COALESCE".toList, by decide +kernel⟩
  have end_ : Complete ", FALSE)".toList := ⟨[], by decide +kernel⟩
  have front : Symbol.read "NOT COALESCE".toList = [.not, .coalesce] := by decide +kernel
  have back : Symbol.read ", FALSE)".toList = [.comma, .truth false, .closing] := by decide +kernel
  rw [toList_negation]
  constructor
  · apply complete_append_separator word opens
    apply complete_append_separator complete_nil opens
    exact complete_append_separator inner closes end_
  · rw [read_append_separator word opens, read_separator opens, read_append_separator inner closes,
      front, back]
    simp

theorem says_both {first second : Expression} (front : Complete left.sql.toList)
    (last : Complete right.sql.toList) (saysFirst : Says left.sql first)
    (saysSecond : Says right.sql second) :
    Says (both "AND" left right).sql (.and first second) ∧
      Says (both "OR" left right).sql (.or first second) := by
  have and : Symbol.read "AND".toList = [.and] := by decide +kernel
  have or : Symbol.read "OR".toList = [.or] := by decide +kernel
  have one := Reads.operand (.group saysFirst)
  have other := Reads.operand (.group saysSecond)
  constructor
  · rw [Says, (read_both front last ⟨"AND".toList, by decide +kernel⟩).2, and]
    exact .conjunction (.and (.negation one) other)
  · rw [Says, (read_both front last ⟨"OR".toList, by decide +kernel⟩).2, or]
    exact .or (.conjunction (.negation one)) (.negation other)

theorem says_negation {inner : Expression} (complete : Complete operand.sql.toList)
    (meaning : Says operand.sql inner) : Says (negation operand).sql (.not (.known inner)) := by
  have group := Reads.conjunction (.negation (.operand (.group meaning)))
  rw [Says, (read_negation complete).2]
  exact .conjunction (.negation (.not (.operand (.known group))))

end

theorem complete_sql (offset : Nat) (filter : Filter) :
    Symbol.Complete (ofFilter offset filter).sql.toList := by
  induction filter generalizing offset with
  | all =>
    have ends : (Symbol.scan (.word []) "TRUE".toList).2 = .word "TRUE".toList := by decide +kernel
    exact ⟨_, ends⟩
  | leaf leaf => exact (Condition.read_render offset leaf).1
  | and left right ihLeft ihRight =>
    exact (read_both (ihLeft _) (ihRight _) ⟨"AND".toList, by decide +kernel⟩).1
  | or left right ihLeft ihRight =>
    exact (read_both (ihLeft _) (ihRight _) ⟨"OR".toList, by decide +kernel⟩).1
  | not operand ih => exact (read_negation (ih offset)).1

theorem says_expression (offset : Nat) (filter : Filter) :
    Says (ofFilter offset filter).sql (expression offset filter) := by
  induction filter generalizing offset with
  | all =>
    have truth : Symbol.read "TRUE".toList = [.truth true] := by decide +kernel
    rw [Says, ofFilter, truth]
    exact .conjunction (.negation (.operand (.truth true)))
  | leaf leaf =>
    have balanced := Condition.balanced_symbols offset leaf
    exact .conjunction (.negation (.operand (.condition ⟨offset, leaf, rfl⟩ balanced)))
  | and left right ihLeft ihRight =>
    exact (says_both (complete_sql _ left) (complete_sql _ right) (ihLeft _) (ihRight _)).1
  | or left right ihLeft ihRight =>
    exact (says_both (complete_sql _ left) (complete_sql _ right) (ihLeft _) (ihRight _)).2
  | not operand ih => exact says_negation (complete_sql offset operand) (ih offset)

theorem conditions_expression (offset : Nat) (filter : Filter) :
    (expression offset filter).conditions = conditionTexts offset filter.leaves := by
  induction filter generalizing offset with
  | all | leaf => rfl
  | and left right ihLeft ihRight | or left right ihLeft ihRight =>
    rw [expression, conditions, ihLeft, ihRight, params_eq, Filter.leaves, conditionTexts_append]
  | not operand ih => exact ih offset

theorem length_conditions (offset : Nat) (filter : Filter) :
    (expression offset filter).conditions.length = filter.leaves.length := by
  induction filter generalizing offset with
  | all | leaf => rfl
  | and left right ihLeft ihRight | or left right ihLeft ihRight =>
    simp [expression, conditions, Filter.leaves, ihLeft, ihRight]
  | not operand ih => exact ih offset

theorem isYes_expression (offset : Nat) (filter : Filter) (values : Nat → Truth) :
    ((expression offset filter).value values).isYes =
      filter.holds fun index => (values index).isYes := by
  induction filter generalizing offset values with
  | all | leaf => rfl
  | and left right ihLeft ihRight | or left right ihLeft ihRight =>
    simp [expression, value, Filter.holds, ihLeft, ihRight, length_conditions]
  | not operand ih => simp [expression, value, Filter.holds, ih]

/-- The predicate of a filter reads as one expression over the conditions of the leaves. Whatever
the values of these conditions, it is true exactly if the filter holds with the unknown conditions
failed; so of a filter and its negation exactly one is true. -/
theorem says_iff_holds (offset : Nat) (filter : Filter) :
    ∃ expression, Says (ofFilter offset filter).sql expression ∧
      (∀ other, Says (ofFilter offset filter).sql other → other = expression) ∧
      expression.conditions = conditionTexts offset filter.leaves ∧
      (∀ values, expression.value values = .yes ↔
        filter.holds (fun index => (values index).isYes) = true) ∧
      ∀ negated, Says (ofFilter offset (.not filter)).sql negated →
        ∀ values, expression.value values = .yes ↔ negated.value values ≠ .yes := by
  have meaning := says_expression offset filter
  refine ⟨_, meaning, fun other another => says_unique another meaning,
    conditions_expression offset filter, ?_, ?_⟩
  · intro values
    rw [← Truth.isYes_iff, isYes_expression]
  · intro negated saysNegated values
    rw [says_unique saysNegated (says_expression offset (.not filter)), ne_eq, ← Truth.isYes_iff,
      ← Truth.isYes_iff, isYes_expression, isYes_expression, Filter.holds]
    cases filter.holds fun index => (values index).isYes <;> simp

end Predicate

end CardSearch.Sql
