import CardSearch.Proofs.Sql.OnePass

/-!
Predicates behind more bound values. Only the numbers of the placeholders change, all by the same
amount, so a predicate can be written behind any values once it is known behind some.
-/

namespace CardSearch.Sql

open CardSearch.Query

namespace Placeholder

/-- The digits of the number that comes in place of a numeral. What is no ASCII numeral is left as it
is. -/
def renumberDigits (next : Nat → Nat) (digits : List Char) : List Char :=
  if !digits.isEmpty && digits.all Char.isDigit then Nat.toDigits 10 (next (Number.value digits))
  else digits

def renumber (next : Nat → Nat) : List Char → List Char
  | [] => []
  | character :: rest =>
    if character = '$' then
      '$' :: (renumberDigits next (rest.takeWhile Text.isDecimalDigit) ++
        renumber next (rest.dropWhile Text.isDecimalDigit))
    else character :: renumber next rest
termination_by text => text.length
decreasing_by
  · have shorter := (List.dropWhile_sublist (l := rest) Text.isDecimalDigit).length_le
    rw [List.length_cons]
    omega
  · exact Nat.lt_succ_self _

variable {next : Nat → Nat} {front last : List Char}

theorem renumber_nil : renumber next [] = [] := by
  rw [renumber]

theorem dropWhile_append_of_endsNumber (front : List Char) (apart : endsNumber last) :
    (front ++ last).dropWhile Text.isDecimalDigit =
      front.dropWhile Text.isDecimalDigit ++ last := by
  have digits := takeWhile_append_of_endsNumber front apart
  have whole := List.takeWhile_append_dropWhile (p := Text.isDecimalDigit) (l := front ++ last)
  have alone := List.takeWhile_append_dropWhile (p := Text.isDecimalDigit) (l := front)
  have same : front.takeWhile Text.isDecimalDigit ++ (front ++ last).dropWhile Text.isDecimalDigit =
      front.takeWhile Text.isDecimalDigit ++ (front.dropWhile Text.isDecimalDigit ++ last) := by
    rw [← List.append_assoc, alone, ← digits, whole]
  exact List.append_cancel_left same

theorem renumber_cons {character : Char} (other : character ≠ '$') (rest : List Char) :
    renumber next (character :: rest) = character :: renumber next rest := by
  rw [renumber, if_neg other]

theorem renumber_append (front : List Char) (apart : endsNumber last) :
    renumber next (front ++ last) = renumber next front ++ renumber next last := by
  -- Only a run of digits could reach over the seam, and none begins behind it.
  fun_induction renumber next front with
  | case1 => rfl
  | case2 rest ih =>
    rw [List.cons_append, renumber, if_pos rfl, takeWhile_append_of_endsNumber rest apart,
      dropWhile_append_of_endsNumber rest apart, ih]
    simp
  | case3 character rest other ih => rw [List.cons_append, renumber_cons other, ih, List.cons_append]

theorem renumber_append_of_not_mem (plain : '$' ∉ front) (last : List Char) :
    renumber next (front ++ last) = front ++ renumber next last := by
  induction front with
  | nil => rfl
  | cons character front ih =>
    rw [List.mem_cons, not_or] at plain
    rw [List.cons_append, renumber_cons (Ne.symm plain.1), ih plain.2, List.cons_append]

theorem renumber_of_not_mem {text : List Char} (plain : '$' ∉ text) : renumber next text = text := by
  rw [← List.append_nil text, renumber_append_of_not_mem plain, renumber_nil]

theorem renumberDigits_toDigits (next : Nat → Nat) (number : Nat) :
    renumberDigits next (Nat.toDigits 10 number) = Nat.toDigits 10 (next number) := by
  have digits := Number.all_isDigit_toDigits number
  have some : Nat.toDigits 10 number ≠ [] := Nat.toDigits_ne_nil
  simp [renumberDigits, digits, some, Number.value_toDigits]

theorem renumber_congr {next other : Nat → Nat} {text : List Char}
    (same : ∀ digits ∈ runs text, next (Number.value digits) = other (Number.value digits)) :
    renumber next text = renumber other text := by
  fun_induction renumber next text with
  | case1 => exact renumber_nil.symm
  | case2 rest ih =>
    rw [runs, if_pos rfl, List.forall_mem_cons] at same
    -- No dollar sign is among the digits, so all other runs are behind them.
    have plain : '$' ∉ rest.takeWhile Text.isDecimalDigit := by
      intro member
      exact absurd (List.mem_takeWhile_imp member) (by decide)
    have behind := runs_append_of_not_mem plain (rest.dropWhile Text.isDecimalDigit)
    rw [List.takeWhile_append_dropWhile] at behind
    rw [renumber, if_pos rfl, ih (behind ▸ same.2), renumberDigits, renumberDigits, same.1]
  | case3 character rest plain ih =>
    rw [runs, if_neg plain] at same
    rw [renumber_cons plain, ih same]

/-- The number that is `more` higher, counted in words of 64 bits. -/
def raised (more number : Nat) : Nat :=
  (number + more) % Number.twoTo 64

theorem renumber_placeholder (more offset index : Nat) :
    renumber (raised more) (placeholder offset index).toList =
      (placeholder (offset + more) index).toList := by
  have decimal := isDecimalDigit_of_mem_toDigits ((offset + index + 1) % Number.twoTo 64)
  have sum : offset + index + 1 + more = offset + more + index + 1 := by omega
  have raise : raised more ((offset + index + 1) % Number.twoTo 64) =
      (offset + more + index + 1) % Number.twoTo 64 := by
    rw [raised, Nat.mod_add_mod, sum]
  rw [toList_placeholder, toList_placeholder, renumber, if_pos rfl,
    List.takeWhile_eq_self_iff.2 decimal, List.dropWhile_eq_nil_iff.2 decimal,
    renumberDigits_toDigits, raise, renumber_nil, List.append_nil]

end Placeholder

namespace Piece

open Placeholder

theorem renumber_spaced (more offset : Nat) {pieces : List Piece} (apart : spaced pieces)
    (dollarless : plain pieces) :
    renumber (raised more) (pieces.flatMap fun piece => (piece.render offset).toList) =
      pieces.flatMap fun piece => (piece.render (offset + more)).toList := by
  fun_induction spaced pieces with
  | case1 => exact renumber_nil
  | case2 text rest ih =>
    simp only [plain, List.all_cons, Bool.and_eq_true, Bool.not_eq_true', decide_eq_true_eq]
      at apart dollarless
    have absent : '$' ∉ text.toList := by simpa using dollarless.1
    rw [List.flatMap_cons, render, renumber_append_of_not_mem absent, ih apart.2 dollarless.2]
    rfl
  | case3 index =>
    simp only [List.flatMap_cons, List.flatMap_nil, List.append_nil, render, renumber_placeholder]
  | case4 index text rest ih =>
    simp only [Bool.and_eq_true] at apart
    rw [List.flatMap_cons, render, renumber_append _ (endsNumber_behind offset apart.1 rest),
      renumber_placeholder, ih apart.2 dollarless]
    rfl
  | case5 => simp at apart

end Piece

namespace Predicate

open Placeholder

theorem renumber_render (more offset : Nat) (leaf : Leaf) :
    renumber (raised more) ((Condition.ofLeaf leaf).render offset).toList =
      ((Condition.ofLeaf leaf).render (offset + more)).toList := by
  rw [Condition.toList_render, Condition.toList_render]
  exact Piece.renumber_spaced more offset (Condition.spaced_ofLeaf leaf) (Condition.plain_ofLeaf leaf)

theorem renumber_both (next : Nat → Nat) {connective : String} (left right : Predicate)
    (plain : '$' ∉ connective.toList) :
    renumber next (both connective left right).sql.toList =
      '(' :: (renumber next left.sql.toList ++ ')' :: ' ' :: (connective.toList ++ ' ' :: '(' ::
        (renumber next right.sql.toList ++ [')']))) := by
  rw [toList_both, renumber_cons (by decide), renumber_append _ rfl, renumber_cons (by decide),
    renumber_cons (by decide), renumber_append_of_not_mem plain, renumber_cons (by decide),
    renumber_cons (by decide), renumber_append _ rfl, renumber_cons (by decide), renumber_nil]

theorem renumber_negation (next : Nat → Nat) (operand : Predicate) :
    renumber next (negation operand).sql.toList =
      "NOT COALESCE".toList ++ '(' :: '(' ::
        (renumber next operand.sql.toList ++ ')' :: ", FALSE)".toList) := by
  have front : '$' ∉ "NOT COALESCE".toList := by decide +kernel
  have back : '$' ∉ ", FALSE)".toList := by decide +kernel
  rw [toList_negation, renumber_append_of_not_mem front, renumber_cons (by decide),
    renumber_cons (by decide), renumber_append _ rfl, renumber_cons (by decide), renumber_of_not_mem back]

theorem params_congr (offset other : Nat) (filter : Filter) :
    (ofFilter offset filter).params = (ofFilter other filter).params := by
  rw [params_eq, params_eq]

theorem joins_congr (offset other : Nat) (filter : Filter) :
    (ofFilter offset filter).joins = (ofFilter other filter).joins := by
  induction filter generalizing offset other with
  | all | leaf => rfl
  | and left right first second | or left right first second =>
    simp only [ofFilter, both]
    rw [first offset other, second _ (other + (ofFilter other left).params.length)]
  | not operand ih => exact ih offset other

/-- Behind more values the placeholders have higher numbers, and nothing else differs. -/
theorem renumber_sql (more offset : Nat) (filter : Filter) :
    renumber (raised more) (ofFilter offset filter).sql.toList =
      (ofFilter (offset + more) filter).sql.toList := by
  induction filter generalizing offset with
  | all =>
    have plain : '$' ∉ "TRUE".toList := by decide +kernel
    exact renumber_of_not_mem plain
  | leaf leaf => exact renumber_render more offset leaf
  | and left right first second | or left right first second =>
    simp only [ofFilter]
    rw [renumber_both _ _ _ (by decide +kernel), toList_both, first, second,
      params_congr offset (offset + more), Nat.add_right_comm]
  | not operand ih =>
    simp only [ofFilter]
    rw [renumber_negation, toList_negation, ih]

def renumbered (next : Nat → Nat) (predicate : Predicate) : Predicate :=
  { predicate with sql := String.ofList (renumber next predicate.sql.toList) }

theorem ofFilter_add (offset more : Nat) (filter : Filter) :
    ofFilter (offset + more) filter = (ofFilter offset filter).renumbered (raised more) := by
  rw [renumbered, renumber_sql, String.ofList_toList, params_congr offset (offset + more),
    joins_congr offset (offset + more)]

/-- As long as the numbers are words, the higher ones are plain sums. -/
theorem renumbered_raised {offset more : Nat} {filter : Filter}
    (fits : offset + more + (ofFilter offset filter).params.length < Number.twoTo 64) :
    (ofFilter offset filter).renumbered (raised more) =
      (ofFilter offset filter).renumbered (· + more) := by
  obtain ⟨listed, written, counts⟩ := numbered_sql offset filter
  rw [renumbered, renumbered, renumber_congr]
  intro digits member
  rw [written, List.mem_map] at member
  obtain ⟨number, inside, rfl⟩ := member
  have upper := (counts.mem_iff.1 inside).2
  have below : number + more < Number.twoTo 64 := by omega
  rw [wordDigits_of_lt (by omega), Number.value_toDigits, raised, Nat.mod_eq_of_lt below]

/-- One pass over a filter leaves what the operands leave alone, the right one behind the values of
the left; and what is bound before a filter raises the numbers of its placeholders and changes
nothing else. The numbers are words, and plain sums as long as these are words. -/
theorem onePass_compositional_and_relocatable (offset : Nat) :
    (∀ left right : Filter,
      let first := onePass offset left
      let second := onePass (offset + first.params.length) right
      let params := first.params ++ second.params
      let joins := first.joins ++ second.joins.filter (· ∉ first.joins)
      onePass offset (.and left right) =
          ⟨"(" ++ first.sql ++ ") AND (" ++ second.sql ++ ")", params, joins⟩ ∧
        onePass offset (.or left right) =
          ⟨"(" ++ first.sql ++ ") OR (" ++ second.sql ++ ")", params, joins⟩ ∧
        onePass offset (.not left) =
          ⟨"NOT COALESCE((" ++ first.sql ++ "), FALSE)", first.params, first.joins⟩) ∧
      ∀ filter : Filter, ofFilter offset filter = onePass offset filter ∧
        ∀ more,
          ofFilter (offset + more) filter = (ofFilter offset filter).renumbered (raised more) ∧
            (offset + more + (ofFilter offset filter).params.length < Number.twoTo 64 →
              ofFilter (offset + more) filter =
                (ofFilter offset filter).renumbered (· + more)) := by
  constructor
  · intro left right
    have conjunction : ∀ one other : String, "(" ++ one ++ ") " ++ "AND" ++ " (" ++ other ++ ")" =
        "(" ++ one ++ ") AND (" ++ other ++ ")" := by
      intro one other
      apply String.toList_inj.1
      simp
    have disjunction : ∀ one other : String, "(" ++ one ++ ") " ++ "OR" ++ " (" ++ other ++ ")" =
        "(" ++ one ++ ") OR (" ++ other ++ ")" := by
      intro one other
      apply String.toList_inj.1
      simp
    simp only [onePass_eq_ofFilter, ← conjunction, ← disjunction]
    exact ⟨rfl, rfl, rfl⟩
  · intro filter
    have behind (more : Nat) := ofFilter_add offset more filter
    exact ⟨(onePass_eq_ofFilter offset filter).symm, fun more =>
      ⟨behind more, fun fits => (behind more).trans (renumbered_raised fits)⟩⟩

theorem relocated_to_last_numbers :
    let filter := Filter.and (.leaf (.flag 1)) (.leaf (.deck "a"))
    1 + 18446744073709551612 + (ofFilter 1 filter).params.length < Number.twoTo 64 ∧
      ofFilter (1 + 18446744073709551612) filter =
        (ofFilter 1 filter).renumbered (· + 18446744073709551612) := by
  intro filter
  have fits : 1 + 18446744073709551612 + (ofFilter 1 filter).params.length < Number.twoTo 64 := by
    decide +kernel
  have moved := ((onePass_compositional_and_relocatable 1).2 filter).2 18446744073709551612
  exact ⟨fits, moved.2 fits⟩

end Predicate

end CardSearch.Sql
