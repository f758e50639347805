import CardSearch.Proofs.Sql.ConditionText
import CardSearch.Proofs.Sql.Placeholders

/-!
The placeholders of a predicate count on from the values that are bound before it: each new one has
the next number, and a number that is printed again is the last one.
-/

namespace CardSearch.Sql

open CardSearch.Query

theorem Symbol.not_isDecimalDigit {character : Char} (separates : (separator? character).isSome) :
    Text.isDecimalDigit character = false := by
  by_contra digit
  rw [Bool.not_eq_false, Text.isDecimalDigit, List.any_eq_true] at digit
  obtain ⟨first, member, range⟩ := digit
  simp only [Bool.and_eq_true, decide_eq_true_eq] at range
  have blocks : ∀ first ∈ Text.digitBlocks, 0x30 ≤ first ∧
      (first + 10 ≤ 0x85 ∨ 0xA0 < first) ∧ (first + 10 ≤ 0x1680 ∨ 0x1680 < first) ∧
        (first + 10 ≤ 0x2000 ∨ 0x3000 < first) := by decide
  have block := blocks first member
  have code : character.toNat < 0x30 ∨ 0x85 ≤ character.toNat ∧ character.toNat ≤ 0xA0 ∨
      character.toNat = 0x1680 ∨ 0x2000 ≤ character.toNat ∧ character.toNat ≤ 0x3000 := by
    rcases isSome_separator?.1 separates with rfl | rfl | rfl | blank
    · exact .inl (by decide)
    · exact .inl (by decide)
    · exact .inl (by decide)
    · simp only [Text.isBlank, Bool.or_eq_true, Bool.and_eq_true, decide_eq_true_eq,
        beq_iff_eq] at blank
      omega
  omega

namespace Piece

open Placeholder

def slots : List Piece → List Nat
  | [] => []
  | .sql _ :: rest => slots rest
  | .slot index :: rest => index :: slots rest

def plain (pieces : List Piece) : Bool :=
  pieces.all fun piece => match piece with
    | .sql text => !text.toList.contains '$'
    | .slot _ => true

theorem endsNumber_of_startsApart {text : List Char} (apart : Symbol.startsApart text) :
    endsNumber text := by
  cases text with
  | nil => rfl
  | cons character rest =>
    have separates : (Symbol.separator? character).isSome := apart
    have other : Text.isDecimalDigit character = false := Symbol.not_isDecimalDigit separates
    simp [endsNumber, other]

theorem runs_placeholder (offset index : Nat) :
    runs (placeholder offset index).toList = [wordDigits (offset + index + 1)] := by
  rw [toList_placeholder, runs_number, wordDigits]

theorem endsNumber_behind (offset : Nat) {text : String} (apart : Symbol.startsApart text.toList)
    (rest : List Piece) :
    endsNumber ((Piece.sql text :: rest).flatMap fun piece => (piece.render offset).toList) := by
  rw [List.flatMap_cons, render]
  exact endsNumber_of_startsApart (Symbol.startsApart_append apart _)

theorem runs_spaced (offset : Nat) {pieces : List Piece} (apart : spaced pieces)
    (dollarless : plain pieces) :
    runs (pieces.flatMap fun piece => (piece.render offset).toList) =
      (slots pieces).map fun index => wordDigits (offset + index + 1) := by
  fun_induction spaced pieces with
  | case1 => rfl
  | case2 text rest ih =>
    simp only [plain, List.all_cons, Bool.and_eq_true, Bool.not_eq_true', decide_eq_true_eq]
      at apart dollarless
    have absent : '$' ∉ text.toList := by simpa using dollarless.1
    rw [List.flatMap_cons, render, runs_append_of_not_mem absent, ih apart.2 dollarless.2, slots]
  | case3 index =>
    rw [List.flatMap_cons, List.flatMap_nil, List.append_nil, render, runs_placeholder]
    rfl
  | case4 index text rest ih =>
    simp only [Bool.and_eq_true] at apart
    rw [List.flatMap_cons, render, runs_append _ (endsNumber_behind offset apart.1 rest),
      runs_placeholder, ih apart.2 dollarless]
    rfl
  | case5 => simp at apart

end Piece

namespace Condition

open Piece

/-- Characters that stand in no condition outside of its slots. A placeholder begins with the one,
and the clause of a join has the other. -/
def unused : List Char :=
  ['$', 'J']

def unusedIn (text : List Char) : Bool :=
  unused.all fun character => !text.contains character

theorem unusedIn_iff {text : List Char} :
    unusedIn text ↔ ∀ character ∈ unused, character ∉ text := by
  simp [unusedIn]

theorem unusedIn_append (front last : List Char) :
    unusedIn (front ++ last) = (unusedIn front && unusedIn last) := by
  rw [Bool.eq_iff_iff, Bool.and_eq_true, unusedIn_iff, unusedIn_iff, unusedIn_iff]
  simp only [List.mem_append, not_or, forall_and]

theorem unusedIn_columnOf (name : Property) : unusedIn (columnOf name).toList := by
  cases name with
  | retrievability =>
    unfold columnOf retrievability
    rw [String.toList_append, String.toList_ofList, String.toList_ofList]
    decide +kernel
  | interval | lapses | ease | reps | stability | difficulty => decide +kernel

theorem unusedIn_sample (shape : Leaf.Shape) :
    (ofLeaf shape.sample).pieces.all fun piece => match piece with
      | .sql text => unusedIn text.toList
      | .slot _ => true := by
  cases shape with
  | text inField | regex inField => cases inField <;> decide +kernel
  | tag ending | deck ending => cases ending <;> decide +kernel
  | state cardState => cases cardState <;> decide +kernel
  | property name comparison =>
    have column := unusedIn_columnOf name
    have blank : unusedIn " ".toList := by decide +kernel
    have symbol : unusedIn comparison.symbol.toList := by cases comparison <;> decide +kernel
    simp only [Leaf.Shape.sample, ofLeaf, List.all_cons, List.all_nil, String.toList_append,
      unusedIn_append, column, blank, symbol, Bool.and_self]
  | date kind rated => cases kind <;> cases rated <;> decide +kernel
  | phrase | flag | wholeWord | accentless => decide +kernel

theorem not_mem_text {leaf : Leaf} {text : String} (within : .sql text ∈ (ofLeaf leaf).pieces) :
    ∀ character ∈ unused, character ∉ text.toList := by
  have pieces := unusedIn_sample leaf.shape
  rw [(ofLeaf_sample leaf).1, List.all_eq_true] at pieces
  exact unusedIn_iff.1 (pieces _ within)

theorem plain_ofLeaf (leaf : Leaf) : plain (ofLeaf leaf).pieces := by
  rw [plain, List.all_eq_true]
  intro piece member
  cases piece with
  | sql text =>
    have absent : '$' ∉ text.toList := not_mem_text member '$' (by decide)
    simpa using absent
  | slot index => rfl

theorem runs_render (offset : Nat) (leaf : Leaf) :
    Placeholder.runs ((ofLeaf leaf).render offset).toList =
      (slots (ofLeaf leaf).pieces).map fun index =>
        Placeholder.wordDigits (offset + index + 1) := by
  rw [toList_render]
  exact runs_spaced offset (spaced_ofLeaf leaf) (plain_ofLeaf leaf)

/-- A condition prints its values in their order; only a path is printed twice. -/
theorem countsOn_slots (offset : Nat) (leaf : Leaf) :
    CountsOn offset (ofLeaf leaf).params.length
      ((slots (ofLeaf leaf).pieces).map fun index => offset + index + 1) := by
  have one : CountsOn offset 1 [offset + 1] := .single
  have two : CountsOn offset 2 [offset + 1, offset + 1 + 1] := one.append .single
  have twice : CountsOn offset 1 [offset + 1, offset + 1] := one.again
  cases leaf with
  | text value field | regex pattern field =>
    cases field with
    | none => exact one
    | some name => exact two
  | tag pattern =>
    simp only [ofLeaf, ofTag]
    cases PathPattern.ofText pattern with
    | beginning start => exact one
    | subtree path => exact twice
    | exact path => exact one
  | deck path =>
    simp only [ofLeaf, ofDeck]
    cases PathPattern.ofText path with
    | beginning start => exact one
    | subtree path => exact twice
    | exact path => exact twice
  | state cardState =>
    cases cardState with
    | due | paused | skipped => exact one
    | new | learning | review | relearning => exact two
  | date window =>
    obtain ⟨kind, days, rating⟩ := window
    cases kind with
    | added => exact one
    | rated =>
      cases rating with
      | none => exact one
      | some rating => exact two
  | phrase | flag | property | wholeWord | accentless => exact one

theorem numbered_render (offset : Nat) (leaf : Leaf) :
    Numbered offset (ofLeaf leaf).params.length ((ofLeaf leaf).render offset).toList := by
  refine ⟨_, ?_, countsOn_slots offset leaf⟩
  rw [runs_render, List.map_map]
  rfl

end Condition

namespace Predicate

theorem numbered_both {offset : Nat} {left right : Predicate} {connective : String}
    (first : Numbered offset left.params.length left.sql.toList)
    (second : Numbered (offset + left.params.length) right.params.length right.sql.toList)
    (plain : '$' ∉ connective.toList) :
    Numbered offset (both connective left right).params.length
      (both connective left right).sql.toList := by
  have between : ')' :: ' ' :: (connective.toList ++ ' ' :: '(' :: (right.sql.toList ++ [')'])) =
      ([')', ' '] ++ connective.toList ++ [' ', '(']) ++ (right.sql.toList ++ [')']) := by simp
  have dollarless : '$' ∉ [')', ' '] ++ connective.toList ++ [' ', '('] := by simp [plain]
  have opening : '$' ∉ ['('] := by decide
  have closing : '$' ∉ [')'] := by decide
  have closed := second.append_of_not_mem closing rfl
  have behind := Numbered.of_not_mem_append dollarless closed
  rw [← between] at behind
  have whole := first.append behind rfl
  rw [toList_both, both, List.length_append]
  have enclosed := Numbered.of_not_mem_append opening whole
  exact enclosed

theorem numbered_negation {offset : Nat} {operand : Predicate}
    (inner : Numbered offset operand.params.length operand.sql.toList) :
    Numbered offset (negation operand).params.length (negation operand).sql.toList := by
  have front : '$' ∉ "NOT COALESCE".toList ++ ['(', '('] := by decide +kernel
  have back : '$' ∉ ')' :: ", FALSE)".toList := by decide +kernel
  have whole := Numbered.of_not_mem_append front (inner.append_of_not_mem back rfl)
  rw [List.append_assoc] at whole
  rw [toList_negation]
  exact whole

/-- The placeholders of a filter count on from the offset. -/
theorem numbered_sql (offset : Nat) (filter : Filter) :
    Numbered offset (ofFilter offset filter).params.length (ofFilter offset filter).sql.toList := by
  induction filter generalizing offset with
  | all =>
    have dollarless : '$' ∉ "TRUE".toList := by decide +kernel
    exact .of_not_mem dollarless
  | leaf leaf => exact Condition.numbered_render offset leaf
  | and left right ihLeft ihRight => exact numbered_both (ihLeft _) (ihRight _) (by decide +kernel)
  | or left right ihLeft ihRight => exact numbered_both (ihLeft _) (ihRight _) (by decide +kernel)
  | not operand ih => exact numbered_negation (ih offset)

end Predicate

def withoutLast (count : Nat) (text : String) : String :=
  String.ofList (text.toList.take (text.toList.length - count))

def pathValue (pattern : String) : String :=
  match PathEnding.ofText pattern with
  | .subtree => Like.escape (withoutLast 3 pattern)
  | .star => Like.beginning (withoutLast 1 pattern)
  | .plain => Like.escape pattern

/-- The values that a leaf binds: a field before its text, a card type before the status and days
before a rating. -/
def valuesOf : Leaf → List Param
  | .text value field => field.toList.map .text ++ [.text (Like.containing value)]
  | .regex pattern field => field.toList.map .text ++ [.text pattern]
  | .phrase value | .accentless value => [.text (Like.containing value)]
  | .wholeWord word => [.text (WholeWord.pattern word)]
  | .tag pattern | .deck pattern => [.text (pathValue pattern)]
  | .state .due => [.text "active"]
  | .state .paused => [.text "paused"]
  | .state .skipped => [.text "skipped"]
  | .state cardType => [.text cardType.keyword, .text "active"]
  | .flag number => [.integer number]
  | .property _ _ value => [.real value]
  | .date ⟨.added, days, _⟩ => [.integer days]
  | .date ⟨.rated, days, rating⟩ =>
    .integer days :: rating.toList.map fun button => .integer button.number

namespace Condition

def PathPattern.value : PathPattern → String
  | .beginning start => Like.beginning start
  | .subtree path | .exact path => Like.escape path

theorem PathPattern.value_ofText (pattern : String) :
    (ofText pattern).value = pathValue pattern := by
  have ending := ending_ofText pattern
  rw [pathValue, ← ending]
  unfold ofText
  split
  next path same =>
    have text : pattern.toList = path.reverse ++ [':', ':', '*'] := by
      rw [← List.reverse_inj, same]
      simp
    simp [value, PathPattern.ending, withoutLast, text]
  next start _ same =>
    have text : pattern.toList = start.reverse ++ ['*'] := by
      rw [← List.reverse_inj, same]
      simp
    simp [value, PathPattern.ending, withoutLast, text]
  next => rfl

theorem snd_pathLike (column : String) (descendants : Bool) (pattern : PathPattern) :
    (pathLike column descendants pattern).2 = .text pattern.value := by
  cases pattern with
  | beginning | subtree => rfl
  | exact path => cases descendants <;> rfl

theorem params_ofLeaf (leaf : Leaf) : (ofLeaf leaf).params = valuesOf leaf := by
  cases leaf with
  | tag pattern | deck pattern =>
    simp [ofLeaf, ofTag, ofDeck, valuesOf, snd_pathLike, PathPattern.value_ofText]
  | state cardState => cases cardState <;> rfl
  | date window =>
    obtain ⟨kind, days, rating⟩ := window
    cases kind <;> cases rating <;> rfl
  | text | phrase | flag | property | regex | wholeWord | accentless => rfl

end Condition

namespace Predicate

open Placeholder

/-- Read from left to right, the placeholders of a filter count on from the offset, one for each
value that its leaves bind. -/
theorem countsOn_occurrences (offset : Nat) (filter : Filter)
    (fits : offset + (ofFilter offset filter).params.length < Number.twoTo 64) :
    CountsOn offset (ofFilter offset filter).params.length
        (occurrences (ofFilter offset filter).sql) ∧
      runs (ofFilter offset filter).sql.toList =
        (occurrences (ofFilter offset filter).sql).map (Nat.toDigits 10) ∧
      numbers (ofFilter offset filter).sql =
        List.range' (offset + 1) (ofFilter offset filter).params.length ∧
      count (ofFilter offset filter).sql = (ofFilter offset filter).params.length ∧
      (ofFilter offset filter).params = filter.leaves.flatMap valuesOf := by
  have numbered := numbered_sql offset filter
  obtain ⟨counts, written⟩ := numbered.counts_occurrences fits
  have distinct := numbered.numbers_eq fits
  refine ⟨counts, written, distinct, ?_, ?_⟩
  · rw [count, distinct, List.length_range']
  · simp only [params_eq, Condition.params_ofLeaf]

theorem numbers_field_or_deck :
    let predicate := ofFilter 7 (.or (.leaf (.text "a" (some "b"))) (.not (.leaf (.deck "c"))))
    numbers predicate.sql = [8, 9, 10] ∧
      predicate.params = [.text "b", .text "%a%", .text "c"] := by
  have counts := countsOn_occurrences 7
    (.or (.leaf (.text "a" (some "b"))) (.not (.leaf (.deck "c")))) (by decide +kernel)
  exact ⟨counts.2.2.1, counts.2.2.2.2.trans (by decide +kernel)⟩

end Predicate

end CardSearch.Sql
