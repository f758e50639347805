import CardSearch.Proofs.Sql.Joins
import Mathlib.Data.List.Infix

/-!
The columns of other relations that a predicate names: exactly those of the relations that its
leaves need.
-/

namespace CardSearch.Sql

open CardSearch.Query (Filter Leaf Property Comparison)

section Split

variable {word : List Char} {separator : Char}

theorem prefix_split (foreign : separator ∉ word) (front last : List Char) :
    word <+: front ++ separator :: last ↔ word <+: front := by
  induction front generalizing word with
  | nil =>
    cases word with
    | nil => simp
    | cons first rest =>
      have different : first ≠ separator := fun same => foreign (same ▸ List.mem_cons_self)
      simp [List.cons_prefix_cons, different]
  | cons character front ih =>
    cases word with
    | nil => simp
    | cons first rest =>
      have below : separator ∉ rest := fun member => foreign (List.mem_cons_of_mem _ member)
      rw [List.cons_append, List.cons_prefix_cons, List.cons_prefix_cons, ih below]

theorem infix_split (foreign : separator ∉ word) (front last : List Char) :
    word <:+: front ++ separator :: last ↔ word <:+: front ∨ word <:+: last := by
  induction front with
  | nil =>
    have begins := prefix_split foreign [] last
    rw [List.nil_append] at begins ⊢
    rw [List.infix_cons_iff, begins, List.prefix_nil, List.infix_nil]
  | cons character front ih =>
    have begins := prefix_split foreign (character :: front) last
    rw [List.cons_append] at begins ⊢
    rw [List.infix_cons_iff, begins, ih, List.infix_cons_iff, or_assoc]

theorem infix_cons_foreign (nonempty : word ≠ []) (foreign : separator ∉ word) (last : List Char) :
    word <:+: separator :: last ↔ word <:+: last := by
  have sides := infix_split foreign [] last
  rwa [List.nil_append, List.infix_nil, or_iff_right nonempty] at sides

theorem infix_append_foreign (nonempty : word ≠ []) {front : List Char}
    (foreign : ∀ character ∈ front, character ∉ word) (last : List Char) :
    word <:+: front ++ last ↔ word <:+: last := by
  induction front with
  | nil => rw [List.nil_append]
  | cons character front ih =>
    rw [List.forall_mem_cons] at foreign
    rw [List.cons_append, infix_cons_foreign nonempty foreign.1, ih foreign.2]

end Split

namespace Join

def all : List Join :=
  [.note, .deck, .noteTags]

theorem mem_all (join : Join) : join ∈ all := by
  cases join <;> decide

def column : Join → String
  | .note => "n.fields"
  | .deck => "d.path"
  | .noteTags => "nt.slugs"

def NamedIn (join : Join) (text : List Char) : Prop :=
  join.column.toList <:+: text

instance (join : Join) (text : List Char) : Decidable (join.NamedIn text) :=
  inferInstanceAs (Decidable (join.column.toList <:+: text))

def inName (character : Char) : Bool :=
  character.isLower || character == '.'

variable (join : Join)

theorem column_ne_nil : join.column.toList ≠ [] := by
  cases join <;> decide +kernel

theorem not_mem_column {character : Char} (foreign : inName character = false) :
    character ∉ join.column.toList := by
  have letters : join.column.toList.all inName := by cases join <;> decide +kernel
  intro member
  rw [List.all_eq_true.1 letters character member] at foreign
  contradiction

theorem not_namedIn_nil : ¬join.NamedIn [] := by
  cases join <;> decide +kernel

theorem namedIn_split {separator : Char} (foreign : inName separator = false)
    (front last : List Char) :
    join.NamedIn (front ++ separator :: last) ↔ join.NamedIn front ∨ join.NamedIn last :=
  infix_split (join.not_mem_column foreign) front last

theorem namedIn_cons {separator : Char} (foreign : inName separator = false) (last : List Char) :
    join.NamedIn (separator :: last) ↔ join.NamedIn last :=
  infix_cons_foreign join.column_ne_nil (join.not_mem_column foreign) last

theorem inName_eq_false_of_isDigit {digit : Char} (ascii : digit.isDigit = true) :
    inName digit = false := by
  have bounds : 48 ≤ digit.toNat ∧ digit.toNat ≤ 57 := Char.isDigit_iff_toNat.1 ascii
  have point : digit ≠ '.' := by
    rintro rfl
    exact absurd bounds (by decide)
  have below : digit.toNat < 97 := by omega
  have range : digit.isLower = (decide ('a'.val ≤ digit.val) && decide (digit.val ≤ 'z'.val)) := rfl
  simp [inName, range, UInt32.le_iff_toNat_le, point, below]

/-- A placeholder stands between what names a column. -/
theorem namedIn_placeholder (offset index : Nat) (front last : List Char) :
    join.NamedIn (front ++ ((placeholder offset index).toList ++ last)) ↔
      join.NamedIn front ∨ join.NamedIn last := by
  have digits : ∀ digit ∈ Nat.toDigits 10 ((offset + index + 1) % Number.twoTo 64),
      digit ∉ join.column.toList := by
    intro digit member
    apply not_mem_column
    exact inName_eq_false_of_isDigit
      (Nat.isDigit_of_mem_toDigits (by decide) (by decide) member)
  rw [toList_placeholder, List.cons_append, namedIn_split join (by decide)]
  exact or_congr_right (infix_append_foreign join.column_ne_nil digits last)

end Join

namespace Piece

/-- Whether a text with some pieces behind it names the column of a relation. What is printed in a
slot names none and ends the text. -/
def names (join : Join) (front : List Char) : List Piece → Bool
  | [] => join.NamedIn front
  | .sql text :: rest => names join (front ++ text.toList) rest
  | .slot _ :: rest => join.NamedIn front || names join [] rest

theorem namedIn_pieces (join : Join) (offset : Nat) (front : List Char) (pieces : List Piece) :
    join.NamedIn (front ++ pieces.flatMap fun piece => (piece.render offset).toList) ↔
      names join front pieces := by
  -- A name may go on from piece to piece, so the text in front grows until a slot ends it.
  induction pieces generalizing front with
  | nil => simp [names]
  | cons piece rest ih =>
    cases piece with
    | sql text => rw [List.flatMap_cons, render, ← List.append_assoc, ih, names]
    | slot index =>
      have behind := ih []
      rw [List.nil_append] at behind
      rw [List.flatMap_cons, render, Join.namedIn_placeholder, behind, names]
      simp

end Piece

namespace Condition

open Piece CardSearch.Query

theorem names_property (join : Join) (name : Property) (comparison : Comparison) :
    names join [] [.sql (columnOf name ++ " " ++ comparison.symbol ++ " "), .slot 0] = false := by
  have column : ¬join.NamedIn (columnOf name).toList := by
    cases name with
    | retrievability =>
      unfold columnOf retrievability
      rw [String.toList_append, String.toList_ofList, String.toList_ofList]
      cases join <;> decide +kernel
    | interval | lapses | ease | reps | stability | difficulty => cases join <;> decide +kernel
  have symbol : ¬join.NamedIn (comparison.symbol.toList ++ [' ']) := by
    cases comparison <;> cases join <;> decide +kernel
  have text : (columnOf name ++ " " ++ comparison.symbol ++ " ").toList =
      (columnOf name).toList ++ ' ' :: (comparison.symbol.toList ++ [' ']) := by simp
  have neither : ¬join.NamedIn (columnOf name ++ " " ++ comparison.symbol ++ " ").toList := by
    rw [text, Join.namedIn_split join (by decide), not_or]
    exact ⟨column, symbol⟩
  rw [names, names, names, List.nil_append]
  simp only [neither, join.not_namedIn_nil, decide_false, Bool.or_false]

-- The joins are met together, so that the text of a shape is spelled out once for all of them.
theorem names_sample (shape : Leaf.Shape) : ∀ join ∈ Join.all,
    names join [] (ofLeaf shape.sample).pieces =
      decide (Join.ofLeaf? shape.sample = some join) := by
  cases shape with
  | property name comparison =>
    intro join _
    exact names_property join name comparison
  | text inField | regex inField => cases inField <;> decide +kernel
  | tag ending | deck ending => cases ending <;> decide +kernel
  | state cardState => cases cardState <;> decide +kernel
  | date kind rated => cases kind <;> cases rated <;> decide +kernel
  | phrase | flag | wholeWord | accentless => decide +kernel

theorem namedIn_render (join : Join) (offset : Nat) (leaf : Leaf) :
    join.NamedIn ((ofLeaf leaf).render offset).toList ↔ Join.ofLeaf? leaf = some join := by
  have whole := namedIn_pieces join offset [] (ofLeaf leaf).pieces
  obtain ⟨pieces, same, -⟩ := ofLeaf_sample leaf
  rw [Join.join_ofLeaf, Join.join_ofLeaf] at same
  rw [List.nil_append, ← pieces, names_sample leaf.shape join join.mem_all, same, pieces,
    decide_eq_true_eq] at whole
  rw [toList_render, whole]

end Condition

namespace Predicate

open Join

theorem namedIn_both (join : Join) {connective : String} (left right : Predicate)
    (plain : ¬join.NamedIn connective.toList) :
    join.NamedIn (both connective left right).sql.toList ↔
      join.NamedIn left.sql.toList ∨ join.NamedIn right.sql.toList := by
  rw [toList_both, namedIn_cons join (by decide), namedIn_split join (by decide),
    namedIn_cons join (by decide), namedIn_split join (by decide), namedIn_cons join (by decide),
    namedIn_split join (by decide), or_iff_right plain,
    or_iff_left join.not_namedIn_nil]

theorem namedIn_negation (join : Join) (operand : Predicate) :
    join.NamedIn (negation operand).sql.toList ↔ join.NamedIn operand.sql.toList := by
  have front : ¬join.NamedIn "NOT COALESCE".toList := by cases join <;> decide +kernel
  have back : ¬join.NamedIn ", FALSE)".toList := by cases join <;> decide +kernel
  rw [toList_negation, namedIn_split join (by decide), or_iff_right front,
    namedIn_cons join (by decide), namedIn_split join (by decide), or_iff_left back]

theorem namedIn_sql (join : Join) (offset : Nat) (filter : Filter) :
    join.NamedIn (ofFilter offset filter).sql.toList ↔
      ∃ leaf ∈ filter.leaves, ofLeaf? leaf = some join := by
  induction filter generalizing offset with
  | all =>
    have nothing : ¬join.NamedIn "TRUE".toList := by cases join <;> decide +kernel
    simp only [ofFilter, nothing, Filter.leaves, List.not_mem_nil, false_and, exists_false]
  | leaf leaf =>
    rw [ofFilter, ofCondition, Condition.namedIn_render]
    simp [Filter.leaves]
  | and left right first second | or left right first second =>
    simp only [ofFilter, Filter.leaves, List.mem_append, or_and_right, exists_or]
    rw [namedIn_both join _ _ (by cases join <;> decide +kernel), first, second]
  | not operand inner =>
    rw [ofFilter, namedIn_negation, inner]
    rfl

end Predicate

end CardSearch.Sql
