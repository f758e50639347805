import CardSearch.Proofs.Number.Literal
import CardSearch.Query.Clause

/-!
Clauses for a property. The comparison of a clause is the first that is written in it, in its longest
spelling; what stands in front is a keyword in any letter case, and what stands behind is a literal.
-/

namespace CardSearch.Query

open CardSearch.Number (Binary64)

namespace Comparison

theorem eq_append_of_leading? {text after : List Char} {comparison : Comparison}
    (found : leading? text = some (comparison, after)) :
    text = comparison.symbol.toList ++ after := by
  unfold leading? at found
  split at found <;> cases found <;> rfl

/-- Where a comparison is written, it is read, or a longer one that is written there too. -/
theorem exists_leading?_of_symbol (comparison : Comparison) (rest : List Char) :
    ∃ found after, leading? (comparison.symbol.toList ++ rest) = some (found, after) ∧
      comparison.symbol.length ≤ found.symbol.length := by
  by_cases longer : rest.head? = some '='
  · obtain ⟨rest, rfl⟩ := List.head?_eq_some_iff.1 longer
    cases comparison <;> exact ⟨_, _, rfl, by decide⟩
  · exact ⟨comparison, rest, leading?_symbol comparison rest longer, Nat.le_refl _⟩

/-- No comparison is written earlier in the text, and none is written there in a longer spelling. -/
def IsFirst (comparison : Comparison) (name after : List Char) : Prop :=
  ∀ (front : List Char) (other : Comparison) (rest : List Char),
    name ++ (comparison.symbol.toList ++ after) = front ++ (other.symbol.toList ++ rest) →
      name.length < front.length ∨
        name = front ∧ other.symbol.length ≤ comparison.symbol.length

end Comparison

theorem splitComparison?_append {name rest after : List Char} {comparison : Comparison}
    (apart : name.all (· ∉ ['>', '<', '!', '=']))
    (found : Comparison.leading? rest = some (comparison, after)) :
    splitComparison? (name ++ rest) = some (name, comparison, after) := by
  induction name with
  | nil =>
    cases rest with
    | nil => cases found
    | cons character rest => rw [List.nil_append, splitComparison?, found]
  | cons character name ih =>
    rw [List.all_cons, Bool.and_eq_true] at apart
    obtain ⟨other, later⟩ := apart
    have none : Comparison.leading? (character :: (name ++ rest)) = none := by
      unfold Comparison.leading?
      split <;> simp_all
    rw [List.cons_append, splitComparison?, none, ih later]
    rfl

/-- A clause is split at the first comparison, whatever its name and its literal are. -/
theorem isFirst_of_splitComparison? {text name after : List Char} {comparison : Comparison}
    (found : splitComparison? text = some (name, comparison, after)) :
    text = name ++ (comparison.symbol.toList ++ after) ∧ comparison.IsFirst name after := by
  induction text generalizing name with
  | nil => cases found
  | cons character text ih =>
    rw [splitComparison?] at found
    split at found
    next leading =>
      cases found
      have whole := Comparison.eq_append_of_leading? leading
      refine ⟨whole, fun front other rest same => ?_⟩
      cases front with
      | nil =>
        obtain ⟨longest, behind, here, longer⟩ := other.exists_leading?_of_symbol rest
        rw [← List.nil_append (other.symbol.toList ++ rest), ← same, List.nil_append, ← whole,
          leading] at here
        cases here
        exact .inr ⟨rfl, longer⟩
      | cons first front => exact .inl (Nat.zero_lt_succ _)
    -- Nothing is read at the first character, so nothing is written there.
    next none =>
      obtain ⟨⟨inner, _, _⟩, split, same⟩ := Option.map_eq_some_iff.1 found
      cases same
      obtain ⟨rfl, earliest⟩ := ih split
      refine ⟨rfl, fun front other rest same => ?_⟩
      cases front with
      | nil =>
        obtain ⟨longest, behind, here, -⟩ := other.exists_leading?_of_symbol rest
        rw [← List.nil_append (other.symbol.toList ++ rest), ← same, List.cons_append, none] at here
        cases here
      | cons first front =>
        obtain ⟨rfl, tail⟩ := List.cons.inj same
        rcases earliest front other rest tail with later | ⟨rfl, longer⟩
        · exact .inl (Nat.succ_lt_succ later)
        · exact .inr ⟨rfl, longer⟩

theorem Property.ofKeyword?_eq_some_iff {keyword : String} {property : Property} :
    ofKeyword? keyword = some property ↔ (Text.lowered keyword, property) ∈ vocabulary := by
  constructor
  · intro found
    obtain ⟨front, rest, same, -⟩ := List.lookup_eq_some_iff.1 found
    rw [same]
    exact List.mem_append_right front List.mem_cons_self
  · intro known
    have first : ∀ entry ∈ vocabulary, vocabulary.lookup entry.1 = some entry.2 := by decide
    exact first _ known

structure PropertyClause where
  name : List Char
  property : Property
  comparison : Comparison
  literal : List Char
  value : Binary64
  named : (Text.lowered (String.ofList name), property) ∈ Property.vocabulary
  reads : Number.real? literal = some value

namespace PropertyClause

def text (clause : PropertyClause) : List Char :=
  clause.name ++ (clause.comparison.symbol.toList ++ clause.literal)

def leaf (clause : PropertyClause) : Leaf :=
  .property clause.property clause.comparison clause.value

theorem toLower_mem (clause : PropertyClause) {character : Char} (member : character ∈ clause.name) :
    ∃ entry ∈ Property.vocabulary, character.toLower ∈ entry.1.toList := by
  refine ⟨_, clause.named, ?_⟩
  rw [Text.lowered, String.toList_ofList, String.toList_ofList]
  exact List.mem_map_of_mem member

theorem name_apart (clause : PropertyClause) :
    clause.name.all (· ∉ ['>', '<', '!', '=']) := by
  have keywords : ∀ entry ∈ Property.vocabulary,
      entry.1.toList.all (· ∉ ['>', '<', '!', '=']) := by decide
  have unchanged : ['>', '<', '!', '='].all fun mark => mark.toLower == mark := by decide
  rw [List.all_eq_true]
  intro character member
  rw [decide_eq_true_eq]
  intro mark
  obtain ⟨entry, known, letter⟩ := clause.toLower_mem member
  rw [beq_iff_eq.1 (List.all_eq_true.1 unchanged character mark)] at letter
  exact of_decide_eq_true (List.all_eq_true.1 (keywords entry known) character letter) mark

theorem literal_apart (clause : PropertyClause) : clause.literal.head? ≠ some '=' := by
  intro equals
  have member : '=' ∈ clause.literal := List.mem_of_mem_head? equals
  have literal := List.all_eq_true.1 (Number.all_of_real? clause.reads) '=' member
  exact absurd literal (by decide)

theorem splitComparison?_text (clause : PropertyClause) :
    splitComparison? clause.text = some (clause.name, clause.comparison, clause.literal) :=
  splitComparison?_append clause.name_apart
    (clause.comparison.leading?_symbol clause.literal clause.literal_apart)

theorem isFirst (clause : PropertyClause) :
    clause.comparison.IsFirst clause.name clause.literal :=
  (isFirst_of_splitComparison? clause.splitComparison?_text).2

theorem eq_of_text_eq {one other : PropertyClause} (same : one.text = other.text) :
    one = other := by
  have parts := one.splitComparison?_text
  rw [same, other.splitComparison?_text] at parts
  have named := Property.ofKeyword?_eq_some_iff.2 one.named
  have reads := one.reads
  obtain ⟨name, property, comparison, literal, value⟩ := one
  cases parts
  rw [Property.ofKeyword?_eq_some_iff.2 other.named] at named
  rw [other.reads] at reads
  cases named
  cases reads
  rfl

end PropertyClause

def IsComparison (value : List Char) (leaf : Leaf) : Prop :=
  ∃ clause : PropertyClause, clause.text = value ∧ clause.leaf = leaf

theorem Leaf.readProperty_eq_ok_iff {value : List Char} {leaf : Leaf} :
    readProperty value = .ok leaf ↔ IsComparison value leaf := by
  constructor
  · intro reads
    unfold readProperty at reads
    split at reads
    next => cases reads
    next name comparison literal parts =>
      split at reads
      next => cases reads
      next property known =>
        split at reads
        next => cases reads
        next number finite =>
          cases reads
          obtain ⟨whole, -⟩ := isFirst_of_splitComparison? parts
          have named := Property.ofKeyword?_eq_some_iff.1 known
          exact ⟨⟨name, property, comparison, literal, number, named, finite⟩, whole.symm, rfl⟩
  · rintro ⟨clause, rfl, rfl⟩
    simp only [readProperty, clause.splitComparison?_text,
      Property.ofKeyword?_eq_some_iff.2 clause.named, clause.reads, PropertyClause.leaf]

end CardSearch.Query
