import CardSearch.Sql.Predicate

/-!
The shape of a leaf: all of it but the texts and numbers that a user has chosen. The shape alone
decides the text of the condition and how many values are bound.
-/

namespace CardSearch.Query

inductive PathEnding where
  /-- With two colons and a star. -/
  | subtree
  /-- With a star behind something else. -/
  | star
  | plain
  deriving DecidableEq, Repr

def PathEnding.ofText (text : String) : PathEnding :=
  if [':', ':', '*'] <:+ text.toList then .subtree
  else if ['*'] <:+ text.toList then .star
  else .plain

inductive Leaf.Shape where
  | text (inField : Bool)
  | phrase
  | tag (ending : PathEnding)
  | deck (ending : PathEnding)
  | state (state : CardState)
  | flag
  | property (property : Property) (comparison : Comparison)
  | date (kind : WindowKind) (rated : Bool)
  | regex (inField : Bool)
  | wholeWord
  | accentless
  deriving DecidableEq, Repr

def Leaf.shape : Leaf → Leaf.Shape
  | .text _ field => .text field.isSome
  | .phrase _ => .phrase
  | .tag pattern => .tag (.ofText pattern)
  | .deck path => .deck (.ofText path)
  | .state cardState => .state cardState
  | .flag _ => .flag
  | .property name comparison _ => .property name comparison
  | .date window => .date window.kind window.rating.isSome
  | .regex _ field => .regex field.isSome
  | .wholeWord _ => .wholeWord
  | .accentless _ => .accentless

def PathEnding.sample : PathEnding → String
  | .subtree => "::*"
  | .star => "*"
  | .plain => ""

def Leaf.Shape.sample : Leaf.Shape → Leaf
  | .text inField => .text "" (if inField then some "" else none)
  | .phrase => .phrase ""
  | .tag ending => .tag ending.sample
  | .deck ending => .deck ending.sample
  | .state cardState => .state cardState
  | .flag => .flag 0
  | .property name comparison => .property name comparison (.zero false)
  | .date kind rated => .date ⟨kind, 0, if rated then some .again else none⟩
  | .regex inField => .regex "" (if inField then some "" else none)
  | .wholeWord => .wholeWord ""
  | .accentless => .accentless ""

/-- Filters whose combinators and shapes of leaves are the same at every place. -/
inductive Filter.Alike : Filter → Filter → Prop where
  | all : Alike .all .all
  | leaf {one other : Leaf} (same : one.shape = other.shape) : Alike (.leaf one) (.leaf other)
  | and {left right otherLeft otherRight : Filter} (lefts : Alike left otherLeft)
      (rights : Alike right otherRight) : Alike (.and left right) (.and otherLeft otherRight)
  | or {left right otherLeft otherRight : Filter} (lefts : Alike left otherLeft)
      (rights : Alike right otherRight) : Alike (.or left right) (.or otherLeft otherRight)
  | not {operand other : Filter} (operands : Alike operand other) :
      Alike (.not operand) (.not other)

end CardSearch.Query

namespace CardSearch.Sql

open CardSearch.Query

namespace Condition

def PathPattern.ending : PathPattern → PathEnding
  | .subtree _ => .subtree
  | .beginning _ => .star
  | .exact _ => .plain

theorem PathPattern.ending_ofText (text : String) : (ofText text).ending = .ofText text := by
  unfold ofText PathEnding.ofText
  simp only [← List.reverse_prefix]
  generalize text.toList.reverse = reversed
  split
  next path => simp [ending]
  next start other =>
    have further : ¬['*', ':', ':'] <+: '*' :: start := by
      rintro ⟨path, same⟩
      exact other path (List.cons.inj same).2.symm
    simp [ending, further]
  next noSubtree noStar =>
    have none : ¬['*'] <+: reversed := by
      rintro ⟨start, rfl⟩
      exact noStar start rfl
    have nothing : ¬['*', ':', ':'] <+: reversed := by
      rintro ⟨path, rfl⟩
      exact noStar _ rfl
    simp [ending, none, nothing]

theorem fst_pathLike (column : String) (descendants : Bool) {one other : PathPattern}
    (same : one.ending = other.ending) :
    (pathLike column descendants one).1 = (pathLike column descendants other).1 := by
  cases one <;> cases other <;> first
    | contradiction
    | cases descendants <;> rfl

theorem PathPattern.ending_sample (text : String) :
    (ofText (PathEnding.ofText text).sample).ending = (ofText text).ending := by
  rw [ending_ofText text]
  cases PathEnding.ofText text <;> rfl

/-- The text of a condition, its join and the number of its values come from the shape of the
leaf. -/
theorem ofLeaf_sample (leaf : Leaf) :
    (ofLeaf leaf.shape.sample).pieces = (ofLeaf leaf).pieces ∧
      (ofLeaf leaf.shape.sample).join = (ofLeaf leaf).join ∧
      (ofLeaf leaf.shape.sample).params.length = (ofLeaf leaf).params.length := by
  cases leaf with
  | text value field | regex pattern field =>
    cases field <;> simp [Leaf.shape, Leaf.Shape.sample, ofLeaf, someField]
  | tag pattern =>
    have same := fst_pathLike "s.slug" false (PathPattern.ending_sample pattern)
    simp [Leaf.shape, Leaf.Shape.sample, ofLeaf, ofTag, same]
  | deck path =>
    have same := fst_pathLike "d.path" true (PathPattern.ending_sample path)
    simp [Leaf.shape, Leaf.Shape.sample, ofLeaf, ofDeck, same]
  | date window =>
    obtain ⟨kind, days, rating⟩ := window
    cases kind <;> cases rating <;> simp [Leaf.shape, Leaf.Shape.sample, ofLeaf, ofDate]
  | state cardState => simp [Leaf.shape, Leaf.Shape.sample]
  | phrase | flag | property | wholeWord | accentless =>
    simp [Leaf.shape, Leaf.Shape.sample, ofLeaf, someField]

theorem render_eq_of_shape {one other : Leaf} (same : one.shape = other.shape) (offset : Nat) :
    (ofLeaf one).render offset = (ofLeaf other).render offset ∧
      (ofLeaf one).join = (ofLeaf other).join ∧
      (ofLeaf one).params.length = (ofLeaf other).params.length := by
  obtain ⟨pieces, join, count⟩ := ofLeaf_sample one
  obtain ⟨otherPieces, otherJoin, otherCount⟩ := ofLeaf_sample other
  rw [same] at pieces join count
  refine ⟨?_, join.symm.trans otherJoin, count.symm.trans otherCount⟩
  rw [render, render, ← pieces, otherPieces]

end Condition

namespace Predicate

/-- No user data reaches the text of a predicate. -/
theorem sql_of_alike {one other : Filter} (alike : one.Alike other) (offset : Nat) :
    (ofFilter offset one).sql = (ofFilter offset other).sql ∧
      (ofFilter offset one).joins = (ofFilter offset other).joins ∧
      (ofFilter offset one).params.length = (ofFilter offset other).params.length := by
  induction alike generalizing offset with
  | all => exact ⟨rfl, rfl, rfl⟩
  | leaf same =>
    obtain ⟨text, join, count⟩ := Condition.render_eq_of_shape same offset
    exact ⟨text, congrArg Option.toList join, count⟩
  | and lefts rights ihLeft ihRight | or lefts rights ihLeft ihRight =>
    obtain ⟨leftText, leftJoins, leftCount⟩ := ihLeft offset
    obtain ⟨rightText, rightJoins, rightCount⟩ := ihRight (offset + _)
    simp only [ofFilter, both, List.length_append, leftText, leftJoins, leftCount]
    rw [rightText, rightJoins, rightCount]
    exact ⟨rfl, rfl, rfl⟩
  | not operands ih =>
    obtain ⟨text, joins, count⟩ := ih offset
    refine ⟨?_, joins, count⟩
    simp only [ofFilter, negation, text]

end Predicate

end CardSearch.Sql
