import CardSearch.Proofs.Sql.ConditionText
import CardSearch.Proofs.Sql.Numbering
import CardSearch.Proofs.Sql.PathTest

/-!
The conditions on tags and decks say what their patterns do. A pattern selects a path and all below
it, the paths with a beginning, or a single path; every character in front of its ending stands for
itself.
-/

namespace CardSearch.Sql

/-- What a pattern of a path selects. With `descendants` a single path stands for its subtree. -/
structure Hierarchy (fold : Char → Char) (descendants : Bool) (pattern : List Char)
    (selects : List Char → Prop) : Prop where
  subtree : ∀ base, pattern = base ++ [':', ':', '*'] → ∀ path, selects path ↔
    Like.Same fold path base ∨ Like.Begins fold path (base ++ [':', ':'])
  /-- A path that goes on behind the base without the two colons is not below it. -/
  sibling : ∀ base, pattern = base ++ [':', ':', '*'] → ∀ more, more ≠ [] →
    ¬Like.Begins fold more [':', ':'] → ¬selects (base ++ more)
  beginning : ∀ base, pattern = base ++ ['*'] → ¬[':', ':'] <:+ base → ∀ path, selects path ↔
    Like.Begins fold path base
  single : ¬['*'] <:+ pattern → ∀ path, selects path ↔
    Like.Same fold path pattern ∨
      descendants = true ∧ Like.Begins fold path (pattern ++ [':', ':'])

namespace Condition

namespace PathPattern

variable {pattern : String} {base : List Char}

theorem ofText_subtree (same : pattern.toList = base ++ [':', ':', '*']) :
    ofText pattern = .subtree (String.ofList base) := by
  simp [ofText, same]

theorem ofText_beginning (same : pattern.toList = base ++ ['*']) (other : ¬[':', ':'] <:+ base) :
    ofText pattern = .beginning (String.ofList base) := by
  rw [← List.reverse_prefix] at other
  unfold ofText
  simp only [same, List.reverse_append, List.reverse_singleton, List.singleton_append]
  split
  next path below =>
    obtain ⟨-, below⟩ := List.cons.inj below
    exact absurd ⟨path, below.symm⟩ other
  next start _ whole =>
    obtain ⟨-, rfl⟩ := List.cons.inj whole
    rw [List.reverse_reverse]
  next none => exact absurd rfl (none base.reverse)

theorem ofText_exact (single : ¬['*'] <:+ pattern.toList) : ofText pattern = .exact pattern := by
  rw [← List.reverse_prefix] at single
  unfold ofText
  split
  next path whole => exact absurd ⟨_, whole.symm⟩ single
  next start _ whole => exact absurd ⟨_, whole.symm⟩ single
  next => rfl

def Selects (fold : Char → Char) (descendants : Bool) (path : List Char) : PathPattern → Prop
  | .beginning start => Like.Begins fold path start.toList
  | .subtree base =>
    Like.Same fold path base.toList ∨ Like.Begins fold path (base.toList ++ [':', ':'])
  | .exact single =>
    Like.Same fold path single.toList ∨
      descendants = true ∧ Like.Begins fold path (single.toList ++ [':', ':'])

theorem hierarchy_ofText (fold : Char → Char) (descendants : Bool) (pattern : String) :
    Hierarchy fold descendants pattern.toList
      fun path => (ofText pattern).Selects fold descendants path := by
  constructor
  case subtree =>
    intro base same path
    rw [ofText_subtree same, Selects, String.toList_ofList]
  case sibling =>
    intro base same more goesOn apart
    rw [ofText_subtree same, Selects, String.toList_ofList, Like.same_append_iff,
      Like.begins_append_iff]
    exact not_or.2 ⟨goesOn, apart⟩
  case beginning =>
    intro base same other path
    rw [ofText_beginning same other, Selects, String.toList_ofList]
  case single =>
    intro single path
    rw [ofText_exact single, Selects]

end PathPattern

end Condition

namespace PathTest

open Condition

def inSubtree (column : PathColumn) (number : Nat) : PathTest :=
  .either (.like column (.bound number))
    (.like column (.joined (.bound number) (.literal [':', ':', '%'])))

def ofPattern (column : PathColumn) (descendants : Bool) (number : Nat) : PathPattern → PathTest
  | .beginning _ => .like column (.bound number)
  | .subtree _ => inSubtree column number
  | .exact _ => if descendants then inSubtree column number else .like column (.bound number)

theorem text_like (column : PathColumn) (offset : Nat) :
    (columnLike column.name).flatMap (Piece.symbols offset) =
      (PathTest.like column (.bound ((offset + 1) % Number.twoTo 64))).text := by
  have compared : Symbol.read (column.name ++ " ILIKE ").toList =
      [.word column.name.toList, .word "ILIKE".toList] := by cases column <;> decide +kernel
  simp only [columnLike, List.flatMap_cons, List.flatMap_nil, Piece.symbols, compared,
    toList_placeholder]
  rfl

theorem text_inSubtree (column : PathColumn) (offset : Nat) (path : String) :
    (Condition.inSubtree column.name path).1.flatMap (Piece.symbols offset) =
      (inSubtree column ((offset + 1) % Number.twoTo 64)).text := by
  have first : Symbol.read ("(" ++ column.name ++ " ILIKE ").toList =
      [.opening, .word column.name.toList, .word "ILIKE".toList] := by
    cases column <;> decide +kernel
  have again : Symbol.read (" OR " ++ column.name ++ " ILIKE (").toList =
      [.or, .word column.name.toList, .word "ILIKE".toList, .opening] := by
    cases column <;> decide +kernel
  have last : Symbol.read " || '::%'))".toList =
      [.word ['|', '|'], .literal [':', ':', '%'], .closing, .closing] := by decide +kernel
  simp only [Condition.inSubtree, List.flatMap_cons, List.flatMap_nil, Piece.symbols, first, again,
    last, toList_placeholder]
  rfl

theorem text_ofPattern (column : PathColumn) (descendants : Bool) (offset : Nat)
    (pattern : PathPattern) :
    (pathLike column.name descendants pattern).1.flatMap (Piece.symbols offset) =
      (ofPattern column descendants ((offset + 1) % Number.twoTo 64) pattern).text := by
  cases pattern with
  | beginning start => exact text_like column offset
  | subtree path => exact text_inSubtree column offset path
  | exact path =>
    cases descendants with
    | false => exact text_like column offset
    | true => exact text_inSubtree column offset path

section

variable {fold : Char → Char} {values : Nat → Option Param} {paths : Paths}
  {slug : Option (List Char)} {column : PathColumn} {number : Nat} {path : List Char}

theorem holds_inSubtree (stored : column.value paths slug = some path) {base : String}
    (bound : values number = some (.text (Like.escape base))) :
    (inSubtree column number).holds fold values paths slug ↔
      Like.Same fold path base.toList ∨ Like.Begins fold path (base.toList ++ [':', ':']) := by
  have below : Like.escapeChars base.toList ++ [':', ':', '%'] =
      Like.escapeChars (base.toList ++ [':', ':']) ++ ['%'] := by
    rw [Like.escapeChars_append, List.append_assoc]
    rfl
  simp only [inSubtree, holds, PatternTerm.value, bound, stored, Like.escape, String.toList_ofList,
    Option.any_some, Option.bind_eq_bind, Option.bind_some, Option.pure_def, below,
    Bool.or_eq_true, Like.matched_escapeChars, Like.matched_escapeChars_run]

theorem holds_ofPattern (stored : column.value paths slug = some path) (descendants : Bool)
    {pattern : PathPattern} (bound : values number = some (.text pattern.value)) :
    (ofPattern column descendants number pattern).holds fold values paths slug ↔
      pattern.Selects fold descendants path := by
  cases pattern with
  | beginning start =>
    have run : (Like.beginning start).toList = Like.escapeChars start.toList ++ ['%'] := by
      simp [Like.beginning, Like.escape]
    simp only [ofPattern, holds, PatternTerm.value, bound, stored, PathPattern.value, run,
      Option.any_some, Like.matched_escapeChars_run, PathPattern.Selects]
  | subtree base => exact holds_inSubtree stored bound
  | exact single =>
    cases descendants with
    | true => simpa [ofPattern, PathPattern.Selects] using holds_inSubtree stored bound
    | false =>
      simp only [ofPattern, holds, PatternTerm.value, bound, stored, PathPattern.value, Like.escape,
        String.toList_ofList, Option.any_some, Like.matched_escapeChars, PathPattern.Selects,
        Bool.false_eq_true, if_false, false_and, or_false]

end

end PathTest

namespace Predicate

open Condition PathTest

theorem says_tag (offset : Nat) (pattern : String) :
    Says (ofFilter offset (.leaf (.tag pattern))).sql
      (.someSlug (.ofPattern .slug false ((offset + 1) % Number.twoTo 64) (.ofText pattern))) := by
  have front : Symbol.read "EXISTS (SELECT 1 FROM unnest(nt.slugs) AS s(slug) WHERE ".toList =
      fromSlugs := by decide +kernel
  have last : Symbol.read ")".toList = [.closing] := by decide +kernel
  have inner := text_ofPattern .slug false offset (.ofText pattern)
  rw [PathColumn.name] at inner
  have read : symbols offset (.tag pattern) = _ := (read_render offset _).2
  simp only [ofLeaf, ofTag, within, List.flatMap_cons, List.flatMap_append, List.flatMap_nil,
    Piece.symbols, front, last, inner, List.append_nil] at read
  exact read

theorem says_deck (offset : Nat) (path : String) :
    Says (ofFilter offset (.leaf (.deck path))).sql
      (.ofPattern .deck true ((offset + 1) % Number.twoTo 64) (.ofText path)) := by
  have inner := text_ofPattern .deck true offset (.ofText path)
  have read : symbols offset (.deck path) = _ := (read_render offset _).2
  exact read.trans inner

/-- The values of a predicate are found by the numbers that its placeholders have behind `offset`
other values. -/
def Binds (offset : Nat) (params : List Param) (values : Nat → Option Param) : Prop :=
  ∀ index param, params[index]? = some param →
    values ((offset + index + 1) % Number.twoTo 64) = some param

def numberedFromOne (params : List Param) : Nat → Option Param
  | 0 => none
  | number + 1 => params[number]?

theorem binds_numberedFromOne {before params : List Param}
    (fits : before.length + params.length < Number.twoTo 64) (after : List Param) :
    Binds before.length params (numberedFromOne (before ++ (params ++ after))) := by
  intro index param bound
  have inside := (List.getElem?_eq_some_iff.1 bound).1
  have small : before.length + index + 1 < Number.twoTo 64 :=
    Nat.lt_of_le_of_lt (Nat.add_lt_add_left inside _) fits
  rw [Nat.mod_eq_of_lt small, numberedFromOne, List.getElem?_append_right (Nat.le_add_right _ _),
    Nat.add_sub_cancel_left, List.getElem?_append_left inside, bound]

/-- The condition on a tag or a deck reads as one test, which says of the stored paths of a card
what the pattern says, wherever the value of the pattern is bound. -/
theorem hierarchy_of_pattern (fold : Char → Char) (offset : Nat) (pattern : String) :
    let tag := ofFilter offset (.leaf (.tag pattern))
    let deck := ofFilter offset (.leaf (.deck pattern))
    (∃ test selects, Says tag.sql test ∧ (∀ other, Says tag.sql other → other = test) ∧
      Hierarchy fold false pattern.toList selects ∧
      ∀ values, Binds offset tag.params values → ∀ paths,
        test.holds fold values paths none ↔ ∃ slug ∈ paths.slugs, selects slug) ∧
    (∃ test selects, Says deck.sql test ∧ (∀ other, Says deck.sql other → other = test) ∧
      Hierarchy fold true pattern.toList selects ∧
      ∀ values, Binds offset deck.params values → ∀ paths,
        test.holds fold values paths none ↔ selects paths.deck) ∧
    ∀ before params after : List Param, before.length = offset →
      offset + params.length < Number.twoTo 64 →
        Binds offset params (numberedFromOne (before ++ (params ++ after))) := by
  intro tag deck
  have tagSays : Says tag.sql _ := says_tag offset pattern
  have deckSays : Says deck.sql _ := says_deck offset pattern
  have tagParam : tag.params[0]? = some (.text (PathPattern.ofText pattern).value) := by
    simp [tag, ofFilter, ofCondition, ofLeaf, ofTag, snd_pathLike]
  have deckParam : deck.params[0]? = some (.text (PathPattern.ofText pattern).value) := by
    simp [deck, ofFilter, ofCondition, ofLeaf, ofDeck, snd_pathLike]
  refine ⟨⟨_, _, tagSays, fun other another => says_unique another tagSays,
    PathPattern.hierarchy_ofText fold false pattern, fun values binds paths => ?_⟩,
    ⟨_, _, deckSays, fun other another => says_unique another deckSays,
      PathPattern.hierarchy_ofText fold true pattern, fun values binds paths => ?_⟩, ?_⟩
  · rw [holds, List.any_eq_true]
    have each (slug : List Char) : (PathTest.ofPattern .slug false ((offset + 1) % Number.twoTo 64)
          (.ofText pattern)).holds fold values paths (some slug) ↔ _ :=
      holds_ofPattern rfl false (binds 0 _ tagParam)
    simp only [each]
  · exact holds_ofPattern rfl true (binds 0 _ deckParam)
  · rintro before params after rfl fits
    exact binds_numberedFromOne fits after

theorem hierarchy_below_lang :
    let values := numberedFromOne [.integer 7, .text "lang"]
    ∃ test, Says (ofFilter 1 (.leaf (.deck "lang::*"))).sql test ∧
      test.holds id values ⟨"lang::verb".toList, []⟩ none = true ∧
      test.holds id values ⟨"language".toList, []⟩ none = false := by
  intro values
  obtain ⟨-, ⟨test, selects, written, -, hierarchy, holds⟩, positional⟩ :=
    hierarchy_of_pattern id 1 "lang::*"
  have bound := positional [.integer 7] [.text "lang"] [] rfl (by decide +kernel)
  have below := hierarchy.subtree "lang".toList (by decide +kernel)
  have beside := hierarchy.sibling "lang".toList (by decide +kernel) "uage".toList (by decide)
  refine ⟨test, written, ?_, ?_⟩
  · rw [holds values bound, below, Like.Begins]
    exact .inr (by decide +kernel)
  · rw [← Bool.not_eq_true, holds values bound]
    rw [Like.Begins] at beside
    exact beside (by decide)

end Predicate

end CardSearch.Sql
