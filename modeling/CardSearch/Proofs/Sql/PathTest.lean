import CardSearch.Proofs.Number.Numeral
import CardSearch.Proofs.Sql.Matching
import CardSearch.Proofs.Sql.Symbol
import CardSearch.Sql.Param

/-!
Conditions on the paths that are stored for a card, with their SQL text and with what they say. A
path is compared with a pattern, which is a bound value or texts joined by `||`; comparisons are
joined by `OR`, and `EXISTS` asks for some tag of the card. No two conditions have the same text.
-/

namespace CardSearch.Sql

structure Paths where
  deck : List Char
  slugs : List (List Char)

inductive PathColumn where
  | deck
  /-- The tag that `EXISTS` looks at. -/
  | slug
  deriving DecidableEq, Repr

def PathColumn.name : PathColumn → String
  | .deck => "d.path"
  | .slug => "s.slug"

def PathColumn.value (paths : Paths) (slug : Option (List Char)) : PathColumn → Option (List Char)
  | .deck => some paths.deck
  | .slug => slug

inductive PatternTerm where
  | bound (number : Nat)
  | literal (text : List Char)
  | joined (front last : PatternTerm)
  deriving DecidableEq, Repr

namespace PatternTerm

def text : PatternTerm → List Symbol
  | .bound number => [.word ('$' :: Nat.toDigits 10 number)]
  | .literal text => [.literal text]
  | .joined front last =>
    .opening :: (front.text ++ .word ['|', '|'] :: (last.text ++ [.closing]))

/-- There is no text without a bound one. -/
def value (values : Nat → Option Param) : PatternTerm → Option (List Char)
  | .bound number =>
    match values number with
    | some (.text value) => some value.toList
    | _ => none
  | .literal text => some text
  | .joined front last => do
    let front ← front.value values
    let last ← last.value values
    return front ++ last

/-- A term is known from its text, and so is what follows it. -/
theorem text_append_injective {first second : PatternTerm} {rest more : List Symbol}
    (same : first.text ++ rest = second.text ++ more) : first = second ∧ rest = more := by
  induction first generalizing second rest more with
  | bound number =>
    cases second with
    | bound other =>
      simp only [text, List.singleton_append, List.cons.injEq, Symbol.word.injEq, true_and] at same
      exact ⟨congrArg bound (Number.toDigits_injective same.1), same.2⟩
    | literal | joined => simp [text] at same
  | literal written =>
    cases second with
    | literal other =>
      simp only [text, List.singleton_append, List.cons.injEq, Symbol.literal.injEq] at same
      exact ⟨congrArg literal same.1, same.2⟩
    | bound | joined => simp [text] at same
  | joined front last ihFront ihLast =>
    cases second with
    | joined otherFront otherLast =>
      simp only [text, List.cons_append, List.append_assoc, List.nil_append, List.cons.injEq,
        true_and] at same
      obtain ⟨rfl, behind⟩ := ihFront same
      obtain ⟨rfl, closed⟩ := ihLast (List.cons.inj behind).2
      exact ⟨rfl, (List.cons.inj closed).2⟩
    | bound | literal => simp [text] at same

end PatternTerm

inductive PathTest where
  | like (column : PathColumn) (pattern : PatternTerm)
  | either (left right : PathTest)
  | someSlug (test : PathTest)
  deriving DecidableEq, Repr

namespace PathTest

def fromSlugs : List Symbol :=
  Symbol.read "EXISTS (SELECT 1 FROM unnest(nt.slugs) AS s(slug) WHERE".toList

def text : PathTest → List Symbol
  | .like column pattern =>
    .word column.name.toList :: .word "ILIKE".toList :: pattern.text
  | .either left right => .opening :: (left.text ++ .or :: (right.text ++ [.closing]))
  | .someSlug test => fromSlugs ++ (test.text ++ [.closing])

/-- Whether a card passes a test, when `slug` is the tag that `EXISTS` looks at. -/
def holds (fold : Char → Char) (values : Nat → Option Param) (paths : Paths)
    (slug : Option (List Char)) : PathTest → Bool
  | .like column pattern =>
    (column.value paths slug).any fun path =>
      (pattern.value values).any fun pattern => Like.matched fold pattern path
  | .either left right =>
    left.holds fold values paths slug || right.holds fold values paths slug
  | .someSlug test => paths.slugs.any fun slug => test.holds fold values paths (some slug)

theorem fromSlugs_eq : ∃ rest, fromSlugs = .word "EXISTS".toList :: .opening :: rest := by
  have read : fromSlugs.take 2 = [.word "EXISTS".toList, .opening] := by decide +kernel
  exact ⟨fromSlugs.drop 2, by rw [← List.take_append_drop 2 fromSlugs, read]; rfl⟩

theorem text_append_injective {first second : PathTest} {rest more : List Symbol}
    (same : first.text ++ rest = second.text ++ more) : first = second ∧ rest = more := by
  obtain ⟨slugs, begins⟩ := fromSlugs_eq
  induction first generalizing second rest more with
  | like column pattern =>
    cases second with
    | like otherColumn other =>
      simp only [text, List.cons_append, List.cons.injEq, Symbol.word.injEq, true_and] at same
      obtain ⟨rfl, behind⟩ := PatternTerm.text_append_injective same.2
      have columns : column = otherColumn := by
        cases column <;> cases otherColumn <;> first | rfl | exact absurd same.1 (by decide)
      exact ⟨by rw [columns], behind⟩
    | either => simp [text] at same
    | someSlug => simp [text, begins] at same
  | either left right ihLeft ihRight =>
    cases second with
    | either otherLeft otherRight =>
      simp only [text, List.cons_append, List.append_assoc, List.nil_append, List.cons.injEq,
        true_and] at same
      obtain ⟨rfl, behind⟩ := ihLeft same
      obtain ⟨rfl, closed⟩ := ihRight (List.cons.inj behind).2
      exact ⟨rfl, (List.cons.inj closed).2⟩
    | like => simp [text] at same
    | someSlug => simp [text, begins] at same
  | someSlug test ih =>
    cases second with
    | someSlug other =>
      simp only [text, List.append_assoc, List.append_cancel_left_eq] at same
      obtain ⟨rfl, behind⟩ := ih same
      exact ⟨rfl, (List.cons.inj behind).2⟩
    | like => simp [text, begins] at same
    | either => simp [text, begins] at same

def Says (sql : String) (test : PathTest) : Prop :=
  Symbol.read sql.toList = test.text

theorem says_unique {sql : String} {first second : PathTest} (one : Says sql first)
    (another : Says sql second) : first = second := by
  have same : first.text ++ [] = second.text ++ [] := by rw [← one, ← another]
  exact (text_append_injective same).1

end PathTest

end CardSearch.Sql
