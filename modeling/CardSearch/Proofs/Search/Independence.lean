import CardSearch.Fallible
import CardSearch.Proofs.Sql.Shape
import CardSearch.Search.Statement

/-!
The texts of the two statements of a search depend on the shape of the filter and the order of the
cards alone. What a user has typed, the user, the page and its length reach a database only as bound
values.
-/

namespace CardSearch.Search.Statements

open CardSearch.Query CardSearch.Sql

variable {config : Config} {user : Int} {filter : Filter} {options : Options}
  {statements : Statements}

theorem sql_of_ofFilter (accepted : ofFilter config user filter options = .ok statements) :
    statements.count.sql =
        select "count(*)" (Predicate.ofFilter 1 filter).joins
          (ownedBy (Predicate.ofFilter 1 filter)) ∧
      statements.page.sql =
        select cardColumns (Join.union cardJoins (Predicate.ofFilter 1 filter).joins)
            (ownedBy (Predicate.ofFilter 1 filter)) ++
          window options ((Predicate.ofFilter 1 filter).params.length + 1) := by
  rw [ofFilter] at accepted
  split at accepted
  · contradiction
  · obtain ⟨perPage, _, rfl⟩ := Fallible.map_eq_ok_iff.1 accepted
    exact ⟨rfl, rfl⟩

theorem window_eq_of_order {one other : Options} (sort : one.sort = other.sort)
    (direction : one.direction = other.direction) (bound : Nat) :
    window one bound = window other bound := by
  unfold window
  rw [sort, direction]

/-- Filters of one shape have the same predicate and joins, and in the same order the same
statements, whatever their texts and numbers, the users, the settings and the pages. -/
theorem sql_eq_of_alike {one other : Filter} (alike : one.Alike other) :
    (∀ offset, (Predicate.ofFilter offset one).sql = (Predicate.ofFilter offset other).sql ∧
      (Predicate.ofFilter offset one).joins = (Predicate.ofFilter offset other).joins) ∧
    ∀ (config otherConfig : Config) (user otherUser : Int) (options otherOptions : Options)
      (statements otherStatements : Statements), options.sort = otherOptions.sort →
      options.direction = otherOptions.direction →
      ofFilter config user one options = .ok statements →
      ofFilter otherConfig otherUser other otherOptions = .ok otherStatements →
      statements.count.sql = otherStatements.count.sql ∧
        statements.page.sql = otherStatements.page.sql := by
  constructor
  · intro offset
    obtain ⟨text, joins, _⟩ := Predicate.sql_of_alike alike offset
    exact ⟨text, joins⟩
  · intro config otherConfig user otherUser options otherOptions statements otherStatements sort
      direction accepted otherAccepted
    obtain ⟨text, joins, count⟩ := Predicate.sql_of_alike alike 1
    have owned : ownedBy (Predicate.ofFilter 1 one) = ownedBy (Predicate.ofFilter 1 other) := by
      unfold ownedBy
      rw [text]
    obtain ⟨counting, paging⟩ := sql_of_ofFilter accepted
    obtain ⟨otherCounting, otherPaging⟩ := sql_of_ofFilter otherAccepted
    constructor
    · rw [counting, otherCounting, joins, owned]
    · have windows := window_eq_of_order sort direction
      rw [paging, otherPaging, joins, owned, count, windows]

/-- Quotes, dollar signs and marks of patterns in the values of two requests. -/
theorem sql_eq_quoted_and_numbered :
    ∃ statements otherStatements,
      ofFilter {} 1 (.or (.leaf (.text "' OR '1'='1" (some "Front"))) (.leaf (.deck "$1::*"))) {} =
          .ok statements ∧
        ofFilter ⟨10, 20⟩ 2 (.or (.leaf (.text "\x7b\x7d" (some "$9"))) (.leaf (.deck "%::*")))
          ⟨3, some 7, .due, .ascending⟩ = .ok otherStatements ∧
        statements.count.sql = otherStatements.count.sql ∧
        statements.page.sql = otherStatements.page.sql := by
  have decks : Leaf.shape (.deck "$1::*") = Leaf.shape (.deck "%::*") := by decide +kernel
  have texts : Leaf.shape (.text "' OR '1'='1" (some "Front")) =
      Leaf.shape (.text "\x7b\x7d" (some "$9")) := rfl
  have same := (sql_eq_of_alike (.or (.leaf texts) (.leaf decks))).2
  refine ⟨_, _, rfl, rfl, ?_⟩
  exact same {} ⟨10, 20⟩ 1 2 {} ⟨3, some 7, .due, .ascending⟩ _ _ rfl rfl rfl rfl

end CardSearch.Search.Statements
