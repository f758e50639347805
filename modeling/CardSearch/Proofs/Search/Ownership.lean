import CardSearch.Proofs.Search.Independence
import CardSearch.Proofs.Sql.Clause
import CardSearch.Proofs.Sql.Selection

/-!
A search sees the cards of its user alone. The condition of both statements is one conjunction, of
the ownership and the filter, and the filter stands in parentheses that nothing inside of it closes.
-/

namespace CardSearch.Search.Statements

open CardSearch.Query CardSearch.Sql CardSearch.Sql.Expression CardSearch.Sql.Symbol

def ownership : List Symbol :=
  Symbol.read "c.user_id = $1".toList

def IsClauseCondition (text : List Symbol) : Prop :=
  text = ownership ∨ IsLeafCondition text

theorem shaped_ownership : Condition.Shaped ownership := by
  have begins : Piece.mayBegin ownership := by decide +kernel
  exact .inl begins

theorem sealed_isClauseCondition : Sealed IsClauseCondition := by
  apply sealed_of_shaped
  rintro text (rfl | ⟨offset, leaf, rfl⟩)
  · exact shaped_ownership
  · exact Condition.shaped_symbols offset leaf

theorem toList_ownedBy (predicate : Predicate) :
    (ownedBy predicate).toList =
      "c.user_id = $1 AND".toList ++ ' ' :: '(' :: (predicate.sql.toList ++ [')']) := by
  have front : "c.user_id = $1 AND (".toList = "c.user_id = $1 AND".toList ++ [' ', '('] := by
    decide +kernel
  have back : ")".toList = [')'] := rfl
  unfold ownedBy
  rw [String.toList_append, String.toList_append, front, back, List.append_assoc, List.append_assoc]
  rfl

theorem separator?_blank : separator? ' ' = some [] := by
  decide

theorem read_ownedBy {predicate : Predicate} (inner : Complete predicate.sql.toList) :
    Complete (ownedBy predicate).toList ∧
      Symbol.read (ownedBy predicate).toList =
        ownership ++ .and :: .opening :: (Symbol.read predicate.sql.toList ++ [.closing]) := by
  have opens : separator? '(' = some [.opening] := by decide
  have closes : separator? ')' = some [.closing] := by decide
  have front : Complete "c.user_id = $1 AND".toList := ⟨"AND".toList, by decide +kernel⟩
  have words : Symbol.read "c.user_id = $1 AND".toList = ownership ++ [.and] := by decide +kernel
  rw [toList_ownedBy]
  constructor
  · apply complete_append_separator front separator?_blank
    apply complete_append_separator complete_nil opens
    exact complete_append_separator inner closes complete_nil
  · rw [read_append_separator front separator?_blank, read_separator opens,
      read_append_separator inner closes, words]
    simp

theorem read_join (join : Join) :
    Complete join.sql.toList ∧
      Expression.Balanced (isWord whereName) (Symbol.read join.sql.toList) := by
  unfold Expression.Balanced
  cases join with
  | note => exact ⟨⟨"c.note_id".toList, by decide +kernel⟩, by decide +kernel⟩
  | deck => exact ⟨⟨"c.deck_id".toList, by decide +kernel⟩, by decide +kernel⟩
  | noteTags =>
    unfold Join.sql
    rw [String.toList_append, String.toList_ofList, String.toList_ofList]
    exact ⟨⟨"TRUE".toList, by decide +kernel⟩, by decide +kernel⟩

def joinsText (joins : List Join) : List Char :=
  joins.flatMap fun join => ' ' :: join.sql.toList

theorem read_joins {front : List Char} (complete : Complete front)
    (outside : Expression.Balanced (isWord whereName) (Symbol.read front)) (joins : List Join) :
    Complete (front ++ joinsText joins) ∧
      Expression.Balanced (isWord whereName) (Symbol.read (front ++ joinsText joins)) := by
  induction joins generalizing front with
  | nil => simpa [joinsText] using ⟨complete, outside⟩
  | cons join joins ih =>
    obtain ⟨joined, inside⟩ := read_join join
    have next : Complete (front ++ ' ' :: join.sql.toList) :=
      complete_append_separator complete separator?_blank joined
    have balanced : Expression.Balanced (isWord whereName)
        (Symbol.read (front ++ ' ' :: join.sql.toList)) := by
      unfold Expression.Balanced at *
      rw [read_append_separator complete separator?_blank]
      simp [outside, inside]
    have text : front ++ joinsText (join :: joins) =
        front ++ ' ' :: join.sql.toList ++ joinsText joins := by
      simp [joinsText]
    rw [text]
    exact ih next balanced

theorem toList_select (columns : String) (joins : List Join) (condition : String) :
    (select columns joins condition).toList =
      ("SELECT " ++ columns ++ " FROM cards c").toList ++ joinsText joins ++
        ' ' :: ("WHERE".toList ++ ' ' :: condition.toList) := by
  have word : " WHERE ".toList = ' ' :: ("WHERE".toList ++ [' ']) := by decide +kernel
  have listed : (String.join (joins.map fun join => " " ++ join.sql)).toList = joinsText joins := by
    simp [joinsText, String.toList_join, List.flatMap_map]
  unfold select
  rw [String.toList_append, String.toList_append, String.toList_append, listed, word]
  simp

theorem whereClause_select {columns : String}
    (complete : Complete ("SELECT " ++ columns ++ " FROM cards c").toList)
    (outside : Expression.Balanced (isWord whereName)
      (Symbol.read ("SELECT " ++ columns ++ " FROM cards c").toList))
    (joins : List Join) {condition : String} {more : List Char}
    (whole : Complete condition.toList)
    (balanced : Expression.Balanced (isWord orderName) (Symbol.read condition.toList))
    (ends : more = [] ∨ startsApart more ∧
      ∀ symbol ∈ (Symbol.read more).head?, symbol.isWord orderName) :
    whereClause (Symbol.read ((select columns joins condition).toList ++ more)) =
      Symbol.read condition.toList := by
  obtain ⟨joined, balancedFront⟩ := read_joins complete outside joins
  have word : Complete "WHERE".toList := ⟨"WHERE".toList, by decide +kernel⟩
  have symbol : Symbol.read "WHERE".toList = [.word "WHERE".toList] := by decide +kernel
  have begins : (Symbol.word "WHERE".toList).isWord whereName := by decide +kernel
  have behind : Symbol.read (condition.toList ++ more) =
      Symbol.read condition.toList ++ Symbol.read more := by
    rcases ends with rfl | ⟨apart, _⟩
    · simp
    · exact read_append_apart whole apart
  have last : ∀ symbol ∈ (Symbol.read more).head?, symbol.isWord orderName := by
    rcases ends with rfl | ⟨_, ends⟩
    · simp
    · exact ends
  have text : (select columns joins condition).toList ++ more =
      ("SELECT " ++ columns ++ " FROM cards c").toList ++ joinsText joins ++
        ' ' :: ("WHERE".toList ++ ' ' :: (condition.toList ++ more)) := by
    rw [toList_select]
    simp only [List.append_assoc, List.cons_append]
  rw [text, read_append_separator joined separator?_blank,
    read_append_separator word separator?_blank, symbol, behind]
  exact whereClause_eq balancedFront begins balanced last

theorem head_count : Complete ("SELECT " ++ "count(*)" ++ " FROM cards c").toList ∧
    Expression.Balanced (isWord whereName)
      (Symbol.read ("SELECT " ++ "count(*)" ++ " FROM cards c").toList) := by
  unfold Expression.Balanced
  rw [String.toList_append, String.toList_append]
  exact ⟨⟨"c".toList, by decide +kernel⟩, by decide +kernel⟩

theorem head_page : Complete ("SELECT " ++ cardColumns ++ " FROM cards c").toList ∧
    Expression.Balanced (isWord whereName)
      (Symbol.read ("SELECT " ++ cardColumns ++ " FROM cards c").toList) := by
  unfold Expression.Balanced cardColumns
  simp only [String.toList_append]
  exact ⟨⟨"c".toList, by decide +kernel⟩, by decide +kernel⟩

theorem read_window (options : Options) (bound : Nat) :
    startsApart (window options bound).toList ∧
      ∀ symbol ∈ (Symbol.read (window options bound).toList).head?, symbol.isWord orderName := by
  have begins : " ORDER BY ".toList = ' ' :: ("ORDER".toList ++ ' ' :: "BY ".toList) := by
    decide +kernel
  have word : Complete "ORDER".toList := ⟨"ORDER".toList, by decide +kernel⟩
  have symbol : Symbol.read "ORDER".toList = [.word "ORDER".toList] := by decide +kernel
  have named : (Symbol.word "ORDER".toList).isWord orderName := by decide +kernel
  obtain ⟨rest, text⟩ : ∃ rest, (window options bound).toList =
      ' ' :: ("ORDER".toList ++ ' ' :: rest) := by
    unfold window
    simp only [String.toList_append, begins, List.append_assoc, List.cons_append]
    exact ⟨_, rfl⟩
  rw [text]
  refine ⟨by simp [startsApart, separator?_blank], ?_⟩
  rw [read_separator separator?_blank, read_append_separator word separator?_blank, symbol]
  simpa using named

variable {config : Config} {user : Int} {filter : Filter} {options : Options}
  {statements : Statements}

theorem params_of_ofFilter (accepted : ofFilter config user filter options = .ok statements) :
    statements.count.params.head? = some (.integer user) ∧
      statements.page.params.head? = some (.integer user) := by
  rw [ofFilter] at accepted
  split at accepted
  · contradiction
  · obtain ⟨perPage, _, rfl⟩ := Fallible.map_eq_ok_iff.1 accepted
    exact ⟨rfl, rfl⟩

theorem balanced_filter (filter : Filter) (bars : Symbol → Bool)
    (fewer : ∀ symbol, bars symbol → Level.disjunction.bars symbol) :
    Expression.Balanced bars (Symbol.read (Predicate.ofFilter 1 filter).sql.toList) :=
  (balanced_of_reads (Predicate.says_expression 1 filter)).weaken fewer

theorem balanced_ownedBy (filter : Filter) :
    Expression.Balanced (isWord orderName)
      (Symbol.read (ownedBy (Predicate.ofFilter 1 filter)).toList) := by
  have inner := balanced_filter filter (fun _ => false) (by simp)
  have opens : depthThrough? (isWord orderName) 0 (ownership ++ [.and, .opening]) = some 1 := by
    decide +kernel
  have whole := balanced_enclosed inner (ownership ++ [.and, .opening]) [.closing] opens rfl
  rw [(read_ownedBy (Predicate.complete_sql 1 filter)).2]
  simpa using whole

theorem whereClause_of_ofFilter (accepted : ofFilter config user filter options = .ok statements) :
    whereClause (Symbol.read statements.count.sql.toList) =
        Symbol.read (ownedBy (Predicate.ofFilter 1 filter)).toList ∧
      whereClause (Symbol.read statements.page.sql.toList) =
        Symbol.read (ownedBy (Predicate.ofFilter 1 filter)).toList := by
  obtain ⟨counting, paging⟩ := sql_of_ofFilter accepted
  have complete := (read_ownedBy (Predicate.complete_sql 1 filter)).1
  have balanced := balanced_ownedBy filter
  constructor
  · have clause := whereClause_select head_count.1 head_count.2
      (Predicate.ofFilter 1 filter).joins complete balanced (.inl rfl)
    rw [List.append_nil] at clause
    rw [counting, clause]
  · rw [paging, String.toList_append]
    exact whereClause_select head_page.1 head_page.2 _ complete balanced
      (.inr (read_window options _))

def clauseExpression (filter : Filter) : Expression :=
  .and (.condition ownership) (Predicate.expression 1 filter)

theorem reads_clauseExpression (filter : Filter) :
    Reads IsClauseCondition .disjunction
      (Symbol.read (ownedBy (Predicate.ofFilter 1 filter)).toList) (clauseExpression filter) := by
  have owned : Expression.Balanced Level.operand.bars ownership := by
    unfold Expression.Balanced
    decide +kernel
  have is : IsClauseCondition ownership := .inl rfl
  have front := Reads.negation (.operand (.condition is owned))
  have more : ∀ text, IsLeafCondition text → IsClauseCondition text := fun _ is => .inr is
  have inner := (Predicate.says_expression 1 filter).mono more
  rw [(read_ownedBy (Predicate.complete_sql 1 filter)).2]
  exact .conjunction (.and front (.operand (.group inner)))

/-- The condition of both statements reads as one expression, which is true for a card exactly if
the card belongs to the user bound first and the predicate of the filter is true, whatever the
conditions of the leaves say. The parenthesis in front of the filter is closed behind it: inside of
it no parenthesis is closed that was not opened there, and no literal is left open. -/
theorem whereClause_yes_iff_owned
    (accepted : ofFilter config user filter options = .ok statements) :
    let predicate := (Predicate.ofFilter 1 filter).sql
    ∃ expression own,
      (∀ statement ∈ [statements.count, statements.page],
        statement.params.head? = some (.integer user) ∧
        whereClause (Symbol.read statement.sql.toList) =
          ownership ++ .and :: .opening :: (Symbol.read predicate.toList ++ [.closing]) ∧
        Reads IsClauseCondition .disjunction (whereClause (Symbol.read statement.sql.toList))
          expression ∧
        ∀ other, Reads IsClauseCondition .disjunction
          (whereClause (Symbol.read statement.sql.toList)) other → other = expression) ∧
      Predicate.Says predicate own ∧
      expression.conditions = ownership :: own.conditions ∧
      own.conditions = conditionTexts 1 filter.leaves ∧
      (∀ values, expression.value values = .yes ↔
        values 0 = .yes ∧ own.value (fun index => values (1 + index)) = .yes) ∧
      Complete predicate.toList ∧
      Expression.Balanced (fun _ => false) (Symbol.read predicate.toList) := by
  intro predicate
  have complete := Predicate.complete_sql 1 filter
  have text := (read_ownedBy complete).2
  have reads := reads_clauseExpression filter
  obtain ⟨counting, paging⟩ := whereClause_of_ofFilter accepted
  obtain ⟨bound, boundFirst⟩ := params_of_ofFilter accepted
  refine ⟨clauseExpression filter, Predicate.expression 1 filter, ?_,
    Predicate.says_expression 1 filter, rfl, Predicate.conditions_expression 1 filter, ?_,
    complete, balanced_filter filter _ (by simp)⟩
  · simp only [List.mem_cons, List.not_mem_nil, or_false, forall_eq_or_imp, forall_eq, counting,
      paging]
    have unique : ∀ other, Reads IsClauseCondition .disjunction
        (Symbol.read (ownedBy (Predicate.ofFilter 1 filter)).toList) other →
        other = clauseExpression filter := by
      intro other another
      exact reads_unique sealed_isClauseCondition another reads rfl
    exact ⟨⟨bound, text, reads, unique⟩, boundFirst, text, reads, unique⟩
  · intro values
    rw [← Truth.isYes_iff, ← Truth.isYes_iff, ← Truth.isYes_iff]
    simp [clauseExpression, value, conditions]

theorem whereClause_owned_by_seven :
    ∃ statements, ofFilter {} 7
        (.or (.leaf (.text ") OR (1=1" none)) (.not (.leaf (.deck "a::*")))) {} = .ok statements ∧
      ∃ expression, Reads IsClauseCondition .disjunction
          (whereClause (Symbol.read statements.page.sql.toList)) expression ∧
        ∀ values, expression.value values = .yes → values 0 = .yes := by
  refine ⟨_, rfl, ?_⟩
  obtain ⟨expression, own, both, -, -, -, holds, -⟩ := @whereClause_yes_iff_owned {} 7
    (.or (.leaf (.text ") OR (1=1" none)) (.not (.leaf (.deck "a::*")))) {} _ rfl
  have page := both _ (List.mem_cons_of_mem _ List.mem_cons_self)
  exact ⟨expression, page.2.2.1, fun values yes => ((holds values).1 yes).1⟩

end CardSearch.Search.Statements
