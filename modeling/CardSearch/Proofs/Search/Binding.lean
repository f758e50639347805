import CardSearch.Proofs.Search.Ownership
import CardSearch.Proofs.Sql.Numbering

/-!
The values of the two statements. The user is bound first, behind it the values of the filter, and
behind these the length and the offset of a page; the placeholders of a statement are those of its
values.
-/

namespace CardSearch.Search.Statements

open CardSearch.Query CardSearch.Sql

/-- Dollar signs stand in front of the numbers of the first `count` values, and nowhere else; every
number is there. -/
def Placed (count : Nat) (sql : String) : Prop :=
  ∀ digits, digits ∈ Placeholder.runs sql.toList ↔
    ∃ number, 1 ≤ number ∧ number ≤ count ∧ digits = Placeholder.wordDigits number

theorem placed_of_numbered {count : Nat} {sql : String} (numbered : Numbered 0 count sql.toList) :
    Placed count sql := by
  obtain ⟨listed, written, counts⟩ := numbered
  intro digits
  rw [written, List.mem_map]
  constructor
  · rintro ⟨number, member, rfl⟩
    obtain ⟨lower, upper⟩ := counts.mem_iff.1 member
    exact ⟨number, lower, by omega, rfl⟩
  · rintro ⟨number, lower, upper, rfl⟩
    exact ⟨number, counts.mem_iff.2 ⟨lower, by omega⟩, rfl⟩

theorem plain_join (join : Join) : '$' ∉ join.sql.toList := by
  cases join <;> decide +kernel

theorem plain_joinsText (joins : List Join) : '$' ∉ joinsText joins := by
  simp [joinsText, plain_join]

theorem numbered_select {count : Nat} {columns condition : String}
    (plain : '$' ∉ ("SELECT " ++ columns ++ " FROM cards c").toList) (joins : List Join)
    (numbered : Numbered 0 count condition.toList) :
    Numbered 0 count (select columns joins condition).toList := by
  have word : '$' ∉ ' ' :: ("WHERE".toList ++ [' ']) := by decide +kernel
  have text : (select columns joins condition).toList =
      ("SELECT " ++ columns ++ " FROM cards c").toList ++ (joinsText joins ++
        (' ' :: ("WHERE".toList ++ [' ']) ++ condition.toList)) := by
    rw [toList_select]
    simp
  rw [text]
  apply Numbered.of_not_mem_append plain
  apply Numbered.of_not_mem_append (plain_joinsText joins)
  exact Numbered.of_not_mem_append word numbered

theorem numbered_ownedBy {predicate : Predicate}
    (inner : Numbered 1 predicate.params.length predicate.sql.toList) :
    Numbered 0 (1 + predicate.params.length) (ownedBy predicate).toList := by
  have owner : Numbered 0 1 "c.user_id = $1 AND".toList := ⟨[1], by decide +kernel, .single⟩
  have opening : '$' ∉ [' ', '('] := by decide
  have closing : '$' ∉ [')'] := by decide
  have group := Numbered.of_not_mem_append opening (inner.append_of_not_mem closing rfl)
  rw [toList_ownedBy]
  exact owner.append group rfl

theorem numbered_placeholder (offset index : Nat) :
    Numbered (offset + index) 1 (placeholder offset index).toList :=
  ⟨[offset + index + 1], Piece.runs_placeholder offset index, .single⟩

def order (options : Options) : String :=
  " ORDER BY " ++ options.sort.column ++ " " ++ options.direction.sql ++ " NULLS LAST, c.id " ++
    options.direction.sql

theorem unusedIn_order (options : Options) : Condition.unusedIn (order options).toList := by
  have words : Condition.unusedIn " ORDER BY ".toList ∧ Condition.unusedIn " ".toList ∧
      Condition.unusedIn " NULLS LAST, c.id ".toList := by decide +kernel
  have column : Condition.unusedIn options.sort.column.toList := by
    cases options.sort <;> decide +kernel
  have direction : Condition.unusedIn options.direction.sql.toList := by
    cases options.direction <;> decide +kernel
  simp only [order, String.toList_append, Condition.unusedIn_append, words, column, direction,
    Bool.and_self]

theorem window_eq_order (options : Options) (bound : Nat) :
    window options bound = order options ++ " LIMIT " ++ placeholder bound 0 ++ " OFFSET " ++
      placeholder bound 1 :=
  rfl

theorem numbered_window (options : Options) (bound : Nat) :
    Numbered bound 2 (window options bound).toList := by
  have limit : '$' ∉ " LIMIT ".toList := by decide +kernel
  have offset : '$' ∉ ' ' :: "OFFSET ".toList := by decide +kernel
  have text : (window options bound).toList = (order options).toList ++ (" LIMIT ".toList ++
      ((placeholder bound 0).toList ++ (' ' :: "OFFSET ".toList ++
        (placeholder bound 1).toList))) := by
    have word : " OFFSET ".toList = ' ' :: "OFFSET ".toList := by decide +kernel
    simp only [window_eq_order, String.toList_append, word, List.append_assoc]
  have last := Numbered.of_not_mem_append offset (numbered_placeholder bound 1)
  have both := (numbered_placeholder bound 0).append last rfl
  rw [text]
  have ordered := Condition.unusedIn_iff.1 (unusedIn_order options) '$' (by decide)
  exact .of_not_mem_append ordered (.of_not_mem_append limit both)

theorem toNat_pageOffset {page perPage : UInt32} (positive : page ≠ 0) :
    (pageOffset page perPage).toNat = (page.toNat - 1) * perPage.toNat := by
  have first : 1 ≤ page := by grind
  have small : (page.toNat - 1) * perPage.toNat < 2 ^ 64 := by
    have product := Nat.mul_le_mul (Nat.le_of_lt_succ page.toNat_lt)
      (Nat.le_of_lt_succ perPage.toNat_lt)
    have fewer := Nat.mul_le_mul_right perPage.toNat (Nat.sub_le page.toNat 1)
    omega
  rw [pageOffset, UInt64.toNat_mul, UInt32.toNat_toUInt64, UInt32.toNat_toUInt64,
    UInt32.toNat_sub_of_le _ _ first]
  exact Nat.mod_eq_of_lt small

theorem boundOffset_eq (offset : UInt64) :
    boundOffset offset = (min offset.toNat (Number.twoTo 63 - 1) : Nat) := by
  rw [boundOffset]
  split
  next below => rw [Nat.min_eq_left (Nat.le_sub_one_of_lt below)]
  next above =>
    rw [Nat.min_eq_right (by omega)]
    rfl

variable {config : Config} {user : Int} {filter : Filter} {options : Options}
  {statements : Statements}

theorem values_of_ofFilter (accepted : ofFilter config user filter options = .ok statements) :
    statements.count.params = .integer user :: (Predicate.ofFilter 1 filter).params ∧
      statements.page.params = statements.count.params ++ [.integer statements.perPage.toNat,
        .integer (min statements.offset.toNat (Number.twoTo 63 - 1) : Nat)] ∧
      options.pageLength config = .ok statements.perPage ∧
      statements.offset.toNat = (options.page.toNat - 1) * statements.perPage.toNat := by
  rw [ofFilter] at accepted
  split at accepted
  · contradiction
  next positive =>
    obtain ⟨perPage, length, rfl⟩ := Fallible.map_eq_ok_iff.1 accepted
    have capped := boundOffset_eq (pageOffset options.page perPage)
    exact ⟨rfl, by simp only [capped], length, toNat_pageOffset positive⟩

theorem numbered_of_ofFilter (accepted : ofFilter config user filter options = .ok statements) :
    Numbered 0 statements.count.params.length statements.count.sql.toList ∧
      Numbered 0 (statements.count.params.length + 2) statements.page.sql.toList := by
  obtain ⟨counting, paging⟩ := sql_of_ofFilter accepted
  have count : statements.count.params.length =
      1 + (Predicate.ofFilter 1 filter).params.length := by
    rw [(values_of_ofFilter accepted).1, List.length_cons, Nat.add_comm]
  have owned := numbered_ownedBy (Predicate.numbered_sql 1 filter)
  have columns : '$' ∉ ("SELECT " ++ cardColumns ++ " FROM cards c").toList := by
    unfold cardColumns
    simp only [String.toList_append]
    decide +kernel
  have number : '$' ∉ ("SELECT " ++ "count(*)" ++ " FROM cards c").toList := by
    rw [String.toList_append, String.toList_append]
    decide +kernel
  rw [counting, paging, count]
  constructor
  · exact numbered_select number _ owned
  · have ends : Placeholder.endsNumber (window options
        ((Predicate.ofFilter 1 filter).params.length + 1)).toList :=
      Piece.endsNumber_of_startsApart (read_window options _).1
    have windowed := numbered_window options ((Predicate.ofFilter 1 filter).params.length + 1)
    rw [String.toList_append]
    refine (numbered_select columns _ owned).append ?_ ends
    rwa [Nat.zero_add, Nat.add_comm 1]

/-- The placeholders of the statements of an accepted request are those of their values, which are
the user, the values of the filter and, for a page alone, its length and its offset. Both statements
have the same condition. -/
theorem bound_of_ofFilter (accepted : ofFilter config user filter options = .ok statements) :
    let bound := statements.count.params.length
    let length := Param.integer statements.perPage.toNat
    let offset := Param.integer (min statements.offset.toNat (Number.twoTo 63 - 1) : Nat)
    let clause := ownedBy (Predicate.ofFilter 1 filter)
    (Placed bound statements.count.sql ∧ Placed (bound + 2) statements.page.sql) ∧
      (bound + 2 < Number.twoTo 64 →
        Placeholder.numbers statements.count.sql = List.range' 1 bound ∧
        Placeholder.numbers statements.page.sql = List.range' 1 (bound + 2) ∧
        placeholder bound 0 = "$" ++ toString (bound + 1) ∧
        placeholder bound 1 = "$" ++ toString (bound + 2)) ∧
      statements.count.params = .integer user :: (Predicate.ofFilter 1 filter).params ∧
      statements.page.params = statements.count.params ++ [length, offset] ∧
      options.pageLength config = .ok statements.perPage ∧
      statements.offset.toNat = (options.page.toNat - 1) * statements.perPage.toNat ∧
      statements.page.params[bound]? = some length ∧
      statements.page.params[bound + 1]? = some offset ∧
      (∃ head, statements.count.sql = head ++ " WHERE " ++ clause) ∧
      (∃ head, statements.page.sql = head ++ " WHERE " ++ clause ++ order options ++ " LIMIT " ++
        placeholder bound 0 ++ " OFFSET " ++ placeholder bound 1) ∧
      ∀ statement ∈ [statements.count, statements.page],
        Symbol.whereClause (Symbol.read statement.sql.toList) = Symbol.read clause.toList := by
  intro bound length offset clause
  obtain ⟨counting, paging⟩ := sql_of_ofFilter accepted
  obtain ⟨countNumbered, pageNumbered⟩ := numbered_of_ofFilter accepted
  obtain ⟨countParams, pageParams, perPage, skipped⟩ := values_of_ofFilter accepted
  obtain ⟨countClause, pageClause⟩ := whereClause_of_ofFilter accepted
  refine ⟨⟨placed_of_numbered countNumbered, placed_of_numbered pageNumbered⟩, ?_, countParams,
    pageParams, perPage, skipped, ?_, ?_, ⟨_, counting⟩, ?_, ?_⟩
  · intro fits
    exact ⟨countNumbered.numbers_eq (by omega), pageNumbered.numbers_eq (by omega),
      placeholder_of_lt (Nat.lt_trans (Nat.lt_succ_self _) fits), placeholder_of_lt fits⟩
  · rw [pageParams]
    simp [bound, length]
  · rw [pageParams]
    simp [bound, offset]
  · have last : bound = (Predicate.ofFilter 1 filter).params.length + 1 :=
      congrArg List.length countParams
    rw [paging, ← last, window_eq_order, select]
    simp only [← String.append_assoc]
    exact ⟨_, rfl⟩
  · simpa using ⟨countClause, pageClause⟩

theorem bound_of_farthest_page :
    ∃ statements, ofFilter ⟨4294967295, 500⟩ 7 (.not (.leaf (.deck "a")))
        ⟨4294967295, none, .due, .descending⟩ = .ok statements ∧
      Placeholder.numbers statements.page.sql = [1, 2, 3, 4] ∧
      statements.page.params = [.integer 7, .text "a", .integer 4294967295,
        .integer 9223372036854775807] := by
  refine ⟨_, rfl, ?_⟩
  have bound := @bound_of_ofFilter ⟨4294967295, 500⟩ 7 (.not (.leaf (.deck "a")))
    ⟨4294967295, none, .due, .descending⟩ _ rfl
  have fits := bound.2.1 (by decide +kernel)
  exact ⟨fits.2.1, by decide +kernel⟩

end CardSearch.Search.Statements
