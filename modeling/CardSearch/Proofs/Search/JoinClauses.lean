import CardSearch.Proofs.Search.Binding
import CardSearch.Proofs.Sql.Columns
import CardSearch.Proofs.Sql.Relocation

/-!
The joins of the two statements. A page joins each relation once; a count joins what its filter
needs, in the order in which the filter first needs it.
-/

namespace CardSearch.Sql

open CardSearch.Query (Filter Leaf)

namespace Join

def clausesIn : List Char → List Join
  | [] => []
  | character :: rest =>
    (all.filter fun join => join.sql.toList <+: character :: rest) ++ clausesIn rest

/-- Whether no clause begins in a text, whatever follows the text. -/
def clauseless : List Char → Bool
  | [] => true
  | character :: rest =>
    (all.all fun join =>
      !(join.sql.toList <+: character :: rest) && !(character :: rest <+: join.sql.toList)) &&
        clauseless rest

theorem not_prefix_append {word front : List Char} (apart : ¬word <+: front ∧ ¬front <+: word)
    (back : List Char) : ¬word <+: front ++ back := by
  intro begins
  rcases List.prefix_or_prefix_of_prefix begins (List.prefix_append front back) with within | beyond
  · exact apart.1 within
  · exact apart.2 beyond

theorem clausesIn_cons_of_none {character : Char} {rest : List Char}
    (none : ∀ join : Join, ¬join.sql.toList <+: character :: rest) :
    clausesIn (character :: rest) = clausesIn rest := by
  have nothing : (all.filter fun join => join.sql.toList <+: character :: rest) = [] := by
    rw [List.filter_eq_nil_iff]
    intro join _
    rw [decide_eq_true_eq]
    exact none join
  rw [clausesIn, nothing, List.nil_append]

theorem clausesIn_append {front : List Char} (none : clauseless front) (back : List Char) :
    clausesIn (front ++ back) = clausesIn back := by
  induction front with
  | nil => rfl
  | cons character front ih =>
    rw [clauseless, Bool.and_eq_true, List.all_eq_true] at none
    rw [List.cons_append, clausesIn_cons_of_none ?_, ih none.2]
    intro join
    have apart := none.1 join join.mem_all
    simp only [Bool.and_eq_true, Bool.not_eq_true', decide_eq_false_iff_not] at apart
    exact not_prefix_append apart back

/-- Every clause has a capital J, and nothing else in a statement has one. -/
theorem mem_sql (join : Join) : 'J' ∈ join.sql.toList := by
  cases join <;> decide +kernel

theorem clausesIn_of_not_mem {text : List Char} (none : 'J' ∉ text) : clausesIn text = [] := by
  induction text with
  | nil => rfl
  | cons character rest ih =>
    rw [clausesIn_cons_of_none ?_, ih (List.not_mem_of_not_mem_cons none)]
    intro join begins
    exact none (begins.subset join.mem_sql)

theorem clause_prefix_iff {join other : Join} {back : List Char} :
    other.sql.toList <+: join.sql.toList ++ back ↔ other = join := by
  have apart : ∀ join ∈ all, ∀ other ∈ all, other ≠ join →
      ¬other.sql.toList <+: join.sql.toList ∧ ¬join.sql.toList <+: other.sql.toList := by
    decide +kernel
  constructor
  · intro begins
    by_contra different
    exact not_prefix_append (apart join join.mem_all other other.mem_all different) back begins
  · rintro rfl
    exact List.prefix_append _ _

theorem clauseless_tail (join : Join) : clauseless join.sql.toList.tail := by
  cases join with
  | note | deck => decide +kernel
  | noteTags =>
    unfold sql
    rw [String.toList_append, String.toList_ofList, String.toList_ofList]
    decide +kernel

theorem clausesIn_clause (join : Join) (back : List Char) :
    clausesIn (join.sql.toList ++ back) = join :: clausesIn back := by
  have here : (all.filter fun other => other.sql.toList <+: join.sql.toList ++ back) = [join] := by
    simp only [clause_prefix_iff]
    cases join <;> rfl
  have behind := clauseless_tail join
  cases text : join.sql.toList with
  | nil => exact absurd join.mem_sql (by simp [text])
  | cons character rest =>
    rw [text, List.cons_append] at here
    rw [text, List.tail_cons] at behind
    rw [List.cons_append, clausesIn, here, clausesIn_append behind]
    rfl

end Join

theorem not_mem_placeholder (offset index : Nat) : 'J' ∉ (placeholder offset index).toList := by
  rw [toList_placeholder, List.mem_cons, not_or]
  refine ⟨by decide, fun member => ?_⟩
  have digit := Nat.isDigit_of_mem_toDigits (by decide) (by decide) member
  exact absurd digit (by decide)

theorem Condition.not_mem_render (offset : Nat) (leaf : Leaf) :
    'J' ∉ ((ofLeaf leaf).render offset).toList := by
  rw [toList_render, List.mem_flatMap]
  rintro ⟨piece, member, inside⟩
  cases piece with
  | sql text => exact not_mem_text member 'J' (by decide) inside
  | slot index => exact not_mem_placeholder offset index inside

theorem Predicate.not_mem_sql (offset : Nat) (filter : Filter) :
    'J' ∉ (ofFilter offset filter).sql.toList := by
  induction filter generalizing offset with
  | all =>
    have plain : 'J' ∉ "TRUE".toList := by decide +kernel
    exact plain
  | leaf leaf => exact Condition.not_mem_render offset leaf
  | and left right first second | or left right first second =>
    simp [ofFilter, toList_both, first, second]
  | not operand inner => simp [ofFilter, toList_negation, inner]

end CardSearch.Sql

namespace CardSearch.Search.Statements

open CardSearch.Query CardSearch.Sql CardSearch.Sql.Join

theorem clausesIn_joinsText (joins : List Join) (back : List Char) :
    clausesIn (joinsText joins ++ back) = joins ++ clausesIn back := by
  induction joins with
  | nil => rfl
  | cons join joins ih =>
    have text : joinsText (join :: joins) ++ back =
        [' '] ++ (join.sql.toList ++ (joinsText joins ++ back)) := by
      simp [joinsText]
    have blank : clauseless [' '] := by decide +kernel
    rw [text, clausesIn_append blank, clausesIn_clause, ih, List.cons_append]

theorem clausesIn_select {columns condition : String} {more : List Char}
    (head : clauseless ("SELECT " ++ columns ++ " FROM cards c").toList) (joins : List Join)
    (whole : 'J' ∉ condition.toList) (last : 'J' ∉ more) :
    clausesIn ((select columns joins condition).toList ++ more) = joins := by
  have word : 'J' ∉ ' ' :: ("WHERE".toList ++ [' ']) := by decide +kernel
  have text : (select columns joins condition).toList ++ more =
      ("SELECT " ++ columns ++ " FROM cards c").toList ++ (joinsText joins ++
        (' ' :: ("WHERE".toList ++ [' ']) ++ condition.toList ++ more)) := by
    rw [toList_select]
    simp
  have none : 'J' ∉ ' ' :: ("WHERE".toList ++ [' ']) ++ condition.toList ++ more := by
    rw [List.mem_append, List.mem_append, not_or, not_or]
    exact ⟨⟨word, whole⟩, last⟩
  rw [text, clausesIn_append head, clausesIn_joinsText, clausesIn_of_not_mem none,
    List.append_nil]

theorem clauseless_count : clauseless ("SELECT " ++ "count(*)" ++ " FROM cards c").toList := by
  rw [String.toList_append, String.toList_append]
  decide +kernel

theorem clauseless_page : clauseless ("SELECT " ++ cardColumns ++ " FROM cards c").toList := by
  unfold cardColumns
  simp only [String.toList_append, String.reduceToList]
  decide +kernel

theorem not_mem_ownedBy (filter : Filter) :
    'J' ∉ (ownedBy (Predicate.ofFilter 1 filter)).toList := by
  rw [toList_ownedBy]
  simp [Predicate.not_mem_sql]

theorem not_mem_window (options : Options) (bound : Nat) :
    'J' ∉ (window options bound).toList := by
  have limit : 'J' ∉ " LIMIT ".toList := by decide +kernel
  have offset : 'J' ∉ " OFFSET ".toList := by decide +kernel
  have ordered := Condition.unusedIn_iff.1 (unusedIn_order options) 'J' (by decide)
  simp only [window_eq_order, String.toList_append, List.mem_append, not_or]
  exact ⟨⟨⟨⟨ordered, limit⟩, not_mem_placeholder bound 0⟩, offset⟩, not_mem_placeholder bound 1⟩

theorem union_cardJoins (joins : List Join) : union cardJoins joins = cardJoins := by
  have known : joins.filter (· ∉ cardJoins) = [] := by
    rw [List.filter_eq_nil_iff]
    intro join _
    have listed : join ∈ cardJoins := join.mem_all
    simp [listed]
  rw [union, known, List.append_nil]

theorem clausesIn_of_ofFilter {config : Config} {user : Int} {filter : Filter} {options : Options}
    {statements : Statements} (accepted : ofFilter config user filter options = .ok statements) :
    clausesIn statements.count.sql.toList = (Predicate.ofFilter 1 filter).joins ∧
      clausesIn statements.page.sql.toList = cardJoins := by
  obtain ⟨counting, paging⟩ := sql_of_ofFilter accepted
  have whole := not_mem_ownedBy filter
  constructor
  · have clauses := clausesIn_select clauseless_count (Predicate.ofFilter 1 filter).joins whole
      (List.not_mem_nil)
    rwa [List.append_nil, ← counting] at clauses
  · rw [paging, String.toList_append, union_cardJoins]
    exact clausesIn_select clauseless_page _ whole (not_mem_window options _)

/-- The joins of a predicate are those that its leaves need and whose columns its text names, each
once and in the order of the first leaves that need them. The count of an accepted request has the
clauses of these joins in their order, and its page has the clause of each relation once. -/
theorem joins_are_needed (filter : Filter) :
    (∀ offset,
      let predicate := Predicate.ofFilter offset filter
      predicate.joins.Nodup ∧
        (∀ join, (join ∈ predicate.joins ↔ ∃ leaf ∈ filter.leaves, ofLeaf? leaf = some join) ∧
          (join ∈ predicate.joins ↔ join.NamedIn predicate.sql.toList)) ∧
        predicate.joins.Pairwise fun earlier later =>
          firstUse earlier filter.leaves < firstUse later filter.leaves) ∧
    ∀ (config : Config) (user : Int) (options : Options) (statements : Statements),
      ofFilter config user filter options = .ok statements →
        clausesIn statements.page.sql.toList = [.note, .deck, .noteTags] ∧
          ∀ offset,
            clausesIn statements.count.sql.toList = (Predicate.ofFilter offset filter).joins := by
  constructor
  · intro offset predicate
    have needed := needed_ofFilter offset filter
    refine ⟨needed.nodup, fun join => ⟨needed.mem_iff join, ?_⟩, needed.ordered⟩
    rw [needed.mem_iff, Predicate.namedIn_sql]
  · intro config user options statements accepted
    obtain ⟨counting, paging⟩ := clausesIn_of_ofFilter accepted
    refine ⟨paging, fun offset => ?_⟩
    rw [counting, Predicate.joins_congr]

theorem joins_are_needed_tags_first :
    let filter : Filter :=
      .or (.not (.leaf (.tag "verb::*"))) (.and (.leaf (.text "JOIN decks d" none))
        (.leaf (.tag "noun")))
    ∃ statements, ofFilter {} 7 filter {} = .ok statements ∧
      (Predicate.ofFilter 1 filter).joins = [.noteTags, .note] ∧
      clausesIn statements.count.sql.toList = [.noteTags, .note] ∧
      clausesIn statements.page.sql.toList = [.note, .deck, .noteTags] := by
  intro filter
  have listed : (Predicate.ofFilter 1 filter).joins = [.noteTags, .note] := rfl
  obtain ⟨paging, counting⟩ := (joins_are_needed filter).2 {} 7 {} _ rfl
  exact ⟨_, rfl, listed, (counting 1).trans listed, paging⟩

end CardSearch.Search.Statements
