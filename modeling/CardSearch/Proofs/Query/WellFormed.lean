import CardSearch.Proofs.Number.ExactLiteral
import CardSearch.Proofs.Query.Juxtaposition
import CardSearch.Proofs.Query.Plain

/-!
What holds of every filter that a query is read as. Only a blank query means every card, and no part
of another query does; numbers are in range, and no text or field is empty that has no quotes.
-/

namespace CardSearch.Text

theorem unquote_ne_nil {text : List Char} (nonempty : text ≠ [])
    (unquoted : text.head? ≠ some '"') : unquote text ≠ [] := by
  unfold unquote
  split
  · exact absurd rfl nonempty
  · simp
  · simp
  · exact absurd rfl unquoted
  · simp

end CardSearch.Text

namespace CardSearch.Query

open Grammar

def Leaf.WellFormed : Leaf → Prop
  | .text value none => value ≠ ""
  | .text _ (some field) | .regex _ (some field) => field ≠ ""
  | .flag number => number ≤ 7
  | .property _ _ value => value.isFinite
  | .date window => window.days < Number.twoTo 32 ∧ (window.kind = .added → window.rating = none)
  | .phrase _ | .tag _ | .deck _ | .state _ | .regex _ none | .wholeWord _ | .accentless _ => True

def Filter.LacksAll : Filter → Prop
  | .all => False
  | .leaf _ => True
  | .and left right | .or left right => left.LacksAll ∧ right.LacksAll
  | .not operand => operand.LacksAll

namespace Leaf

variable {leaf : Leaf} {value : List Char}

theorem unquoted_ne_empty {text : List Char} (nonempty : text ≠ [])
    (first : text.head? ≠ some '"') : unquoted text ≠ "" := by
  rw [unquoted, ne_eq, String.ofList_eq_empty_iff]
  exact Text.unquote_ne_nil nonempty first

theorem wellFormed_of_readFlag (reads : readFlag value = .ok leaf) : leaf.WellFormed := by
  obtain ⟨number, small, -, rfl⟩ := readFlag_eq_ok_iff.1 reads
  exact small

theorem wellFormed_of_readProperty (reads : readProperty value = .ok leaf) : leaf.WellFormed := by
  obtain ⟨clause, -, rfl⟩ := readProperty_eq_ok_iff.1 reads
  exact Number.isFinite_of_real? clause.reads

theorem wellFormed_of_readDate {kind : WindowKind} (reads : readDate kind value = .ok leaf) :
    leaf.WellFormed := by
  cases readDate_eq_ok_iff.1 reads with
  | days count => exact ⟨Nat.lt_succ_of_le count.2, fun _ => rfl⟩
  | rated count => exact ⟨Nat.lt_succ_of_le count.2, nofun⟩

theorem wellFormed_of_readClause {kind : ClauseKind} (reads : readClause kind value = .ok leaf) :
    leaf.WellFormed := by
  cases kind with
  | tag | deck | regex | wholeWord | accentless =>
    cases reads
    trivial
  | state =>
    simp only [readClause, readState] at reads
    split at reads <;> cases reads
    trivial
  | flag => exact wellFormed_of_readFlag reads
  | property => exact wellFormed_of_readProperty reads
  | date kind => exact wellFormed_of_readDate reads

theorem wellFormed_inField {field : List Char} (named : unquoted field ≠ "") :
    (inField field value).WellFormed := by
  unfold inField
  split <;> exact named

/-- A word that begins with no quote says something. So does the name in front of its colon, which
begins as the word does. -/
theorem wellFormed_of_read {word : List Char} (nonempty : word ≠ [])
    (first : word.head? ≠ some '"') (reads : read word = .ok leaf) : leaf.WellFormed := by
  unfold read at reads
  split at reads
  next =>
    cases reads
    exact unquoted_ne_empty nonempty first
  next =>
    cases reads
    exact unquoted_ne_empty nonempty first
  next name value notEmpty split =>
    split at reads
    next kind _ => exact wellFormed_of_readClause reads
    next =>
      cases reads
      obtain ⟨rfl, -⟩ := splitColon?_eq_some_iff.1 split
      have named : name ≠ [] := fun empty => notEmpty empty
      apply wellFormed_inField
      apply unquoted_ne_empty named
      obtain ⟨letter, rest, rfl⟩ := List.exists_cons_of_ne_nil named
      exact first

theorem wellFormed_of_spelled {source after : List Char}
    (spelled : Token.Spelled (.leaf leaf) source after) : leaf.WellFormed := by
  cases spelled with
  | phrase => trivial
  | word word means =>
    have first : source.head? ≠ some '"' := by
      intro quote
      obtain ⟨rest, rfl⟩ := List.head?_eq_some_iff.1 quote
      have begins := word.begins
      simp [Cursor.beginsWord] at begins
    exact wellFormed_of_read word.source_ne_nil first (Token.ofWord_eq_leaf means).2

end Leaf

theorem Tiles.exists_spelled {ended : Bool} {position : Nat} {text : List Char}
    {lexemes : List Lexeme} (tiles : Tiles ended position text lexemes) {lexeme : Lexeme}
    (member : lexeme ∈ lexemes) {leaf : Leaf} (is : lexeme.token = .leaf leaf) :
    ∃ source after, Token.Spelled (.leaf leaf) source after := by
  induction tiles with
  | finish =>
    obtain rfl := List.mem_singleton.1 member
    cases is
  | token blank spelled more ih =>
    rcases List.mem_cons.1 member with rfl | later
    · cases is
      exact ⟨_, _, spelled⟩
    · exact ih later
  | conjunction starts more ih =>
    rcases List.mem_cons.1 member with rfl | later
    · cases is
    · exact ih later

theorem lacksAll_of_derives {level : Level} {tokens : List Token} {filter : Filter}
    (derived : Derives level tokens filter) : filter.LacksAll := by
  induction derived with
  | leaf => trivial
  | group _ ih | not _ ih | operand _ ih | conjunction _ ih => exact ih
  | and _ _ first second | or _ _ first second => exact ⟨first, second⟩

theorem gives_blanks {blanks : List Char} (blank : blanks.all Text.isBlank) : Gives blanks [] := by
  intro cursor after split apart
  refine ⟨[], rfl, ?_⟩
  rw [Cursor.lexemes_past blank split]
  cases cursor.lexemes <;> rfl

theorem Tiles.blank_of_finish {ended : Bool} {position : Nat} {text : List Char} {finish : Lexeme}
    (tiles : Tiles ended position text [finish]) : text.all Text.isBlank := by
  cases tiles with
  | finish blank => exact blank
  | token blank spelled more =>
    obtain ⟨next, rest, same⟩ := more.exists_cons
    cases same

theorem ofQuery_eq_all_iff {query : String} :
    Filter.ofQuery query = .ok .all ↔ query.toList.all Text.isBlank := by
  constructor
  · intro read
    obtain ⟨body, finish, tiles, ⟨rfl, -⟩ | derived⟩ := exists_tiles_of_ofQuery read
    · exact tiles.blank_of_finish
    · cases lacksAll_of_derives derived
  · intro blank
    exact (ofQuery_of_gives (gives_blanks blank) (by simp) .all).2 (.inl ⟨rfl, rfl⟩)

/-- A query means every card if it is blank and only then, and every filter that a query is read as
is well formed. -/
theorem wellFormed_of_ofQuery (query : String) :
    (Filter.ofQuery query = .ok .all ↔ query.toList.all Text.isBlank) ∧
      ∀ filter, Filter.ofQuery query = .ok filter →
        (filter = .all ∨ filter.LacksAll) ∧ ∀ leaf ∈ filter.leaves, leaf.WellFormed := by
  refine ⟨ofQuery_eq_all_iff, fun filter read => ?_⟩
  obtain ⟨body, finish, tiles, ⟨-, rfl⟩ | derived⟩ := exists_tiles_of_ofQuery read
  · exact ⟨.inl rfl, by simp [Filter.leaves]⟩
  · refine ⟨.inr (lacksAll_of_derives derived), fun leaf member => ?_⟩
    obtain ⟨lexeme, among, is⟩ := List.mem_map.1 (mem_tokens_of_derives derived member)
    obtain ⟨source, after, spelled⟩ := tiles.exists_spelled (List.mem_append_left _ among) is
    exact Leaf.wellFormed_of_spelled spelled

/-- A word that begins with an escaped quote, of which the section behind it leaves nothing. -/
theorem wellFormed_escaped_quote :
    let filter : Filter := .or (.leaf (.text "\"" none)) (.not (.leaf (.phrase "")))
    Filter.ofQuery "\\\"\" OR -\"\"" = .ok filter ∧ filter.LacksAll ∧
      ∀ leaf ∈ filter.leaves, leaf.WellFormed := by
  intro filter
  have read : Filter.ofQuery "\\\"\" OR -\"\"" = .ok filter := by cbv
  obtain ⟨lacks, leaves⟩ := (wellFormed_of_ofQuery _).2 filter read
  exact ⟨read, lacks.resolve_left (by simp [filter]), leaves⟩

end CardSearch.Query
