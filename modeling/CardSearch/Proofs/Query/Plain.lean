import CardSearch.Proofs.Query.LeafReading
import CardSearch.Proofs.Query.Leaves
import CardSearch.Proofs.Query.Recognition
import CardSearch.Proofs.Query.Tiling

/-!
Which texts are queries for themselves: none but the plain ones. A word that stands for itself has
no quotes and no pair of backslashes, and nothing else is written around it.
-/

namespace CardSearch.Text

theorem length_unquote_le (text : List Char) : (unquote text).length ≤ text.length := by
  fun_induction unquote text with
  | case1 => exact Nat.le_refl _
  | case2 rest ih | case3 rest ih | case4 rest ih | case5 _ rest _ _ _ ih =>
    simp only [List.length_cons]
    omega

theorem unquoted_of_unquote_eq {text : List Char} (same : unquote text = text) :
    '"' ∉ text ∧ ¬['\\', '\\'] <:+: text := by
  fun_induction unquote text with
  | case1 => simp
  | case2 rest ih => cases same
  | case3 rest ih =>
    have short := length_unquote_le rest
    have long := congrArg List.length same
    simp only [List.length_cons] at long
    omega
  | case4 rest ih =>
    have short := length_unquote_le rest
    have long := congrArg List.length same
    simp only [List.length_cons] at long
    omega
  | case5 character rest notQuote notPair notSingle ih =>
    obtain ⟨unquoted, single⟩ := ih (List.cons.inj same).2
    constructor
    · rw [List.mem_cons, not_or]
      exact ⟨fun quote => notSingle quote.symm, unquoted⟩
    · intro pair
      rcases List.infix_cons_iff.1 pair with ⟨rest, leading⟩ | later
      · obtain ⟨rfl, rfl⟩ := List.cons.inj leading
        exact notPair rest rfl rfl
      · exact single later

theorem Word.all_isBare_of_read {text : List Char} {word : Word}
    (found : Word.read none text = .ok word) (unquoted : '"' ∉ word.source) :
    word.source.all isBare := by
  induction text generalizing word with
  | nil =>
    cases found
    rfl
  | cons character rest ih =>
    rw [read] at found
    split at found
    next =>
      cases found
      rfl
    next inside =>
      split at found
      next quote =>
        obtain ⟨inner, -, rfl⟩ := Fallible.map_eq_ok_iff.1 found
        simp [push, quote] at unquoted
      next other =>
        obtain ⟨inner, more, rfl⟩ := Fallible.map_eq_ok_iff.1 found
        have later : '"' ∉ inner.source := fun quote => unquoted (List.mem_cons_of_mem _ quote)
        have first : isBare character := by simp [isBare, inside, other]
        rw [push, List.all_cons, first, ih more later]
        rfl

end CardSearch.Text

namespace CardSearch.Query

open Grammar

theorem mem_tokens_of_derives {level : Level} {tokens : List Token} {filter : Filter}
    (derived : Derives level tokens filter) {leaf : Leaf} (member : leaf ∈ filter.leaves) :
    .leaf leaf ∈ tokens := by
  induction derived with
  | leaf other =>
    obtain rfl := List.mem_singleton.1 member
    exact List.mem_singleton_self _
  | group _ ih | not _ ih => simp [ih member]
  | operand _ ih | conjunction _ ih => exact ih member
  | and _ _ first second | or _ _ first second =>
    rcases List.mem_append.1 member with left | right
    · simp [first left]
    · simp [second right]

namespace Leaf

theorem readProperty_ne_text (clause : List Char) (text : String) (field : Option String) :
    readProperty clause ≠ .ok (.text text field) := by
  intro reads
  unfold readProperty at reads
  split at reads
  next => cases reads
  split at reads
  next => cases reads
  split at reads <;> cases reads

theorem readDate_ne_text (kind : WindowKind) (clause : List Char) (text : String)
    (field : Option String) : readDate kind clause ≠ .ok (.text text field) := by
  intro reads
  unfold readDate at reads
  split at reads
  next =>
    obtain ⟨days, -, same⟩ := Fallible.map_eq_ok_iff.1 reads
    cases same
  split at reads
  next =>
    obtain ⟨days, -, rated⟩ := Fallible.bind_eq_ok_iff.1 reads
    obtain ⟨rating, -, same⟩ := Fallible.bind_eq_ok_iff.1 rated
    cases same
  next => cases reads

theorem readClause_ne_text (kind : ClauseKind) (value : List Char) (text : String)
    (field : Option String) : readClause kind value ≠ .ok (.text text field) := by
  intro reads
  cases kind with
  | tag | deck | regex | wholeWord | accentless => cases reads
  | state =>
    simp only [readClause, readState] at reads
    split at reads <;> cases reads
  | flag =>
    simp only [readClause, readFlag] at reads
    split at reads <;> cases reads
  | property => exact readProperty_ne_text value text field reads
  | date kind => exact readDate_ne_text kind value text field reads

theorem read_eq_text {word : List Char} {value : String}
    (reads : read word = .ok (.text value none)) :
    unquoted word = value ∧ (word.head? = some ':' ∨ ':' ∉ word) := by
  unfold read at reads
  split at reads
  next none =>
    cases reads
    exact ⟨rfl, .inr (splitColon?_eq_none_iff.1 none)⟩
  next rest leading =>
    cases reads
    obtain ⟨rfl, -⟩ := splitColon?_eq_some_iff.1 leading
    exact ⟨rfl, .inl rfl⟩
  next name rest _ _ =>
    split at reads
    next kind _ => exact absurd reads (readClause_ne_text kind rest value none)
    next =>
      unfold inField at reads
      split at reads <;> cases reads

end Leaf

theorem Token.ofWord_eq_leaf {word : List Char} {leaf : Leaf}
    (means : Token.ofWord word = .ok (.leaf leaf)) :
    String.ofList word ∉ ["AND", "OR", "NOT"] ∧ Leaf.read word = .ok leaf := by
  unfold ofWord at means
  split at means
  · cases means
  · cases means
  · cases means
  next notAnd notOr notNot =>
    obtain ⟨found, reads, same⟩ := Fallible.map_eq_ok_iff.1 means
    obtain rfl := Token.leaf.inj same
    refine ⟨?_, reads⟩
    simp only [List.mem_cons, List.not_mem_nil, or_false, not_or]
    exact ⟨notAnd, notOr, notNot⟩

theorem isPlain_of_isWord {source : List Char} {value : String} (word : IsWord source [])
    (means : Token.ofWord source = .ok (.leaf (.text value none)))
    (stays : Text.unquote source = source) : IsPlain source := by
  obtain ⟨keyword, reads⟩ := Token.ofWord_eq_leaf means
  obtain ⟨unquoted, single⟩ := Text.unquoted_of_unquote_eq stays
  have bare := Text.Word.all_isBare_of_read word.whole unquoted
  refine ⟨⟨word.source_ne_nil, bare, single⟩, (Leaf.read_eq_text reads).2, ?_, keyword⟩
  intro dash
  obtain ⟨rest, rfl⟩ := List.head?_eq_some_iff.1 dash
  have begins := word.begins
  cases rest with
  | nil => rfl
  | cons next rest =>
    rw [List.all_cons, List.all_cons, Bool.and_eq_true, Bool.and_eq_true] at bare
    have visible : Text.isBlank next = false := by
      have inside := bare.2.1
      simp only [Text.Word.isBare, Text.endsWord, Bool.and_eq_true, Bool.not_eq_true',
        Bool.or_eq_false_iff] at inside
      exact inside.1.1.1
    simp [Cursor.beginsWord, Cursor.touches, visible] at begins

theorem exists_tiles_of_ofQuery {query : String} {filter : Filter}
    (read : Filter.ofQuery query = .ok filter) :
    ∃ body finish, Tiles false 0 query.toList (body ++ [finish]) ∧
      (body = [] ∧ filter = .all ∨ Derives .disjunction (body.map Lexeme.token) filter) := by
  obtain ⟨tokens, scanned, parsed⟩ := Fallible.bind_eq_ok_iff.1 read
  have tiles := tiles_of_lexemes scanned
  obtain ⟨body, rfl, inside⟩ := tiles.exists_body
  exact ⟨body, _, tiles, (Filter.ofLexemes_append_finish rfl inside _).1 parsed⟩

/-- Only a plain text is a query for itself. -/
theorem isPlain_of_ofQuery {value : String}
    (read : Filter.ofQuery value = .ok (.leaf (.text value none))) : IsPlain value.toList := by
  obtain ⟨body, finish, tiles, ⟨-, same⟩ | derived⟩ := exists_tiles_of_ofQuery read
  · cases same
  have member := mem_tokens_of_derives derived (List.mem_singleton_self _)
  obtain ⟨lexeme, among, is⟩ := List.mem_map.1 member
  have there := List.mem_append_left [finish] among
  have written : lexeme.text ≠ "" := tiles.text_ne_of_isWord there (by simp [Lexeme.isWord, is])
  obtain ⟨front, after, split, -, spelled⟩ := tiles.exists_split there written
  rw [is] at spelled
  generalize lexeme.text.toList = source at spelled split
  cases spelled with
  | word word means =>
    have text := (Leaf.read_eq_text (Token.ofWord_eq_leaf means).2).1
    have content : Text.unquote source = value.toList := by
      rw [← text, Leaf.unquoted, String.toList_ofList]
    -- The word is as long as its query, since what it says is no longer than the word.
    have short := Text.length_unquote_le source
    have long := congrArg List.length split
    rw [content] at short
    simp only [List.length_append] at long
    obtain rfl := List.length_eq_zero_iff.1 (by omega : front.length = 0)
    obtain rfl := List.length_eq_zero_iff.1 (by omega : after.length = 0)
    rw [List.nil_append, List.append_nil] at split
    rw [split]
    exact isPlain_of_isWord word means (content.trans split)

end CardSearch.Query
