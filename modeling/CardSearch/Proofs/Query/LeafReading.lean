import CardSearch.Proofs.Query.ClauseValue
import CardSearch.Proofs.Query.PropertyClause
import CardSearch.Proofs.Query.Scanning

/-!
A leaf is read back from what is written for it. Its text is one phrase or one word, whatever
follows behind a blank; the word is split again at the colons that were written into it, and its
parts mean what they were written for.
-/

namespace CardSearch.Query

open CardSearch.Text (quoted)
open CardSearch.Text.Word (isBare GoesThrough)

/-- A text that may follow any token: it begins with a blank, if at all. -/
def StandsApart (text : List Char) : Prop :=
  ∀ character ∈ text.head?, Text.isBlank character

theorem standsApart_of_blank {blanks : List Char} (blank : blanks.all Text.isBlank) :
    StandsApart blanks :=
  fun character first => List.all_eq_true.1 blank character (List.mem_of_mem_head? first)

theorem standsApart_append {blanks : List Char} (blank : blanks.all Text.isBlank)
    (some : blanks ≠ []) (more : List Char) : StandsApart (blanks ++ more) := by
  obtain ⟨space, rest, rfl⟩ := List.exists_cons_of_ne_nil some
  intro character first
  exact standsApart_of_blank blank character first

theorem Token.ofWord_of_mem_colon {word : List Char} (colon : ':' ∈ word) :
    Token.ofWord word = (Leaf.read word).map .leaf := by
  have other : ∀ keyword : String, ':' ∉ keyword.toList → String.ofList word ≠ keyword := by
    rintro keyword none rfl
    exact none (by simpa using colon)
  unfold ofWord
  split
  next same => exact absurd same (other "AND" (by decide))
  next same => exact absurd same (other "OR" (by decide))
  next same => exact absurd same (other "NOT" (by decide))
  next => rfl

namespace Leaf

theorem read_clause {name : List Char} (nonempty : name ≠ []) (whole : ':' ∉ name)
    (value : List Char) :
    read (clause name value) = match ClauseKind.ofName? name with
      | some kind => readClause kind value
      | none => .ok (inField name value) := by
  rw [read, splitColon?_clause whole]
  cases name with
  | nil => exact absurd rfl nonempty
  | cons => rfl

theorem unquoted_quoted (text : String) : unquoted (quoted text.toList) = text := by
  rw [unquoted, Text.unquote_quoted, String.ofList_toList]

end Leaf

theorem IsBare.unquoted_eq {text : String} (bare : IsBare text.toList) :
    Leaf.unquoted text.toList = text := by
  have none : '"' ∉ text.toList := by
    intro quote
    exact absurd (List.all_eq_true.1 bare.bare '"' quote) (by decide)
  rw [Leaf.unquoted, Text.unquote_of_unquoted none bare.single, String.ofList_toList]

theorem Leaf.inField_quoted {field : String} (bare : IsBare field.toList) (value : String) :
    inField field.toList (quoted value.toList) = .text value (some field) := by
  have other : regexPattern? (quoted value.toList) = none := by
    unfold regexPattern? quoted
    split
    next first second rest same =>
      obtain ⟨rfl, -⟩ := List.cons.inj same
      exact if_neg fun letters => absurd letters.1 (by decide)
    next => rfl
  rw [inField, other, unquoted_quoted, bare.unquoted_eq]

theorem Leaf.inField_regex {field : String} (bare : IsBare field.toList) (pattern : String) :
    inField field.toList (clause "re".toList (quoted pattern.toList)) =
      .regex pattern (some field) := by
  have found : regexPattern? (clause "re".toList (quoted pattern.toList)) =
      some (quoted pattern.toList) := rfl
  simp only [inField, found, unquoted_quoted, bare.unquoted_eq]

theorem Cursor.beginsWord_cons {first : Char} {rest : List Char} (bare : isBare first)
    (dash : first = '-' → touches rest = false) : beginsWord (first :: rest) := by
  simp only [isBare, Bool.and_eq_true, Bool.not_eq_true', bne_iff_ne] at bare
  by_cases same : first = '-'
  · simp [beginsWord, bare, dash same]
  · simp [beginsWord, bare, same]

section Reading

variable {source name value after : List Char} {leaf : Leaf}

theorem goesThrough_clause (bare : name.all isBare) (goes : GoesThrough value) :
    GoesThrough (clause name value) := by
  have colon : GoesThrough [':'] := Text.Word.goesThrough_of_bare (by decide)
  have front := Text.Word.goesThrough_of_bare bare
  exact Text.Word.goesThrough_append front (Text.Word.goesThrough_append colon goes)

theorem isWord_of_goesThrough (goes : GoesThrough source)
    (begins : Cursor.beginsWord (source ++ after)) (apart : StandsApart after) :
    IsWord source after := by
  constructor
  case begins => exact begins
  case whole =>
    apply Text.Word.read_of_goesThrough goes
    intro character first
    simp [Text.endsWord, apart character first]

theorem isWord_clause (nonempty : name ≠ []) (bare : name.all isBare)
    (dash : name.head? ≠ some '-') (goes : GoesThrough value) (apart : StandsApart after) :
    IsWord (clause name value) after := by
  apply isWord_of_goesThrough (goesThrough_clause bare goes) _ apart
  obtain ⟨first, rest, rfl⟩ := List.exists_cons_of_ne_nil nonempty
  rw [List.all_cons, Bool.and_eq_true] at bare
  apply Cursor.beginsWord_cons bare.1
  rintro rfl
  exact absurd rfl dash

theorem Token.ofWord_clause (name value : List Char) :
    Token.ofWord (clause name value) = (Leaf.read (clause name value)).map .leaf :=
  Token.ofWord_of_mem_colon (by simp [clause])

theorem spelled_clause (nonempty : name ≠ []) (bare : name.all isBare)
    (dash : name.head? ≠ some '-') (goes : GoesThrough value)
    (reads : Leaf.read (clause name value) = .ok leaf) (apart : StandsApart after) :
    Token.Spelled (.leaf leaf) (clause name value) after := by
  apply Token.Spelled.word (isWord_clause nonempty bare dash goes apart)
  rw [Token.ofWord_clause, reads]
  rfl

theorem ClauseKind.name_of_mem {keyword : String} {kind : ClauseKind}
    (known : (keyword, kind) ∈ vocabulary) :
    keyword.toList ≠ [] ∧ keyword.toList.all isBare ∧ keyword.toList.head? ≠ some '-' ∧
      ':' ∉ keyword.toList ∧ ofName? keyword.toList = some kind := by
  have names : ∀ entry ∈ vocabulary, entry.1.toList ≠ [] ∧ entry.1.toList.all isBare ∧
      entry.1.toList.head? ≠ some '-' ∧ ':' ∉ entry.1.toList ∧
      ofName? entry.1.toList = some entry.2 := by decide
  exact names _ known

theorem Leaf.read_kind {keyword : String} {kind : ClauseKind}
    (known : (keyword, kind) ∈ ClauseKind.vocabulary) (value : List Char) :
    read (clause keyword.toList value) = readClause kind value := by
  obtain ⟨nonempty, -, -, colon, is⟩ := ClauseKind.name_of_mem known
  rw [read_clause nonempty colon, is]

theorem spelled_kind {keyword : String} (kind : ClauseKind)
    (known : (keyword, kind) ∈ ClauseKind.vocabulary) (goes : GoesThrough value)
    (reads : Leaf.readClause kind value = .ok leaf) (apart : StandsApart after) :
    Token.Spelled (.leaf leaf) (clause keyword.toList value) after := by
  obtain ⟨nonempty, bare, dash, -, -⟩ := ClauseKind.name_of_mem known
  exact spelled_clause nonempty bare dash goes ((Leaf.read_kind known value).trans reads) apart

theorem spelled_quoted {keyword : String} (kind : ClauseKind) (leaf : String → Leaf)
    (known : (keyword, kind) ∈ ClauseKind.vocabulary)
    (reads : ∀ value, Leaf.readClause kind value = .ok (leaf (Leaf.unquoted value))) (text : String)
    (apart : StandsApart after) :
    Token.Spelled (.leaf (leaf text)) (clause keyword.toList (quoted text.toList)) after := by
  apply spelled_kind kind known (Text.Word.goesThrough_quoted _) _ apart
  rw [reads, Leaf.unquoted_quoted]

theorem spelled_field {field : String} (named : IsFieldName field.toList) (goes : GoesThrough value)
    (apart : StandsApart after) :
    Token.Spelled (.leaf (Leaf.inField field.toList value)) (clause field.toList value) after := by
  have free : ClauseKind.ofName? field.toList = none := by
    rw [ClauseKind.ofName?, List.lookup_eq_none_iff]
    intro entry member
    rw [bne_iff_ne]
    intro same
    exact named.unreserved (same ▸ List.mem_map_of_mem member)
  apply spelled_clause named.nonempty named.bare named.noDash goes _ apart
  rw [Leaf.read_clause named.nonempty named.noColon, free]

theorem Leaf.read_plain {value : String} (plain : IsPlain value.toList) :
    read value.toList = .ok (.text value none) := by
  unfold read
  rcases plain.noClause with leading | none
  · obtain ⟨rest, same⟩ := List.head?_eq_some_iff.1 leading
    have split : splitColon? value.toList = some ([], rest) := by
      rw [same, splitColon?, if_pos rfl]
    rw [split, plain.unquoted_eq]
  · rw [splitColon?_eq_none_iff.2 none, plain.unquoted_eq]

theorem spelled_plain {value : String} (plain : IsPlain value.toList) (apart : StandsApart after) :
    Token.Spelled (.leaf (.text value none)) value.toList after := by
  have goes := Text.Word.goesThrough_of_bare plain.bare
  apply Token.Spelled.word
  · apply isWord_of_goesThrough goes _ apart
    obtain ⟨first, rest, same⟩ := List.exists_cons_of_ne_nil plain.nonempty
    have bare := plain.bare
    have dash := plain.noDash
    rw [same] at bare dash ⊢
    rw [List.all_cons, Bool.and_eq_true] at bare
    apply Cursor.beginsWord_cons bare.1
    rintro rfl
    obtain ⟨-, rfl⟩ := List.cons.inj (dash rfl)
    cases after with
    | nil => rfl
    | cons character after => simp [Cursor.touches, apart character rfl]
  · have keyword := plain.noKeyword
    unfold Token.ofWord
    split
    next same => simp [same] at keyword
    next same => simp [same] at keyword
    next same => simp [same] at keyword
    next =>
      rw [Leaf.read_plain plain]
      rfl

end Reading

theorem isBare_of_ascii {character : Char} (above : 0x29 < character.toNat)
    (below : character.toNat < 0x80) : isBare character := by
  have differs (other : Char) (low : other.toNat ≤ 0x29) : character ≠ other := by
    rintro rfl
    omega
  have visible : Text.isBlank character = false := by
    simp only [Text.isBlank, Bool.or_eq_false_iff, Bool.and_eq_false_iff, decide_eq_false_iff_not,
      beq_eq_false_iff_ne]
    omega
  simp [isBare, Text.endsWord, visible, differs '(' (by decide), differs ')' (by decide),
    differs '"' (by decide)]

theorem isBare_of_isLiteral {character : Char} (literal : Number.Decimal.isLiteral character) :
    isBare character := by
  simp only [Number.Decimal.isLiteral, Bool.or_eq_true, List.contains_iff_mem] at literal
  rcases literal with digit | mark
  · have bounds := Char.isDigit_iff_toNat.1 digit
    simp only [Char.reduceToNat] at bounds
    exact isBare_of_ascii (by omega) (by omega)
  · have marks : ['+', '-', '.', 'e', 'E'].all isBare := by decide
    exact List.all_eq_true.1 marks character mark

theorem goesThrough_of_literal {text : List Char} (literal : text.all Number.Decimal.isLiteral) :
    GoesThrough text := by
  apply Text.Word.goesThrough_of_bare
  rw [List.all_eq_true] at literal ⊢
  exact fun character member => isBare_of_isLiteral (literal character member)

theorem all_isLiteral_toDigits (number : Nat) :
    (Nat.toDigits 10 number).all Number.Decimal.isLiteral := by
  have digits := Number.all_isDigit_toDigits number
  rw [List.all_eq_true] at digits ⊢
  intro digit member
  simp [Number.Decimal.isLiteral, digits digit member]

theorem goesThrough_written (window : DateWindow) : GoesThrough window.written := by
  apply Text.Word.goesThrough_append (goesThrough_of_literal (all_isLiteral_toDigits window.days))
  split
  next => exact Text.Word.goesThrough_nil
  next rating _ =>
    have colon : GoesThrough [':'] := Text.Word.goesThrough_of_bare (by decide)
    exact Text.Word.goesThrough_append colon (goesThrough_of_literal (all_isLiteral_toDigits _))

theorem Leaf.readDate_written {window : DateWindow}
    (expressible : (Leaf.date window).Expressible) :
    readDate window.kind window.written = .ok (.date window) := by
  obtain ⟨kind, days, rating⟩ := window
  obtain ⟨small, unrated⟩ := expressible
  have count : IsDayCount (Nat.toDigits 10 days) days :=
    ⟨Number.isNumeral_toDigits days, Nat.le_of_lt_succ small⟩
  rw [readDate_eq_ok_iff]
  cases rating with
  | none =>
    rw [DateWindow.written, List.append_nil]
    exact .days count
  | some rating =>
    cases kind with
    | added => cases unrated rfl
    | rated => exact .rated count (Number.isNumeral_toDigits rating.number)

theorem Leaf.readProperty_written {literal : List Char} {value : Number.Binary64}
    (property : Property) (comparison : Comparison) (reads : Number.real? literal = some value) :
    readProperty (property.keyword.toList ++ (comparison.symbol.toList ++ literal)) =
      .ok (.property property comparison value) := by
  have named : (Text.lowered (String.ofList property.keyword.toList), property) ∈
      Property.vocabulary := by cases property <;> decide
  exact readProperty_eq_ok_iff.2 ⟨⟨_, property, comparison, literal, value, named, reads⟩, rfl, rfl⟩

/-- What is written for a leaf is read as the leaf. -/
theorem Leaf.spelled_of_written {leaf : Leaf} {text after : List Char}
    (expressible : leaf.Expressible) (written : leaf.Written text) (apart : StandsApart after) :
    Token.Spelled (.leaf leaf) text after := by
  cases written with
  | text value => exact spelled_plain expressible apart
  | textIn value field =>
    have spelled := spelled_field expressible (Text.Word.goesThrough_quoted value.toList) apart
    rw [inField_quoted expressible.toIsBare] at spelled
    exact spelled
  | phrase content =>
    have closed := Text.Phrase.read?_closed content.toList after
    have spelled := Token.Spelled.phrase closed
    rw [String.ofList_toList] at spelled
    exact spelled
  | tag pattern => exact spelled_quoted .tag .tag (by decide) (fun _ => rfl) pattern apart
  | deck path => exact spelled_quoted .deck .deck (by decide) (fun _ => rfl) path apart
  | state state =>
    have bare : state.keyword.toList.all isBare := by cases state <;> decide
    have same : unquoted state.keyword.toList = state.keyword := by cases state <;> decide
    apply spelled_kind .state (by decide) (Text.Word.goesThrough_of_bare bare) _ apart
    rw [readClause, readState, same, CardState.ofKeyword?_keyword]
  | flag number =>
    apply spelled_kind .flag (by decide) (goesThrough_of_literal (all_isLiteral_toDigits _)) _ apart
    rw [readClause, readFlag_eq_ok_iff]
    exact ⟨number, Nat.le_of_lt_succ expressible, Number.isNumeral_toDigits number, rfl⟩
  | property property comparison reads =>
    have keyword : property.keyword.toList.all isBare := by cases property <;> decide
    have symbol : comparison.symbol.toList.all isBare := by cases comparison <;> decide
    apply spelled_kind .property (by decide) _ (readProperty_written _ _ reads) apart
    apply Text.Word.goesThrough_append (Text.Word.goesThrough_of_bare keyword)
    apply Text.Word.goesThrough_append (Text.Word.goesThrough_of_bare symbol)
    exact goesThrough_of_literal (Number.all_of_real? reads)
  | date window =>
    have known : (window.kind.keyword, ClauseKind.date window.kind) ∈ ClauseKind.vocabulary := by
      cases window.kind <;> decide
    apply spelled_kind (.date window.kind) known _ (readDate_written expressible) apart
    exact goesThrough_written window
  | regex pattern =>
    exact spelled_quoted .regex (.regex · none) (by decide) (fun _ => rfl) pattern apart
  | regexIn pattern field =>
    have value : GoesThrough (clause "re".toList (quoted pattern.toList)) :=
      goesThrough_clause (by decide) (Text.Word.goesThrough_quoted _)
    have spelled := spelled_field expressible value apart
    rw [inField_regex expressible.toIsBare] at spelled
    exact spelled
  | wholeWord word =>
    exact spelled_quoted .wholeWord .wholeWord (by decide) (fun _ => rfl) word apart
  | accentless value =>
    exact spelled_quoted .accentless .accentless (by decide) (fun _ => rfl) value apart

end CardSearch.Query
