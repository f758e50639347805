import CardSearch.Proofs.Query.Scanning

/-!
The tokens of a query make up its text. Each written token stands at its place with its text, and
what no token covers is blank; so nothing of a query is lost when it is read.
-/

namespace CardSearch.Query

/-- Lexemes that make up a text behind `position` other characters. A written token may have blanks
in front of it; a conjunction that nobody wrote takes no room. It stands between two terms, and
`ended` says whether a term ends in front of the lexemes. -/
inductive Tiles : Bool → Nat → List Char → List Lexeme → Prop where
  | finish {ended : Bool} {position : Nat} {blanks : List Char} (blank : blanks.all Text.isBlank) :
      Tiles ended position blanks [⟨.finish, position + blanks.length, ""⟩]
  | token {ended : Bool} {position : Nat} {blanks source after : List Char} {token : Token}
      {rest : List Lexeme} (blank : blanks.all Text.isBlank) (spelled : token.Spelled source after)
      (more : Tiles token.endsTerm (position + (blanks ++ source).length) after rest) :
      Tiles ended position (blanks ++ (source ++ after))
        (⟨token, position + blanks.length, String.ofList source⟩ :: rest)
  | conjunction {position : Nat} {text : List Char} {next : Lexeme} {rest : List Lexeme}
      (starts : next.token.startsTerm) (more : Tiles false position text (next :: rest)) :
      Tiles true position text (next.conjunctionBefore :: next :: rest)

theorem Cursor.tiles_of_lexemes {cursor : Cursor} {lexemes : List Lexeme}
    (read : cursor.lexemes = .ok lexemes) (ended : Bool) :
    Tiles ended cursor.position cursor.rest lexemes := by
  induction cursor using Cursor.lexemes.induct generalizing lexemes ended with
  | case1 cursor error after step =>
    rw [lexemes_eq, step] at read
    cases read
  | case2 cursor lexeme after step last =>
    have scans := scans_next cursor
    rw [lexemes_eq, step] at read
    rw [step] at scans
    cases scans with
    | finish blank =>
      cases read
      exact .finish blank
    | token blank spelled split => exact absurd last spelled.ne_finish
  | case3 cursor lexeme after step unfinished ih =>
    have scans := scans_next cursor
    rw [lexemes_eq, step] at read
    simp only [if_neg unfinished] at read
    obtain ⟨rest, more, rfl⟩ := Fallible.map_eq_ok_iff.1 read
    rw [step] at scans
    cases scans with
    | finish blank => exact absurd rfl unfinished
    | token blank spelled split =>
      rw [split]
      exact .token blank spelled (ih more _)

namespace Lexeme

theorem joinTerms_cons (first : Lexeme) (rest : List Lexeme) :
    ∃ tail, joinTerms (first :: rest) = first :: tail := by
  cases rest with
  | nil => exact ⟨[], rfl⟩
  | cons second rest =>
    rw [joinTerms]
    split
    · exact ⟨_, rfl⟩
    · exact ⟨_, rfl⟩

end Lexeme

namespace Tiles

variable {ended : Bool} {position : Nat} {text : List Char} {lexemes : List Lexeme}

theorem exists_cons (tiles : Tiles ended position text lexemes) :
    ∃ first rest, lexemes = first :: rest := by
  cases tiles with
  | finish | token | conjunction => exact ⟨_, _, rfl⟩

theorem of_startsTerm {next : Lexeme} {rest : List Lexeme}
    (tiles : Tiles ended position text (next :: rest)) (starts : next.token.startsTerm)
    (other : Bool) : Tiles other position text (next :: rest) := by
  cases tiles with
  | finish blank => exact .finish blank
  | token blank spelled more => exact .token blank spelled more
  | conjunction => cases starts

theorem joinTerms (tiles : Tiles ended position text lexemes) :
    Tiles ended position text (Lexeme.joinTerms lexemes) := by
  induction tiles with
  | finish blank => exact .finish blank
  | @token _ _ _ _ _ token _ blank spelled more ih =>
    obtain ⟨next, rest, rfl⟩ := more.exists_cons
    obtain ⟨tail, same⟩ := Lexeme.joinTerms_cons next rest
    rw [same] at ih
    rw [Lexeme.joinTerms, same]
    split
    next joins =>
      rw [Bool.and_eq_true] at joins
      have conjunction := Tiles.conjunction joins.2 (ih.of_startsTerm joins.2 false)
      rw [← joins.1] at conjunction
      exact .token blank spelled conjunction
    next => exact .token blank spelled ih
  | @conjunction _ _ next rest starts _ ih =>
    obtain ⟨tail, same⟩ := Lexeme.joinTerms_cons next rest
    rw [same] at ih
    rw [Lexeme.joinTerms, same]
    exact .conjunction starts ih

end Tiles

theorem tiles_of_lexemes {query : String} {tokens : List Lexeme}
    (read : lexemes query = .ok tokens) : Tiles false 0 query.toList tokens := by
  obtain ⟨written, scanned, rfl⟩ := Fallible.map_eq_ok_iff.1 read
  exact (Cursor.tiles_of_lexemes scanned false).joinTerms

namespace Tiles

variable {ended : Bool} {position : Nat} {text : List Char} {lexemes : List Lexeme}
  {lexeme : Lexeme}

theorem exists_body (tiles : Tiles ended position text lexemes) :
    ∃ body, lexemes = body ++ [⟨.finish, position + text.length, ""⟩] ∧
      ∀ lexeme ∈ body, lexeme.token ≠ .finish := by
  induction tiles with
  | finish => exact ⟨[], rfl, by simp⟩
  | @token _ position blanks source _ token _ blank spelled more ih =>
    obtain ⟨body, rfl, inside⟩ := ih
    refine ⟨⟨token, position + blanks.length, String.ofList source⟩ :: body, ?_,
      List.forall_mem_cons.2 ⟨spelled.ne_finish, inside⟩⟩
    simp [Nat.add_assoc]
  | @conjunction _ _ next rest starts more ih =>
    obtain ⟨body, same, inside⟩ := ih
    refine ⟨next.conjunctionBefore :: body, ?_, List.forall_mem_cons.2 ⟨?_, inside⟩⟩
    · rw [same, List.cons_append]
    · simp [Lexeme.conjunctionBefore]

theorem position_le (tiles : Tiles ended position text lexemes) (member : lexeme ∈ lexemes) :
    position ≤ lexeme.position := by
  induction tiles generalizing lexeme with
  | finish =>
    obtain rfl := List.mem_singleton.1 member
    exact Nat.le_add_right _ _
  | token blank spelled more ih =>
    rcases List.mem_cons.1 member with rfl | later
    · exact Nat.le_add_right _ _
    · exact Nat.le_trans (Nat.le_add_right _ _) (ih later)
  | @conjunction _ _ next rest starts more ih =>
    rcases List.mem_cons.1 member with rfl | later
    · have here : next ∈ next :: rest := List.mem_cons_self
      have behind := ih here
      exact behind
    · exact ih later

theorem exists_suffix {front back : List Lexeme}
    (tiles : Tiles ended position text (front ++ lexeme :: back)) :
    ∃ followed before after,
      front.foldl (fun _ earlier => earlier.token.endsTerm) ended = followed ∧
      text = before ++ after ∧
      Tiles followed (position + before.length) after (lexeme :: back) := by
  induction front generalizing ended position text with
  | nil => exact ⟨ended, [], text, rfl, rfl, tiles⟩
  | cons first front ih =>
    obtain ⟨next, rest, more⟩ : ∃ next rest, front ++ lexeme :: back = next :: rest :=
      List.exists_cons_of_ne_nil (by simp)
    rw [List.cons_append, more] at tiles
    rw [more] at ih
    cases tiles with
    | token blank spelled more =>
      obtain ⟨followed, before, after, same, rfl, later⟩ := ih more
      rw [Nat.add_assoc, ← List.length_append] at later
      exact ⟨followed, _, after, same, by simp, later⟩
    | conjunction starts more => exact ih more

theorem exists_split (tiles : Tiles ended position text lexemes) (member : lexeme ∈ lexemes)
    (written : lexeme.text ≠ "") :
    ∃ front after, text = front ++ (lexeme.text.toList ++ after) ∧
      lexeme.position = position + front.length ∧
      lexeme.token.Spelled lexeme.text.toList after := by
  obtain ⟨front, back, rfl⟩ := List.append_of_mem member
  obtain ⟨followed, before, after, -, rfl, here⟩ := tiles.exists_suffix
  cases here with
  | finish => exact absurd rfl written
  | @token _ _ blanks source after token rest blank spelled more =>
    refine ⟨before ++ blanks, after, by simp, ?_, by simpa using spelled⟩
    rw [List.length_append, Nat.add_assoc]
  | conjunction => exact absurd rfl written

theorem ordered (tiles : Tiles ended position text lexemes) :
    (lexemes.filter (·.text ≠ "")).Pairwise fun first second =>
      first.position + first.text.length ≤ second.position := by
  induction tiles with
  | finish => simp
  | @token _ position blanks source after token rest blank spelled more ih =>
    have written : String.ofList source ≠ "" := by
      simpa using spelled.source_ne_nil
    rw [List.filter_cons_of_pos (by simpa using written)]
    refine List.pairwise_cons.2 ⟨?_, ih⟩
    intro second member
    have behind := more.position_le (List.mem_filter.1 member).1
    simpa [Nat.add_assoc] using behind
  | conjunction starts more ih =>
    rw [List.filter_cons_of_neg (by simp [Lexeme.conjunctionBefore])]
    exact ih

end Tiles

namespace Lexeme

def Spans (lexeme : Lexeme) (index : Nat) : Prop :=
  lexeme.position ≤ index ∧ index < lexeme.position + lexeme.text.length

def isWord (lexeme : Lexeme) : Bool :=
  match lexeme.token with
  | .leaf (.phrase _) | .opening | .closing | .finish => false
  | .leaf _ => true
  | .not => lexeme.text != "-"
  | .connective _ => lexeme.text != ""

end Lexeme

namespace Tiles

variable {ended : Bool} {position : Nat} {text : List Char} {lexemes : List Lexeme}
  {lexeme : Lexeme}

/-- What no token covers is blank. -/
theorem blank_of_not_spans (tiles : Tiles ended position text lexemes) {index : Nat}
    {character : Char} (here : text[index]? = some character)
    (skipped : ∀ lexeme ∈ lexemes, ¬lexeme.Spans (position + index)) :
    Text.isBlank character := by
  induction tiles generalizing index with
  | finish blank => exact List.all_eq_true.1 blank character (List.mem_of_getElem? here)
  | @token _ position blanks source after token rest blank spelled more ih =>
    obtain ⟨notFirst, notLater⟩ := List.forall_mem_cons.1 skipped
    simp only [Lexeme.Spans, String.length_ofList] at notFirst
    by_cases front : index < blanks.length
    · rw [List.getElem?_append_left front] at here
      exact List.all_eq_true.1 blank character (List.mem_of_getElem? here)
    · have behind : (blanks ++ source).length ≤ index := by
        rw [List.length_append]
        omega
      rw [← List.append_assoc, List.getElem?_append_right behind] at here
      apply ih here
      intro lexeme member
      have place : position + (blanks ++ source).length + (index - (blanks ++ source).length) =
          position + index := by omega
      rw [place]
      exact notLater lexeme member
  | conjunction starts more ih => exact ih here (List.forall_mem_cons.1 skipped).2

/-- A conjunction that nobody wrote stands in front of a term and has its place. -/
theorem exists_next (tiles : Tiles ended position text lexemes) {front back : List Lexeme}
    (split : lexemes = front ++ lexeme :: back) (inside : lexeme.token ≠ .finish)
    (unwritten : lexeme.text = "") :
    ∃ next rest, back = next :: rest ∧ next.token.startsTerm ∧ lexeme = next.conjunctionBefore := by
  subst split
  obtain ⟨followed, before, after, -, -, here⟩ := tiles.exists_suffix
  cases here with
  | finish => exact absurd rfl inside
  | token blank spelled more =>
    have written := spelled.source_ne_nil
    simp [written] at unwritten
  | conjunction starts more => exact ⟨_, _, rfl, starts, rfl⟩

end Tiles

theorem Token.Spelled.endsWord_after {token : Token} {source after : List Char}
    (spelled : token.Spelled source after) {position : Nat}
    (word : (Lexeme.mk token position (String.ofList source)).isWord) :
    ∀ character ∈ after.head?, Text.endsWord character := by
  cases spelled with
  | opening | closing | dash | phrase => cases word
  | word isWord => exact Text.Word.endsWord_after isWord.whole

/-- Tokens that tell a text apart from the blanks between them. -/
structure Lexeme.Tiling (text : List Char) (lexemes : List Lexeme) : Prop where
  ends : ∃ body, lexemes = body ++ [⟨.finish, text.length, ""⟩] ∧
    ∀ lexeme ∈ body, lexeme.token ≠ .finish
  /-- Only a conjunction has no text, and it stands where the next token does. -/
  unwritten : ∀ front lexeme back, lexemes = front ++ lexeme :: back → lexeme.token ≠ .finish →
    lexeme.text = "" → ∃ next rest, back = next :: rest ∧ lexeme = next.conjunctionBefore
  written : ∀ lexeme ∈ lexemes, lexeme.text.toList <+: text.drop lexeme.position
  ordered : (lexemes.filter (·.text ≠ "")).Pairwise fun first second =>
    first.position + first.text.length ≤ second.position
  blank : ∀ index character, text[index]? = some character →
    (∀ lexeme ∈ lexemes, ¬lexeme.Spans index) → Text.isBlank character
  maximal : ∀ lexeme ∈ lexemes, lexeme.isWord → ∀ character,
    text[lexeme.position + lexeme.text.length]? = some character → Text.endsWord character
  /-- No other text has the same tokens at the same places and the same blanks. -/
  rebuilt : ∀ other : List Char,
    (∀ lexeme ∈ lexemes, lexeme.text.toList <+: other.drop lexeme.position) →
    (∀ index, (∀ lexeme ∈ lexemes, ¬lexeme.Spans index) → other[index]? = text[index]?) →
    other = text

theorem Lexeme.getElem?_eq_of_spans {lexeme : Lexeme} {one other : List Char}
    (here : lexeme.text.toList <+: one.drop lexeme.position)
    (there : lexeme.text.toList <+: other.drop lexeme.position) {index : Nat}
    (spans : lexeme.Spans index) : one[index]? = other[index]? := by
  obtain ⟨lower, upper⟩ := spans
  obtain ⟨offset, rfl⟩ := Nat.exists_eq_add_of_le lower
  have within : offset < lexeme.text.toList.length := by
    rw [String.length_toList]
    omega
  obtain ⟨tail, here⟩ := here
  obtain ⟨last, there⟩ := there
  rw [← List.getElem?_drop, ← List.getElem?_drop, ← here, ← there,
    List.getElem?_append_left within, List.getElem?_append_left within]

namespace Tiles

variable {ended : Bool} {text : List Char} {lexemes : List Lexeme} {lexeme : Lexeme}

theorem text_ne_of_isWord {position : Nat} (tiles : Tiles ended position text lexemes)
    (member : lexeme ∈ lexemes) (word : lexeme.isWord) : lexeme.text ≠ "" := by
  intro unwritten
  have inside : lexeme.token ≠ .finish := by
    intro last
    simp [Lexeme.isWord, last] at word
  obtain ⟨front, back, split⟩ := List.append_of_mem member
  obtain ⟨next, rest, -, -, rfl⟩ := tiles.exists_next split inside unwritten
  cases word

theorem isPrefix_drop (tiles : Tiles ended 0 text lexemes) (member : lexeme ∈ lexemes) :
    lexeme.text.toList <+: text.drop lexeme.position := by
  by_cases written : lexeme.text = ""
  · simp [written]
  · obtain ⟨front, after, rfl, place, -⟩ := tiles.exists_split member written
    rw [Nat.zero_add] at place
    rw [place, List.drop_left]
    exact List.prefix_append _ _

theorem endsWord_behind (tiles : Tiles ended 0 text lexemes) (member : lexeme ∈ lexemes)
    (word : lexeme.isWord) {character : Char}
    (here : text[lexeme.position + lexeme.text.length]? = some character) :
    Text.endsWord character := by
  have written := tiles.text_ne_of_isWord member word
  obtain ⟨front, after, rfl, place, spelled⟩ := tiles.exists_split member written
  have behind : lexeme.position + lexeme.text.length =
      (front ++ lexeme.text.toList).length := by
    rw [place, Nat.zero_add, List.length_append, String.length_toList]
  rw [behind, ← List.append_assoc, List.getElem?_append_right (Nat.le_refl _), Nat.sub_self,
    ← List.head?_eq_getElem?] at here
  obtain ⟨token, position, source⟩ := lexeme
  apply spelled.endsWord_after _ character here
  · exact position
  · simpa using word

end Tiles

/-- Nothing of a query is lost when it is read: its tokens and the blanks between them are its
text. -/
theorem tiling_of_lexemes {query : String} {tokens : List Lexeme}
    (read : lexemes query = .ok tokens) : Lexeme.Tiling query.toList tokens := by
  have tiles := tiles_of_lexemes read
  have blank : ∀ index character, query.toList[index]? = some character →
      (∀ lexeme ∈ tokens, ¬lexeme.Spans index) → Text.isBlank character := by
    intro index character here skipped
    exact tiles.blank_of_not_spans here (by simpa using skipped)
  constructor
  case ends => simpa using tiles.exists_body
  case unwritten =>
    intro front lexeme back split inside unwritten
    obtain ⟨next, rest, same, -, conjunction⟩ := tiles.exists_next split inside unwritten
    exact ⟨next, rest, same, conjunction⟩
  case written => exact fun lexeme member => tiles.isPrefix_drop member
  case ordered => exact tiles.ordered
  case blank => exact blank
  case maximal => exact fun lexeme member word character => tiles.endsWord_behind member word
  case rebuilt =>
    intro other there skipped
    apply List.ext_getElem?
    intro index
    by_cases covered : ∃ lexeme ∈ tokens, lexeme.Spans index
    · obtain ⟨lexeme, member, spans⟩ := covered
      exact Lexeme.getElem?_eq_of_spans (there lexeme member) (tiles.isPrefix_drop member) spans
    · exact skipped index (by simpa using covered)

theorem tiling_of_dash_and_field :
    let tokens : List Lexeme := [⟨.not, 1, "-"⟩, ⟨.leaf (.text "a" none), 2, "a"⟩,
      ⟨.connective .and, 4, ""⟩, ⟨.leaf (.text "x y" (some "f")), 4, "f:\"x y\""⟩,
      ⟨.connective .and, 11, ""⟩, ⟨.opening, 11, "("⟩, ⟨.leaf (.text "b" none), 12, "b"⟩,
      ⟨.finish, 13, ""⟩]
    lexemes " -a f:\"x y\"(b" = .ok tokens ∧ Lexeme.Tiling " -a f:\"x y\"(b".toList tokens := by
  intro tokens
  have read : lexemes " -a f:\"x y\"(b" = .ok tokens := by cbv
  exact ⟨read, tiling_of_lexemes read⟩

end CardSearch.Query
