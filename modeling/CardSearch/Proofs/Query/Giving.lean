import CardSearch.Proofs.Query.LeafReading
import CardSearch.Proofs.Query.Recognition
import CardSearch.Proofs.Query.Tiling
import Mathlib.Data.List.Chain

/-!
Texts that are read as the same tokens wherever they stand apart from what follows. Such texts can
be put next to each other, and the tokens of a query say what the query means.
-/

namespace CardSearch.Query

open Grammar

namespace Lexeme

theorem joinTerms_eq_nil_iff {lexemes : List Lexeme} : joinTerms lexemes = [] ↔ lexemes = [] := by
  cases lexemes with
  | nil => simp [joinTerms]
  | cons first rest =>
    obtain ⟨tail, same⟩ := joinTerms_cons first rest
    simp [same]

theorem joinTerms_concat (lexemes : List Lexeme) {last : Lexeme}
    (apart : last.token.startsTerm = false) : joinTerms (lexemes ++ [last]) =
      joinTerms lexemes ++ [last] := by
  fun_induction joinTerms lexemes with
  | case1 first second rest joins ih =>
    rw [List.cons_append] at ih
    rw [List.cons_append, List.cons_append, joinTerms, if_pos joins, ih]
    rfl
  | case2 first second rest separate ih =>
    rw [List.cons_append] at ih
    rw [List.cons_append, List.cons_append, joinTerms, if_neg separate, ih]
    rfl
  | case3 alone single =>
    rcases alone with _ | ⟨first, _ | ⟨second, rest⟩⟩
    · rfl
    · simp [joinTerms, apart]
    · exact absurd rfl (single first second rest)

end Lexeme

namespace Token

def joinTerms : List Token → List Token
  | first :: second :: rest =>
    if first.endsTerm && second.startsTerm then
      first :: .connective .and :: joinTerms (second :: rest)
    else first :: joinTerms (second :: rest)
  | alone => alone

theorem map_joinTerms (lexemes : List Lexeme) :
    (Lexeme.joinTerms lexemes).map Lexeme.token = joinTerms (lexemes.map Lexeme.token) := by
  fun_induction Lexeme.joinTerms lexemes with
  | case1 first second rest joins ih =>
    simp only [List.map_cons, joinTerms, joins, ↓reduceIte, ih]
    rfl
  | case2 first second rest apart ih =>
    simp only [List.map_cons, joinTerms, apart, Bool.false_eq_true, ↓reduceIte, ih]
  | case3 alone single =>
    rcases alone with _ | ⟨first, _ | ⟨second, rest⟩⟩
    · rfl
    · rfl
    · exact absurd rfl (single first second rest)

theorem mem_joinTerms {token : Token} {tokens : List Token} (member : token ∈ joinTerms tokens) :
    token ∈ tokens ∨ token = .connective .and := by
  fun_induction joinTerms tokens with
  | case1 first second rest joins ih =>
    simp only [List.mem_cons] at member ih ⊢
    grind
  | case2 first second rest apart ih =>
    simp only [List.mem_cons] at member ih ⊢
    grind
  | case3 => exact .inl member

end Token

def Unjoined (tokens : List Token) : Prop :=
  tokens.IsChain fun first second => ¬(first.endsTerm && second.startsTerm)

theorem Token.joinTerms_of_unjoined {tokens : List Token} (unjoined : Unjoined tokens) :
    joinTerms tokens = tokens := by
  fun_induction joinTerms tokens with
  | case1 first second rest joins ih =>
    have apart := (List.isChain_cons_cons.1 unjoined).1
    exact absurd joins apart
  | case2 first second rest apart ih => rw [ih (List.isChain_cons_cons.1 unjoined).2]
  | case3 => rfl

namespace Unjoined

variable {tokens front last : List Token} {token : Token}

theorem cons (ends : token.endsTerm = false) (rest : Unjoined tokens) :
    Unjoined (token :: tokens) := by
  refine List.isChain_cons.2 ⟨?_, rest⟩
  simp [ends]

theorem append (first : Unjoined front) (second : Unjoined (token :: last))
    (starts : token.startsTerm = false) : Unjoined (front ++ token :: last) := by
  refine List.isChain_append.2 ⟨first, second, ?_⟩
  simp [starts]

end Unjoined

/-- A text that is read as the tokens in front of anything that stands apart from it. -/
def Gives (text : List Char) (tokens : List Token) : Prop :=
  ∀ (cursor : Cursor) (after : List Char), cursor.rest = text ++ after → StandsApart after →
    ∃ lexemes, lexemes.map Lexeme.token = tokens ∧
      cursor.lexemes = (cursor.past text after).lexemes.map (lexemes ++ ·)

theorem gives_token {text : List Char} {token : Token}
    (spelled : ∀ after : List Char, StandsApart after → token.Spelled text after) :
    Gives text [token] := by
  intro cursor after split apart
  exact ⟨[_], rfl, Cursor.lexemes_of_spelled (spelled after apart) split⟩

theorem gives_separated {front last blanks : List Char} {first second : List Token}
    (one : Gives front first) (other : Gives last second) (blank : blanks.all Text.isBlank)
    (some : blanks ≠ []) : Gives (front ++ (blanks ++ last)) (first ++ second) := by
  intro cursor after split apart
  rw [List.append_assoc, List.append_assoc] at split
  obtain ⟨before, rfl, read⟩ := one cursor _ split (standsApart_append blank some _)
  have skipped : ((cursor.past front (blanks ++ (last ++ after))).past blanks
      (last ++ after)).lexemes = (cursor.past front (blanks ++ (last ++ after))).lexemes :=
    Cursor.lexemes_past blank rfl
  rw [Cursor.past_past] at skipped
  obtain ⟨behind, rfl, more⟩ :=
    other (cursor.past (front ++ blanks) (last ++ after)) after rfl apart
  rw [Cursor.past_past, List.append_assoc] at more
  refine ⟨before ++ behind, List.map_append, ?_⟩
  rw [read, ← skipped, more]
  cases (cursor.past (front ++ (blanks ++ last)) after).lexemes with
  | error => rfl
  | ok => simp [Except.map]

theorem gives_spaced {front last : List Char} {first second : List Token} (one : Gives front first)
    (other : Gives last second) : Gives (front ++ ' ' :: last) (first ++ second) := by
  have blank : [' '].all Text.isBlank := by decide
  exact gives_separated one other blank (by simp)

theorem gives_keyword {first : Char} {rest : List Char} {token : Token}
    (bare : (first :: rest).all Text.Word.isBare) (dash : first ≠ '-')
    (means : Token.ofWord (first :: rest) = .ok token) : Gives (first :: rest) [token] := by
  apply gives_token
  intro after apart
  have goes := Text.Word.goesThrough_of_bare bare
  apply Token.Spelled.word (isWord_of_goesThrough goes _ apart) means
  rw [List.all_cons, Bool.and_eq_true] at bare
  exact Cursor.beginsWord_cons bare.1 fun same => absurd same dash

theorem gives_parenthesized {text : List Char} {tokens : List Token} (inner : Gives text tokens) :
    Gives (parenthesized text) (.opening :: (tokens ++ [.closing])) := by
  have opening : Gives ['('] [.opening] := gives_token fun after _ => .opening after
  have closing : Gives [')'] [.closing] := gives_token fun after _ => .closing after
  exact gives_spaced opening (gives_spaced inner closing)

theorem ofQuery_of_gives {query : String} {tokens : List Token} (gives : Gives query.toList tokens)
    (inside : .finish ∉ tokens) (filter : Filter) :
    Filter.ofQuery query = .ok filter ↔
      tokens = [] ∧ filter = .all ∨ Derives .disjunction (Token.joinTerms tokens) filter := by
  have start : (Cursor.start query).rest = query.toList ++ [] := by simp [Cursor.start]
  obtain ⟨written, rfl, read⟩ := gives (.start query) [] start (by simp [StandsApart])
  let behind := (Cursor.start query).past query.toList []
  have ends : behind.lexemes = .ok [⟨.finish, behind.position, ""⟩] :=
    Cursor.lexemes_of_rest_eq_nil rfl
  have whole : lexemes query =
      .ok (Lexeme.joinTerms written ++ [⟨.finish, behind.position, ""⟩]) := by
    rw [lexemes, read, ends, Except.map, Except.map, Lexeme.joinTerms_concat]
    rfl
  have within : ∀ lexeme ∈ Lexeme.joinTerms written, lexeme.token ≠ .finish := by
    rintro lexeme member same
    have among : .finish ∈ (Lexeme.joinTerms written).map Lexeme.token :=
      same ▸ List.mem_map_of_mem member
    rw [Token.map_joinTerms] at among
    rcases Token.mem_joinTerms among with early | other
    · exact inside early
    · cases other
  have nothing : Lexeme.joinTerms written = [] ↔ written.map Lexeme.token = [] := by
    rw [List.map_eq_nil_iff, Lexeme.joinTerms_eq_nil_iff]
  rw [Filter.ofQuery, whole, ← Token.map_joinTerms, ← nothing]
  exact Filter.ofLexemes_append_finish rfl within filter

end CardSearch.Query
