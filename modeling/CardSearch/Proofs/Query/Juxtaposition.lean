import CardSearch.Proofs.Query.Giving
import CardSearch.Proofs.Query.Locality

/-!
Queries next to each other. Blanks between two queries keep their tokens apart, and they mean what a
written conjunction means: the last term of the one and the first term of the other are joined.
-/

namespace CardSearch.Query

open Grammar

namespace Token

theorem head?_joinTerms (tokens : List Token) : (joinTerms tokens).head? = tokens.head? := by
  fun_induction joinTerms tokens with
  | case1 | case2 | case3 => rfl

theorem getLast?_joinTerms (tokens : List Token) :
    (joinTerms tokens).getLast? = tokens.getLast? := by
  fun_induction joinTerms tokens with
  | case1 first second rest joins ih | case2 first second rest apart ih =>
    simp [List.getLast?_cons, ih]
  | case3 => rfl

def seam (front last : List Token) : List Token :=
  if front.getLast?.any endsTerm && last.head?.any startsTerm then [.connective .and] else []

theorem joinTerms_append (front last : List Token) :
    joinTerms (front ++ last) = joinTerms front ++ (seam front last ++ joinTerms last) := by
  fun_induction joinTerms front with
  | case1 first second rest joins ih =>
    have same : seam (first :: second :: rest) last = seam (second :: rest) last := by
      simp [seam, List.getLast?_cons_cons]
    rw [List.cons_append] at ih
    rw [List.cons_append, List.cons_append, joinTerms, if_pos joins, ih, same]
    rfl
  | case2 first second rest apart ih =>
    have same : seam (first :: second :: rest) last = seam (second :: rest) last := by
      simp [seam, List.getLast?_cons_cons]
    rw [List.cons_append] at ih
    rw [List.cons_append, List.cons_append, joinTerms, if_neg apart, ih, same]
    rfl
  | case3 alone single =>
    rcases alone with _ | ⟨first, _ | ⟨second, rest⟩⟩
    · simp [seam]
    · cases last with
      | nil => simp [seam, joinTerms]
      | cons second rest =>
        by_cases joins : first.endsTerm && second.startsTerm
        · simp [seam, joinTerms, joins]
        · simp [seam, joinTerms, joins]
    · exact absurd rfl (single first second rest)

theorem joinTerms_cons {token : Token} (apart : token.endsTerm = false) (tokens : List Token) :
    joinTerms (token :: tokens) = token :: joinTerms tokens := by
  have nothing : seam [token] tokens = [] := by simp [seam, apart]
  have whole := joinTerms_append [token] tokens
  rw [nothing] at whole
  exact whole

theorem joinTerms_connective (front : List Token) (connective : Connective) (last : List Token) :
    joinTerms (front ++ .connective connective :: last) =
      joinTerms front ++ .connective connective :: joinTerms last := by
  have nothing : seam front (.connective connective :: last) = [] := by simp [seam, startsTerm]
  rw [joinTerms_append, nothing, joinTerms_cons rfl]
  rfl

end Token

namespace Grammar

variable {level : Level} {tokens front last : List Token} {filter first second : Filter}

theorem startsTerm_of_derives (derived : Derives level tokens filter) :
    tokens.head?.any Token.startsTerm := by
  induction derived with
  | leaf | group | not => rfl
  | operand _ ih | conjunction _ ih => exact ih
  | @and left _ _ _ _ _ ih | @or left _ _ _ _ _ ih =>
    rw [List.head?_append]
    cases first : left.head? with
    | none =>
      rw [first] at ih
      cases ih
    | some token =>
      rw [first] at ih
      exact ih

theorem endsTerm_of_derives (derived : Derives level tokens filter) :
    tokens.getLast?.any Token.endsTerm := by
  induction derived with
  | leaf => rfl
  | group => simp [List.getLast?_cons, Token.endsTerm]
  | @not tokens _ _ ih | @and _ tokens _ _ _ _ _ ih | @or _ tokens _ _ _ _ _ ih =>
    cases last : tokens.getLast? with
    | none =>
      rw [last] at ih
      cases ih
    | some token =>
      rw [last] at ih
      simpa [List.getLast?_cons, last] using ih
  | operand _ ih | conjunction _ ih => exact ih

theorem exists_conjunction (one : Derives .conjunction front first)
    (other : Derives .conjunction last second) :
    ∃ filter, Derives .conjunction (front ++ .connective .and :: last) filter := by
  generalize same : Level.conjunction = level at other
  induction other with
  | leaf | group | not | conjunction | or => cases same
  | operand alone => exact ⟨_, .and one alone⟩
  | and _ behind ih =>
    obtain ⟨filter, joined⟩ := ih rfl
    have whole := Derives.and joined behind
    rw [List.append_assoc] at whole
    exact ⟨_, whole⟩

/-- The last conjunction in front and the first one behind become one. -/
theorem exists_disjunction (one : Derives .disjunction front first)
    (other : Derives .disjunction last second) :
    ∃ filter, Derives .disjunction (front ++ .connective .and :: last) filter := by
  generalize same : Level.disjunction = level at other
  induction other with
  | leaf | group | not | operand | and => cases same
  | conjunction alone =>
    cases one with
    | conjunction before =>
      obtain ⟨filter, joined⟩ := exists_conjunction before alone
      exact ⟨filter, .conjunction joined⟩
    | or before behind =>
      obtain ⟨filter, joined⟩ := exists_conjunction behind alone
      rw [List.append_assoc]
      exact ⟨_, .or before joined⟩
  | or _ behind ih =>
    obtain ⟨filter, joined⟩ := ih rfl
    have whole := Derives.or joined behind
    rw [List.append_assoc] at whole
    exact ⟨_, whole⟩

end Grammar

theorem exists_gives_of_lexemes {query : String} {written : List Lexeme}
    (read : (Cursor.start query).lexemes = .ok written) :
    ∃ body finish, written = body ++ [finish] ∧ finish.token = .finish ∧
      Gives query.toList (body.map Lexeme.token) := by
  obtain ⟨body, rfl, -⟩ := Cursor.lexemes_append read 0
  refine ⟨body, _, rfl, rfl, ?_⟩
  rintro ⟨position, rest⟩ after rfl apart
  obtain ⟨same, split, follows⟩ := Cursor.lexemes_append read position
  obtain rfl : body = same := List.append_cancel_right split
  refine ⟨body.map (Lexeme.shifted position), by simp [Lexeme.shifted], ?_⟩
  simpa [Cursor.start, Cursor.past] using follows after apart

theorem exists_gives_of_ofQuery {query : String} {filter : Filter}
    (read : Filter.ofQuery query = .ok filter) (some : filter ≠ .all) :
    ∃ tokens, Gives query.toList tokens ∧ .finish ∉ tokens ∧
      Derives .disjunction (Token.joinTerms tokens) filter := by
  obtain ⟨tokens, scanned, -⟩ := Fallible.bind_eq_ok_iff.1 read
  obtain ⟨written, raw, -⟩ := Fallible.map_eq_ok_iff.1 scanned
  obtain ⟨body, finish, rfl, last, gives⟩ := exists_gives_of_lexemes raw
  have inside : .finish ∉ body.map Lexeme.token := by
    obtain ⟨same, split, within⟩ := (Cursor.tiles_of_lexemes raw false).exists_body
    obtain ⟨rfl, -⟩ := List.append_inj' split rfl
    simpa using within
  refine ⟨_, gives, inside, ?_⟩
  exact ((ofQuery_of_gives gives inside filter).1 read).resolve_left fun nothing => some nothing.2

theorem Token.joinTerms_conjunction {front last : List Token} (ends : front.getLast?.any endsTerm)
    (starts : last.head?.any startsTerm) :
    joinTerms (front ++ last) = joinTerms front ++ .connective .and :: joinTerms last ∧
      joinTerms (front ++ .connective .and :: last) =
        joinTerms front ++ .connective .and :: joinTerms last := by
  have meant : seam front last = [.connective .and] := by rw [seam, ends, starts]; rfl
  refine ⟨?_, joinTerms_connective front .and last⟩
  rw [joinTerms_append, meant]
  rfl

def IsGap (text : String) : Prop :=
  text ≠ "" ∧ text.toList.all Text.isBlank

instance (text : String) : Decidable (IsGap text) := inferInstanceAs (Decidable (_ ∧ _))

/-- Blanks between two texts keep them apart: both are read as if they stood alone, the second one
further on. -/
theorem lexemes_separated {one other gap : String} {front last : List Lexeme}
    (readOne : (Cursor.start one).lexemes = .ok front)
    (readOther : (Cursor.start other).lexemes = .ok last) (isGap : IsGap gap) :
    front.getLast? = some ⟨.finish, one.length, ""⟩ ∧
      (Cursor.start (one ++ gap ++ other)).lexemes =
        .ok (front.dropLast ++ last.map (Lexeme.shifted (one ++ gap).length)) ∧
      (Cursor.start (gap ++ one)).lexemes = .ok (front.map (Lexeme.shifted gap.length)) := by
  obtain ⟨some, blank⟩ := isGap
  have behind := Cursor.lexemes_behind_blanks blank readOther one.length
  have moved := Cursor.lexemes_behind_blanks blank readOne 0
  obtain ⟨body, rfl, follows⟩ := Cursor.lexemes_append readOne 0
  have whole := follows _ (standsApart_append blank (by simpa using some) other.toList)
  simp only [Cursor.start, Nat.zero_add, String.length_toList, behind,
    Lexeme.shifted_zero, List.map_id] at whole
  refine ⟨by simp [Cursor.start, String.length_toList], ?_, ?_⟩
  · simpa [Cursor.start, Except.map] using whole
  · simpa [Cursor.start] using moved

theorem lexemes_separated_dash_and_phrase :
    let front : List Lexeme := [⟨.leaf (.text "a" none), 0, "a"⟩, ⟨.leaf (.text "-" none), 2, "-"⟩,
      ⟨.finish, 3, ""⟩]
    let last : List Lexeme := [⟨.leaf (.phrase "x y"), 0, "\"x y\""⟩, ⟨.not, 5, "-"⟩,
      ⟨.opening, 6, "("⟩, ⟨.finish, 7, ""⟩]
    (Cursor.start "a -").lexemes = .ok front ∧ (Cursor.start "\"x y\"-(").lexemes = .ok last ∧
      IsGap " \t" ∧ (Cursor.start ("a -" ++ " \t" ++ "\"x y\"-(")).lexemes =
        .ok [⟨.leaf (.text "a" none), 0, "a"⟩, ⟨.leaf (.text "-" none), 2, "-"⟩,
          ⟨.leaf (.phrase "x y"), 5, "\"x y\""⟩, ⟨.not, 10, "-"⟩, ⟨.opening, 11, "("⟩,
          ⟨.finish, 12, ""⟩] := by
  intro front last
  have one : (Cursor.start "a -").lexemes = .ok front := by cbv
  have other : (Cursor.start "\"x y\"-(").lexemes = .ok last := by cbv
  have gap : IsGap " \t" := by decide
  exact ⟨one, other, gap, (lexemes_separated one other gap).2.1⟩

theorem gives_gap {one other gap : String} {first second : List Token} (isGap : IsGap gap)
    (before : Gives one.toList first) (behind : Gives other.toList second) :
    Gives (one ++ gap ++ other).toList (first ++ second) := by
  obtain ⟨some, blank⟩ := isGap
  rw [String.toList_append, String.toList_append, List.append_assoc]
  exact gives_separated before behind blank (by simpa using some)

/-- Blanks between two queries mean what a written conjunction means. This is not always the
conjunction of their filters, since a disjunction binds looser. -/
theorem ofQuery_juxtaposed :
    (∀ {one other : String} {first second : Filter}, Filter.ofQuery one = .ok first →
      Filter.ofQuery other = .ok second → first ≠ .all → second ≠ .all →
      ∀ {between before behind : String}, IsGap between → IsGap before → IsGap behind →
        ∃ filter, Filter.ofQuery (one ++ between ++ other) = .ok filter ∧
          Filter.ofQuery (one ++ before ++ "AND" ++ behind ++ other) = .ok filter) ∧
      ∃ (one other : String) (first second filter : Filter), Filter.ofQuery one = .ok first ∧
        Filter.ofQuery other = .ok second ∧ first ≠ .all ∧ second ≠ .all ∧
        Filter.ofQuery (one ++ " " ++ other) = .ok filter ∧ filter ≠ .and first second := by
  constructor
  · intro one other first second readOne readOther someFirst someSecond between before behind
      isGap gapBefore gapBehind
    obtain ⟨front, givesOne, insideOne, derivedOne⟩ := exists_gives_of_ofQuery readOne someFirst
    obtain ⟨last, givesOther, insideOther, derivedOther⟩ :=
      exists_gives_of_ofQuery readOther someSecond
    obtain ⟨filter, derived⟩ := exists_disjunction derivedOne derivedOther
    have ends := endsTerm_of_derives derivedOne
    have starts := startsTerm_of_derives derivedOther
    rw [Token.getLast?_joinTerms] at ends
    rw [Token.head?_joinTerms] at starts
    -- With its conjunctions written out either query has the same tokens.
    obtain ⟨unwritten, written⟩ := Token.joinTerms_conjunction ends starts
    have keyword : Gives "AND".toList [.connective .and] :=
      gives_keyword (by decide) (by decide) rfl
    have given := gives_gap gapBehind (gives_gap gapBefore givesOne keyword) givesOther
    rw [List.append_assoc, List.singleton_append] at given
    refine ⟨filter, ?_, ?_⟩
    · apply (ofQuery_of_gives (gives_gap isGap givesOne givesOther) ?_ filter).2
      · exact .inr (unwritten ▸ derived)
      · simp [insideOne, insideOther]
    · apply (ofQuery_of_gives given ?_ filter).2
      · exact .inr (written ▸ derived)
      · simp [insideOne, insideOther]
  · let term (value : String) : Filter := .leaf (.text value none)
    exact ⟨"x OR y", "z", .or (term "x") (term "y"), term "z",
      .or (term "x") (.and (term "y") (term "z")), by cbv, by cbv, by simp, by simp [term],
      by cbv, by simp⟩

theorem ofQuery_dash_then_group :
    Filter.ofQuery "a OR -" = .ok (.or (.leaf (.text "a" none)) (.leaf (.text "-" none))) ∧
      Filter.ofQuery "-(b)" = .ok (.not (.leaf (.text "b" none))) ∧
      ∃ filter, Filter.ofQuery ("a OR -" ++ "\t " ++ "-(b)") = .ok filter ∧
        Filter.ofQuery ("a OR -" ++ " " ++ "AND" ++ "\n" ++ "-(b)") = .ok filter := by
  have one : Filter.ofQuery "a OR -" =
      .ok (.or (.leaf (.text "a" none)) (.leaf (.text "-" none))) := by cbv
  have other : Filter.ofQuery "-(b)" = .ok (.not (.leaf (.text "b" none))) := by cbv
  exact ⟨one, other, ofQuery_juxtaposed.1 one other (by simp) (by simp) (by decide) (by decide)
    (by decide)⟩

end CardSearch.Query
