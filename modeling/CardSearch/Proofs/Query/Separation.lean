import CardSearch.Proofs.Query.FaultPlaces
import CardSearch.Proofs.Query.Juxtaposition

/-!
Terms are apart. Once the conjunctions are written out no term stands next to another, and a reading
with a complete operand never meets a second one. So a query never fails because a term follows
another without a connective, and never because of a conjunction that nobody wrote.
-/

namespace CardSearch.Query

theorem unjoined_joinTerms (tokens : List Token) : Unjoined (Token.joinTerms tokens) := by
  fun_induction Token.joinTerms tokens with
  | case1 first second rest joins ih =>
    exact List.isChain_cons_cons.2 ⟨by simp [Token.startsTerm], ih.cons rfl⟩
  | case2 first second rest apart ih =>
    refine List.isChain_cons.2 ⟨?_, ih⟩
    rw [Token.head?_joinTerms]
    simpa using apart
  | case3 alone single =>
    rcases alone with _ | ⟨first, _ | ⟨second, rest⟩⟩
    · exact .nil
    · exact .singleton first
    · exact absurd rfl (single first second rest)

theorem Lexeme.mem_of_mem_joinTerms {lexemes : List Lexeme} {lexeme : Lexeme}
    (member : lexeme ∈ joinTerms lexemes) (written : lexeme.text ≠ "") : lexeme ∈ lexemes := by
  fun_induction joinTerms lexemes with
  | case1 first second rest joins ih =>
    rcases List.mem_cons.1 member with rfl | later
    · exact List.mem_cons_self
    rcases List.mem_cons.1 later with rfl | behind
    · exact absurd rfl written
    · exact List.mem_cons_of_mem _ (ih behind)
  | case2 first second rest apart ih =>
    rcases List.mem_cons.1 member with rfl | later
    · exact List.mem_cons_self
    · exact List.mem_cons_of_mem _ (ih later)
  | case3 => exact member

theorem Token.Spelled.of_connective {connective : Connective} {source after : List Char}
    (spelled : Token.Spelled (.connective connective) source after) :
    String.ofList source = connective.keyword := by
  cases spelled with
  | word _ means =>
    unfold ofWord at means
    split at means
    next same =>
      cases means
      exact same
    next same =>
      cases means
      exact same
    next => cases means
    next =>
      obtain ⟨leaf, -, other⟩ := Fallible.map_eq_ok_iff.1 means
      cases other

/-- Where the tokens in front complete an operand, a term ends there, and no other term follows. -/
theorem Unjoined.startsTerm_eq_false {front back : List Lexeme} {current : Lexeme}
    {progress : Progress} (unjoined : Unjoined ((front ++ current :: back).map Lexeme.token))
    (goes : Progress.begin.through? front = some progress) (reached : progress.phase.isReached) :
    current.token.startsTerm = false := by
  have ends := (Progress.isReached_of_through? goes).symm.trans reached
  rcases front.eq_nil_or_concat with rfl | ⟨before, last, rfl⟩
  · cases ends
  · have followed : last.token.endsTerm := by simpa using ends
    rw [List.map_append] at unjoined
    have apart := (List.isChain_append.1 unjoined).2.2 last.token (by simp) current.token (by simp)
    simpa [followed] using apart

namespace Progress.Rejects

variable {progress : Progress} {previous : String} {current : Lexeme} {error : SyntaxError}

theorem fault_ne_goesOn (rejects : progress.Rejects previous current error)
    (apart : progress.phase.isReached → current.token.startsTerm = false) :
    error.fault ≠ .groupGoesOn ∧ error.fault ≠ .queryGoesOn := by
  cases rejects with
  | queryGoesOn starts | groupGoesOn starts => exact absurd starts (by simp [apart rfl])
  | _ => simp

theorem eq_of_connective (rejects : progress.Rejects previous current error)
    {connective : Connective} (fault : error.fault = .unexpectedConnective connective) :
    current = ⟨.connective connective, error.position, error.fragment⟩ := by
  cases rejects with
  | unexpectedConnective =>
    cases fault
    rfl
  | _ => cases fault

end Progress.Rejects

/-- In the tokens of a query a term never follows a complete operand. So no error is about a missing
connective, and an error about a connective is about one that stands in the query. -/
theorem terms_apart_of_lexemes {query : String} {tokens : List Lexeme}
    (read : lexemes query = .ok tokens) :
    (∀ front current back progress, tokens = front ++ current :: back →
      Progress.begin.through? front = some progress → progress.phase.isReached →
        current.token.startsTerm = false) ∧
    ∀ error, Filter.ofQuery query = .error error →
      error.fault ≠ .groupGoesOn ∧ error.fault ≠ .queryGoesOn ∧
      ∀ connective, error.fault = .unexpectedConnective connective →
        error.fragment = connective.keyword ∧
        ∃ written, (Cursor.start query).lexemes = .ok written ∧
          ⟨.connective connective, error.position, error.fragment⟩ ∈ written := by
  obtain ⟨written, scanned, rfl⟩ := Fallible.map_eq_ok_iff.1 read
  have tiles := tiles_of_lexemes read
  have apart : ∀ front current back progress, Lexeme.joinTerms written = front ++ current :: back →
      Progress.begin.through? front = some progress → progress.phase.isReached →
        current.token.startsTerm = false := by
    intro front current back progress split goes reached
    have unjoined := unjoined_joinTerms (written.map Lexeme.token)
    rw [← Token.map_joinTerms, split] at unjoined
    exact unjoined.startsTerm_eq_false goes reached
  refine ⟨apart, fun error failed => ?_⟩
  rw [Filter.ofQuery, read] at failed
  obtain ⟨body, same, -⟩ := tiles.exists_body
  obtain ⟨front, current, back, progress, split, goes, -, rejects⟩ :=
    Filter.rejects_of_ofLexemes (by simp [same]) failed
  obtain ⟨notGroup, notQuery⟩ :=
    rejects.fault_ne_goesOn (apart front current back progress split goes)
  refine ⟨notGroup, notQuery, fun connective fault => ?_⟩
  obtain rfl := rejects.eq_of_connective fault
  have member : _ ∈ Lexeme.joinTerms written := split ▸ List.mem_append_right _ List.mem_cons_self
  have shown : error.fragment ≠ "" :=
    ((split ▸ tiles).written_of_rejects goes rejects).resolve_right (by simp)
  obtain ⟨-, after, -, -, spelled⟩ := tiles.exists_split member shown
  refine ⟨?_, written, scanned, Lexeme.mem_of_mem_joinTerms member shown⟩
  simpa using spelled.of_connective

theorem terms_apart_before_connective :
    let tokens : List Lexeme := [⟨.opening, 0, "("⟩, ⟨.leaf (.text "a" none), 1, "a"⟩,
      ⟨.connective .and, 3, ""⟩, ⟨.leaf (.phrase "b"), 3, "\"b\""⟩, ⟨.closing, 6, ")"⟩,
      ⟨.connective .and, 8, "AND"⟩, ⟨.connective .or, 12, "OR"⟩,
      ⟨.leaf (.text "c" none), 15, "c"⟩, ⟨.finish, 16, ""⟩]
    let error : SyntaxError := ⟨.unexpectedConnective .or, "OR", 12⟩
    lexemes "(a \"b\") AND OR c" = .ok tokens ∧ Filter.ofQuery "(a \"b\") AND OR c" = .error error ∧
      ∃ written, (Cursor.start "(a \"b\") AND OR c").lexemes = .ok written ∧
        ⟨.connective .or, 12, "OR"⟩ ∈ written := by
  intro tokens error
  have read : lexemes "(a \"b\") AND OR c" = .ok tokens := by cbv
  have failed : Filter.ofQuery "(a \"b\") AND OR c" = .error error := by cbv
  exact ⟨read, failed, (((terms_apart_of_lexemes read).2 error failed).2.2 .or rfl).2⟩

end CardSearch.Query
