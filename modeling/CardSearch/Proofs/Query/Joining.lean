import CardSearch.Proofs.Query.Separation

/-!
The conjunctions of any list of tokens, also of one that no query has. Exactly one list keeps all
tokens in their order, has a conjunction wherever the end of a term meets the beginning of another,
and has nothing else: the one that is written out. No two terms meet in it, so writing it out again
changes nothing.
-/

namespace CardSearch.Query.Lexeme

/-- Whether two neighbours are terms with their conjunction left unwritten. -/
def Meets (left right : Lexeme) : Prop :=
  left.token.endsTerm ∧ right.token.startsTerm

/-- What stands at a spot once the conjunctions are written out: a token of the list, or the
conjunction behind a token that meets the next one. `place` tells where the tokens are. -/
def Taken (lexemes : List Lexeme) (place : Nat → Nat) (spot : Nat) : Prop :=
  ∃ index < lexemes.length, spot = place index ∨
    spot = place index + 1 ∧ ∃ left right, lexemes[index]? = some left ∧
      lexemes[index + 1]? = some right ∧ left.Meets right

structure WritesOut (lexemes joined : List Lexeme) (place : Nat → Nat) : Prop where
  begins : place 0 = 0
  kept : ∀ index lexeme, lexemes[index]? = some lexeme → joined[place index]? = some lexeme
  meeting : ∀ index left right, lexemes[index]? = some left → lexemes[index + 1]? = some right →
    left.Meets right → place (index + 1) = place index + 2 ∧
      joined[place index + 1]? = some ⟨.connective .and, right.position, ""⟩
  apart : ∀ index left right, lexemes[index]? = some left → lexemes[index + 1]? = some right →
    ¬left.Meets right → place (index + 1) = place index + 1
  nothingElse : ∀ spot < joined.length, Taken lexemes place spot

def between (left right : Lexeme) : List Lexeme :=
  if left.token.endsTerm && right.token.startsTerm then [right.conjunctionBefore] else []

theorem between_of_meets {left right : Lexeme} (meets : left.Meets right) :
    between left right = [right.conjunctionBefore] := by
  simp [between, meets.1, meets.2]

theorem between_of_not_meets {left right : Lexeme} (apart : ¬left.Meets right) :
    between left right = [] := by
  rw [between, if_neg]
  rwa [Bool.and_eq_true]

theorem joinTerms_cons_cons (first second : Lexeme) (rest : List Lexeme) :
    joinTerms (first :: second :: rest) =
      first :: (between first second ++ joinTerms (second :: rest)) := by
  rw [joinTerms, between]
  split
  · rfl
  · rfl

namespace WritesOut

variable {lexemes joined other : List Lexeme} {place spot : Nat → Nat}

theorem nil : WritesOut [] [] id := by
  constructor <;> simp

theorem single (alone : Lexeme) : WritesOut [alone] [alone] id := by
  constructor
  case begins => rfl
  case kept => simp
  case meeting | apart => simp
  case nothingElse =>
    intro spot inside
    exact ⟨spot, inside, .inl rfl⟩

def behind (written : Nat) (place : Nat → Nat) : Nat → Nat
  | 0 => 0
  | index + 1 => place index + written + 1

theorem behind_one (written : Nat) (begins : place 0 = 0) :
    behind written place 1 = written + 1 := by
  rw [behind, begins, Nat.zero_add]

theorem behind_succ_succ {written index more : Nat}
    (further : place (index + 1) = place index + more) :
    behind written place (index + 2) = behind written place (index + 1) + more := by
  rw [behind, behind, further]
  omega

theorem getElem?_behind (first : Lexeme) (gap joined : List Lexeme) (index : Nat) :
    (first :: (gap ++ joined))[index + gap.length + 1]? = joined[index]? := by
  rw [List.getElem?_cons_succ, List.getElem?_append_right (Nat.le_add_left _ _),
    Nat.add_sub_cancel]

theorem taken_cons {first : Lexeme} {spot : Nat} (taken : Taken lexemes place spot)
    (written : Nat) : Taken (first :: lexemes) (behind written place) (spot + written + 1) := by
  obtain ⟨index, bound, found⟩ := taken
  refine ⟨index + 1, Nat.succ_lt_succ bound, ?_⟩
  rcases found with rfl | ⟨rfl, meeting⟩
  · exact .inl rfl
  · right
    refine ⟨?_, meeting⟩
    rw [behind]
    omega

theorem cons {first second : Lexeme} {rest : List Lexeme}
    (more : WritesOut (second :: rest) joined place) :
    WritesOut (first :: second :: rest) (first :: (between first second ++ joined))
      (behind (between first second).length place) := by
  -- Index zero is about the two tokens in front, the others are those of the rest, moved on.
  constructor
  case begins => rfl
  case kept =>
    rintro (_ | index) lexeme here
    · exact here
    · rw [behind, getElem?_behind]
      exact more.kept index lexeme here
  case meeting =>
    rintro (_ | index) left right here there meets
    · obtain rfl : first = left := Option.some.inj here
      obtain rfl : second = right := Option.some.inj there
      rw [between_of_meets meets]
      exact ⟨behind_one 1 more.begins, rfl⟩
    · obtain ⟨further, conjunction⟩ := more.meeting index left right here there meets
      refine ⟨behind_succ_succ further, ?_⟩
      have next : behind (between first second).length place (index + 1) + 1 =
          place index + 1 + (between first second).length + 1 := by
        rw [behind]
        omega
      rw [next, getElem?_behind, conjunction]
  case apart =>
    rintro (_ | index) left right here there apart
    · obtain rfl : first = left := Option.some.inj here
      obtain rfl : second = right := Option.some.inj there
      rw [between_of_not_meets apart]
      exact behind_one 0 more.begins
    · exact behind_succ_succ (more.apart index left right here there apart)
  case nothingElse =>
    rintro (_ | spot) inside
    · exact ⟨0, Nat.zero_lt_succ _, .inl rfl⟩
    by_cases within : spot < (between first second).length
    · by_cases meets : first.Meets second
      · rw [between_of_meets meets, List.length_singleton, Nat.lt_one_iff] at within
        subst within
        exact ⟨0, Nat.zero_lt_succ _, .inr ⟨rfl, first, second, rfl, rfl, meets⟩⟩
      · rw [between_of_not_meets meets] at within
        exact absurd within (Nat.not_lt_zero _)
    · obtain ⟨later, rfl⟩ := Nat.exists_eq_add_of_le' (Nat.not_lt.1 within)
      rw [List.length_cons, List.length_append] at inside
      exact taken_cons (more.nothingElse later (by omega)) _

theorem exists_place (lexemes : List Lexeme) :
    ∃ place, WritesOut lexemes (joinTerms lexemes) place := by
  induction lexemes with
  | nil => exact ⟨id, nil⟩
  | cons first rest ih =>
    cases rest with
    | nil => exact ⟨id, single first⟩
    | cons second rest =>
      obtain ⟨place, more⟩ := ih
      rw [joinTerms_cons_cons]
      exact ⟨_, more.cons⟩

theorem place_eq (one : WritesOut lexemes joined place) (two : WritesOut lexemes other spot)
    (index : Nat) (inside : index < lexemes.length) : place index = spot index := by
  induction index with
  | zero => rw [one.begins, two.begins]
  | succ index ih =>
    have before : index < lexemes.length := Nat.lt_of_succ_lt inside
    have here := List.getElem?_eq_getElem before
    have there := List.getElem?_eq_getElem inside
    have same := ih before
    by_cases meets : lexemes[index].Meets lexemes[index + 1]
    · rw [(one.meeting index _ _ here there meets).1, (two.meeting index _ _ here there meets).1,
        same]
    · rw [one.apart index _ _ here there meets, two.apart index _ _ here there meets, same]

theorem getElem?_of (one : WritesOut lexemes joined place) (two : WritesOut lexemes other spot)
    {index : Nat} {lexeme : Lexeme} (here : joined[index]? = some lexeme) :
    other[index]? = some lexeme := by
  obtain ⟨inside, -⟩ := List.getElem?_eq_some_iff.1 here
  -- What stands there is fixed by the list it was made from, and so is its place.
  obtain ⟨origin, bound, found⟩ := one.nothingElse index inside
  have same := one.place_eq two origin bound
  rcases found with rfl | ⟨rfl, left, right, first, second, meets⟩
  · have known := List.getElem?_eq_getElem bound
    rw [one.kept origin _ known] at here
    rw [same, two.kept origin _ known, here]
  · rw [(one.meeting origin left right first second meets).2] at here
    rw [same, (two.meeting origin left right first second meets).2, here]

theorem unique (one : WritesOut lexemes joined place) (two : WritesOut lexemes other spot) :
    joined = other := by
  apply List.ext_getElem?
  intro index
  apply Option.ext
  intro lexeme
  exact ⟨one.getElem?_of two, two.getElem?_of one⟩

end WritesOut

theorem sublist_joinTerms (lexemes : List Lexeme) : lexemes.Sublist (joinTerms lexemes) := by
  fun_induction joinTerms lexemes with
  | case1 first second rest joins ih => exact (ih.cons _).cons_cons first
  | case2 first second rest apart ih => exact ih.cons_cons first
  | case3 alone => exact List.Sublist.refl alone

theorem isChain_iff_unjoined {lexemes : List Lexeme} :
    lexemes.IsChain (fun left right => ¬left.Meets right) ↔ Unjoined (lexemes.map Lexeme.token) := by
  rw [Unjoined, List.isChain_map]
  simp only [Meets, Bool.and_eq_true]

/-- No two terms meet once the conjunctions are written out. -/
theorem isChain_joinTerms (lexemes : List Lexeme) :
    (joinTerms lexemes).IsChain fun left right => ¬left.Meets right := by
  rw [isChain_iff_unjoined, Token.map_joinTerms]
  exact unjoined_joinTerms _

/-- Where no two terms meet nothing is added. -/
theorem joinTerms_of_isChain {lexemes : List Lexeme}
    (apart : lexemes.IsChain fun left right => ¬left.Meets right) : joinTerms lexemes = lexemes := by
  have tokens := Token.joinTerms_of_unjoined (isChain_iff_unjoined.1 apart)
  have lengths := congrArg List.length tokens
  rw [← Token.map_joinTerms, List.length_map, List.length_map] at lengths
  exact ((sublist_joinTerms lexemes).eq_of_length lengths.symm).symm

/-- Of all lists of tokens exactly one writes out the conjunctions of another and adds nothing else.
No two terms meet in it, and a second pass leaves it as it is. -/
theorem joinTerms_exact_and_idempotent (lexemes : List Lexeme) :
    (∀ joined, (∃ place, WritesOut lexemes joined place) ↔ joined = joinTerms lexemes) ∧
      lexemes.Sublist (joinTerms lexemes) ∧
      (joinTerms lexemes).IsChain (fun left right => ¬left.Meets right) ∧
      joinTerms (joinTerms lexemes) = joinTerms lexemes := by
  obtain ⟨place, writesOut⟩ := WritesOut.exists_place lexemes
  have apart := isChain_joinTerms lexemes
  refine ⟨fun joined => ⟨?_, ?_⟩, sublist_joinTerms lexemes, apart, joinTerms_of_isChain apart⟩
  · rintro ⟨other, also⟩
    exact also.unique writesOut
  · rintro rfl
    exact ⟨place, writesOut⟩

/-- An end in the middle keeps terms apart, and a written conjunction counts without its text. -/
example :
    let a : Lexeme := ⟨.leaf (.text "a" none), 0, "a"⟩
    let finish : Lexeme := ⟨.finish, 1, ""⟩
    let closing : Lexeme := ⟨.closing, 2, ")"⟩
    let opening : Lexeme := ⟨.opening, 3, "("⟩
    let conjunction : Lexeme := ⟨.connective .and, 4, ""⟩
    joinTerms [a, finish, a, conjunction, a, closing, opening] =
      [a, finish, a, conjunction, a, closing, ⟨.connective .and, 3, ""⟩, opening] := rfl

end CardSearch.Query.Lexeme
