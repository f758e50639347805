import CardSearch.Proofs.Query.Stepping

/-!
Which parentheses are open. An opening parenthesis is closed where, counted from behind it, more
parentheses have been closed than opened. The groups of a reading are the parentheses that no token
has closed, the innermost first.
-/

namespace CardSearch.Query.Parentheses

def IsClosed (tokens : List Token) : Prop :=
  ∃ inside outside, tokens = inside ++ .closing :: outside ∧
    inside.count .opening = inside.count .closing

/-- Tokens that close their own parentheses and no others. -/
structure Balanced (tokens : List Token) : Prop where
  even : tokens.count .opening = tokens.count .closing
  inside : ∀ front, front <+: tokens → front.count .closing ≤ front.count .opening
  closed : ∀ front back, tokens = front ++ .opening :: back → IsClosed back

theorem IsClosed.append {tokens : List Token} (closed : IsClosed tokens) (more : List Token) :
    IsClosed (tokens ++ more) := by
  obtain ⟨inside, outside, rfl, even⟩ := closed
  exact ⟨inside, outside ++ more, by simp, even⟩

theorem split_append {front last before after : List Token} {token : Token}
    (same : front ++ last = before ++ token :: after) :
    (∃ rest, front = before ++ token :: rest ∧ after = rest ++ last) ∨
      ∃ rest, before = front ++ rest ∧ last = rest ++ token :: after := by
  rcases List.append_eq_append_iff.1 same with ⟨rest, rfl, split⟩ | ⟨rest, rfl, split⟩
  · exact .inr ⟨rest, rfl, split⟩
  · cases rest with
    | nil => exact .inr ⟨[], by simp, split.symm⟩
    | cons first rest =>
      obtain ⟨rfl, rfl⟩ := List.cons.inj split
      exact .inl ⟨rest, rfl, rfl⟩

namespace Balanced

variable {tokens front last : List Token} {token : Token}

theorem nil : Balanced [] where
  even := rfl
  inside := by simp
  closed := by simp

theorem append (first : Balanced front) (second : Balanced last) : Balanced (front ++ last) where
  even := by simp [first.even, second.even]
  inside := by
    rintro part ⟨tail, same⟩
    rcases List.append_eq_append_iff.1 same with ⟨rest, rfl, -⟩ | ⟨rest, rfl, rfl⟩
    · exact first.inside part (List.prefix_append part rest)
    · have enough := second.inside rest (List.prefix_append rest tail)
      have even := first.even
      simp only [List.count_append]
      omega
  closed := by
    intro before after same
    rcases split_append same with ⟨rest, split, rfl⟩ | ⟨rest, -, split⟩
    · exact (first.closed before rest split).append last
    · exact second.closed rest after split

theorem single (notOpening : token ≠ .opening) (notClosing : token ≠ .closing) :
    Balanced [token] where
  even := by simp [notOpening, notClosing]
  inside := by
    intro part begins
    have none : .closing ∉ part := by
      intro member
      have same := List.mem_singleton.1 (begins.subset member)
      exact notClosing same.symm
    simp [List.count_eq_zero_of_not_mem none]
  closed := by
    intro before after same
    have member : .opening ∈ [token] := by simp [same]
    exact absurd (List.mem_singleton.1 member).symm notOpening

theorem enclosed (within : Balanced tokens) : Balanced (.opening :: (tokens ++ [.closing])) where
  even := by simp [within.even]
  inside := by
    intro part begins
    rcases List.prefix_cons_iff.1 begins with rfl | ⟨rest, rfl, behind⟩
    · simp
    · rcases List.prefix_concat_iff.1 behind with rfl | shorter
      · simp [within.even]
      · have enough := within.inside rest shorter
        have other : Token.opening ≠ .closing := by decide
        simp only [List.count_cons_self, List.count_cons_of_ne other]
        omega
  closed := by
    intro before after same
    cases before with
    | nil =>
      obtain ⟨-, rfl⟩ := List.cons.inj same
      exact ⟨tokens, [], rfl, within.even⟩
    | cons first before =>
      obtain ⟨-, same⟩ := List.cons.inj same
      rcases split_append same with ⟨rest, split, rfl⟩ | ⟨rest, -, split⟩
      · exact (within.closed before rest split).append _
      · have member : .opening ∈ [Token.closing] := by simp [split]
        cases List.mem_singleton.1 member

theorem not_isClosed (within : Balanced tokens) : ¬IsClosed tokens := by
  rintro ⟨inside, outside, rfl, even⟩
  have begins : inside ++ [.closing] <+: inside ++ .closing :: outside := ⟨outside, by simp⟩
  have enough := within.inside _ begins
  simp only [List.count_append, List.count_singleton_self, even,
    List.count_cons_of_ne (by decide : Token.closing ≠ .opening), List.count_nil] at enough
  omega

end Balanced

/-- Groups whose parentheses stand among the lexemes. Behind each of them and up to the next one all
other parentheses are closed. -/
inductive Opens : List Group → List Lexeme → Prop where
  | none {lexemes : List Lexeme} (even : Balanced (lexemes.map Lexeme.token)) : Opens [] lexemes
  | group {group : Group} {outer : List Group} {before inside : List Lexeme} {opening : Lexeme}
      (around : Opens outer before) (is : opening.token = .opening)
      (place : opening.position = group.position) (even : Balanced (inside.map Lexeme.token)) :
      Opens (group :: outer) (before ++ opening :: inside)

namespace Opens

variable {groups outer : List Group} {group : Group} {lexemes more : List Lexeme}
  {progress last : Progress}

theorem append (opens : Opens groups lexemes) (even : Balanced (more.map Lexeme.token)) :
    Opens groups (lexemes ++ more) := by
  cases opens with
  | none before =>
    apply Opens.none
    rw [List.map_append]
    exact before.append even
  | group around is place before =>
    rw [List.append_assoc, List.cons_append]
    apply Opens.group around is place
    rw [List.map_append]
    exact before.append even

theorem takes {lexeme : Lexeme} (opens : Opens progress.groups lexemes)
    (takes : progress.Takes lexeme last) : Opens last.groups (lexemes ++ [lexeme]) := by
  cases takes with
  | leaf | not | connective => exact opens.append (.single (by simp) (by simp))
  | opening => exact .group opens rfl rfl .nil
  | closing =>
    cases opens with
    | @group _ _ before inside opening around is place even =>
      rw [List.append_assoc]
      apply around.append
      simpa [is] using even.enclosed

theorem through? (opens : Opens progress.groups lexemes)
    (goes : progress.through? more = some last) : Opens last.groups (lexemes ++ more) := by
  induction more generalizing progress lexemes with
  | nil =>
    cases goes
    simpa using opens
  | cons lexeme more ih =>
    rw [Progress.through?_cons] at goes
    obtain ⟨next, step, rest⟩ := Option.bind_eq_some_iff.1 goes
    simpa using ih (opens.takes (Progress.takes_of_after? step)) rest

theorem of_through? (goes : Progress.begin.through? lexemes = some last) :
    Opens last.groups lexemes := by
  have nothing : Opens Progress.begin.groups [] := .none .nil
  exact nothing.through? goes

theorem exists_last (opens : Opens (group :: outer) lexemes) :
    ∃ before opening behind, lexemes = before ++ opening :: behind ∧ opening.token = .opening ∧
      opening.position = group.position ∧ ¬IsClosed (behind.map Lexeme.token) ∧
      ∀ between later rest, behind = between ++ later :: rest → later.token = .opening →
        IsClosed (rest.map Lexeme.token) := by
  cases opens with
  | @group _ _ before inside opening around is place even =>
    refine ⟨before, opening, inside, rfl, is, place, even.not_isClosed, ?_⟩
    rintro between later rest rfl other
    apply even.closed (between.map Lexeme.token)
    rw [List.map_append, List.map_cons, other]

end Opens

end CardSearch.Query.Parentheses
