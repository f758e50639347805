import CardSearch.Proofs.Query.Grammar
import CardSearch.Query.Meaning

/-!
A reading accepts exactly the token lists of the grammar. What has been read so far is described by
the expressions that are still unfinished; each token keeps the description true, and a derivation
tells where the reading gets to.
-/

namespace CardSearch.Query

open Grammar

namespace Progress

def after? (progress : Progress) (current : Lexeme) : Option Progress :=
  match progress.step current "" with
  | .on next _ => some next
  | .stop _ _ => none

def through? (progress : Progress) (lexemes : List Lexeme) : Option Progress :=
  lexemes.foldlM after? progress

@[simp]
theorem through?_nil (progress : Progress) : progress.through? [] = some progress :=
  rfl

@[simp]
theorem through?_cons (progress : Progress) (lexeme : Lexeme) (lexemes : List Lexeme) :
    progress.through? (lexeme :: lexemes) = (progress.after? lexeme).bind (·.through? lexemes) := by
  simp [through?, Option.bind_eq_bind]

@[simp]
theorem through?_append (progress : Progress) (front last : List Lexeme) :
    progress.through? (front ++ last) = (progress.through? front).bind (·.through? last) := by
  simp [through?, List.foldlM_append, Option.bind_eq_bind]

variable (groups : List Group) (awaiting : Awaiting) (reached : Reached) (group : Group)
  (position : Nat) (text : String)

@[simp]
theorem after?_leaf (leaf : Leaf) :
    after? ⟨groups, .operand awaiting⟩ ⟨.leaf leaf, position, text⟩ =
      some ⟨groups, .connective (awaiting.supply (.leaf leaf))⟩ :=
  rfl

@[simp]
theorem after?_not :
    after? ⟨groups, .operand awaiting⟩ ⟨.not, position, text⟩ =
      some ⟨groups, .operand awaiting.negated⟩ :=
  rfl

@[simp]
theorem after?_opening :
    after? ⟨groups, .operand awaiting⟩ ⟨.opening, position, text⟩ =
      some ⟨⟨position, awaiting⟩ :: groups, .operand .nothing⟩ :=
  rfl

@[simp]
theorem after?_connective (connective : Connective) :
    after? ⟨groups, .connective reached⟩ ⟨.connective connective, position, text⟩ =
      some ⟨groups, .operand (reached.extended connective)⟩ :=
  rfl

@[simp]
theorem after?_closing :
    after? ⟨group :: groups, .connective reached⟩ ⟨.closing, position, text⟩ =
      some ⟨groups, .connective (group.around.supply reached.filter)⟩ :=
  rfl

end Progress

theorem Filter.negate_not (count : Nat) (filter : Filter) :
    Filter.negate count (.not filter) = Filter.negate (count + 1) filter := by
  induction count with
  | zero => rfl
  | succ count ih => exact congrArg Filter.not ih

theorem Awaiting.supply_not (awaiting : Awaiting) (operand : Filter) :
    awaiting.negated.supply operand = awaiting.supply (.not operand) := by
  simp [supply, negated, Filter.negate_not]

namespace Grammar

def Level.Passes (level : Level) (lexemes : List Lexeme) (filter : Filter) : Prop :=
  match level with
  | .operand => ∀ groups awaiting,
    Progress.through? ⟨groups, .operand awaiting⟩ lexemes =
      some ⟨groups, .connective (awaiting.supply filter)⟩
  | .conjunction => ∀ groups disjuncts,
    Progress.through? ⟨groups, .operand ⟨disjuncts, none, 0⟩⟩ lexemes =
      some ⟨groups, .connective ⟨disjuncts, filter⟩⟩
  | .disjunction => ∃ reached : Reached, reached.filter = filter ∧ ∀ groups,
    Progress.through? ⟨groups, .operand .nothing⟩ lexemes = some ⟨groups, .connective reached⟩

theorem lexemes_around {lexemes : List Lexeme} (left : List Token) {right : List Token}
    {token : Token} (same : lexemes.map Lexeme.token = left ++ token :: right) :
    ∃ front position text last, lexemes = front ++ ⟨token, position, text⟩ :: last ∧
      front.map Lexeme.token = left ∧ last.map Lexeme.token = right := by
  obtain ⟨front, rest, rfl, rfl, after⟩ := List.map_eq_append_iff.1 same
  obtain ⟨⟨token, position, text⟩, last, rfl, rfl, rfl⟩ := List.map_eq_cons_iff.1 after
  exact ⟨front, position, text, last, rfl, rfl, rfl⟩

theorem passes_of_derives {level : Level} {tokens : List Token} {filter : Filter}
    (derived : Derives level tokens filter) (lexemes : List Lexeme)
    (same : lexemes.map Lexeme.token = tokens) : level.Passes lexemes filter := by
  -- The lexemes are split where the derivation splits their tokens.
  induction derived generalizing lexemes with
  | leaf leaf =>
    obtain ⟨front, position, text, last, rfl, none, rest⟩ := lexemes_around [] same
    obtain rfl := List.map_eq_nil_iff.1 none
    obtain rfl := List.map_eq_nil_iff.1 rest
    intro groups awaiting
    simp
  | group inner ih =>
    obtain ⟨front, position, text, last, rfl, none, rest⟩ := lexemes_around [] same
    obtain rfl := List.map_eq_nil_iff.1 none
    obtain ⟨tokens, place, mark, after, rfl, within, closed⟩ := lexemes_around _ rest
    obtain rfl := List.map_eq_nil_iff.1 closed
    obtain ⟨reached, rfl, passes⟩ := ih tokens within
    intro groups awaiting
    simp [passes]
  | not operand ih =>
    obtain ⟨front, position, text, last, rfl, none, rest⟩ := lexemes_around [] same
    obtain rfl := List.map_eq_nil_iff.1 none
    have passes := ih last rest
    intro groups awaiting
    simp [passes groups awaiting.negated, Awaiting.supply_not]
  | operand alone ih =>
    intro groups disjuncts
    exact ih lexemes same groups ⟨disjuncts, none, 0⟩
  | and front last ihFront ihLast =>
    obtain ⟨left, position, text, right, rfl, before, after⟩ := lexemes_around _ same
    have passesFront := ihFront left before
    have passesLast := ihLast right after
    intro groups disjuncts
    simp [passesFront groups disjuncts, Reached.extended, passesLast groups _, Awaiting.supply,
      Filter.joinedBy, Filter.negate]
  | conjunction alone ih =>
    exact ⟨⟨none, _⟩, rfl, fun groups => ih lexemes same groups none⟩
  | or front last ihFront ihLast =>
    obtain ⟨left, position, text, right, rfl, before, after⟩ := lexemes_around _ same
    obtain ⟨reached, rfl, passesFront⟩ := ihFront left before
    have passesLast := ihLast right after
    refine ⟨⟨some reached.filter, _⟩, rfl, fun groups => ?_⟩
    simp [passesFront, Reached.extended, passesLast groups _]

end Grammar

/-- The tokens in front of an operand that is still to come. -/
def Awaiting.Follows (awaiting : Awaiting) (tokens : List Token) : Prop :=
  ∃ front middle, Leads .disjunction .or awaiting.disjuncts front ∧
    Leads .conjunction .and awaiting.conjuncts middle ∧
    tokens = front ++ (middle ++ List.replicate awaiting.negations .not)

def Reached.Follows (reached : Reached) (tokens : List Token) : Prop :=
  ∃ front last, Leads .disjunction .or reached.disjuncts front ∧
    Derives .conjunction last reached.conjuncts ∧ tokens = front ++ last

/-- The tokens up to the innermost open parenthesis. -/
inductive Group.Follow : List Group → List Token → Prop where
  | none : Follow [] []
  | inner {group : Group} {outer : List Group} {before tokens : List Token}
      (groups : Follow outer before) (around : group.around.Follows tokens) :
      Follow (group :: outer) (before ++ (tokens ++ [.opening]))

def Phase.Follows : Phase → List Token → Prop
  | .operand awaiting, tokens => awaiting.Follows tokens
  | .connective reached, tokens => reached.Follows tokens

def Progress.Follows (progress : Progress) (tokens : List Token) : Prop :=
  ∃ before inner, Group.Follow progress.groups before ∧ progress.phase.Follows inner ∧
    tokens = before ++ inner

theorem Awaiting.nothing_follows : Awaiting.nothing.Follows [] :=
  ⟨[], [], .nothing, .nothing, rfl⟩

theorem Awaiting.negated_follows {awaiting : Awaiting} {tokens : List Token}
    (follows : awaiting.Follows tokens) : awaiting.negated.Follows (tokens ++ [.not]) := by
  obtain ⟨front, middle, disjuncts, conjuncts, rfl⟩ := follows
  exact ⟨front, middle, disjuncts, conjuncts, by simp [negated, List.replicate_succ']⟩

theorem Awaiting.supply_follows {awaiting : Awaiting} {tokens operand : List Token}
    {filter : Filter} (follows : awaiting.Follows tokens)
    (derived : Derives .operand operand filter) :
    (awaiting.supply filter).Follows (tokens ++ operand) := by
  obtain ⟨front, middle, disjuncts, conjuncts, rfl⟩ := follows
  have negated := derives_negate derived awaiting.negations
  exact ⟨front, _, disjuncts, derives_conjunction_of_leads conjuncts negated, by simp⟩

theorem Reached.derives_filter {reached : Reached} {tokens : List Token}
    (follows : reached.Follows tokens) : Derives .disjunction tokens reached.filter := by
  obtain ⟨front, last, disjuncts, derived, rfl⟩ := follows
  exact derives_disjunction_of_leads disjuncts derived

theorem Reached.extended_follows {reached : Reached} {tokens : List Token}
    (follows : reached.Follows tokens) (connective : Connective) :
    (reached.extended connective).Follows (tokens ++ [.connective connective]) := by
  cases connective with
  | and =>
    obtain ⟨front, last, disjuncts, derived, rfl⟩ := follows
    exact ⟨front, _, disjuncts, .operands derived, by simp [extended]⟩
  | or => exact ⟨_, [], .operands (derives_filter follows), .nothing, by simp [extended]⟩

namespace Progress

theorem begin_follows : begin.Follows [] :=
  ⟨[], [], .none, Awaiting.nothing_follows, rfl⟩

/-- A token that keeps the reading going keeps the description of what has been read. -/
theorem after?_follows {progress next : Progress} {tokens : List Token} {lexeme : Lexeme}
    (follows : progress.Follows tokens) (goes : progress.after? lexeme = some next) :
    next.Follows (tokens ++ [lexeme.token]) := by
  obtain ⟨groups, phase⟩ := progress
  obtain ⟨token, position, text⟩ := lexeme
  obtain ⟨before, inner, outer, within, rfl⟩ := follows
  cases phase with
  | operand awaiting =>
    cases token with
    | leaf leaf =>
      cases goes
      exact ⟨before, _, outer, Awaiting.supply_follows within (.leaf leaf), by simp⟩
    | not =>
      cases goes
      exact ⟨before, _, outer, Awaiting.negated_follows within, by simp⟩
    | opening =>
      cases goes
      exact ⟨_, [], .inner outer within, Awaiting.nothing_follows, by simp⟩
    | connective | closing | finish => cases goes
  | connective reached =>
    cases token with
    | connective connective =>
      cases goes
      exact ⟨before, _, outer, Reached.extended_follows within connective, by simp⟩
    | closing =>
      cases outer with
      | none => cases goes
      | inner groups around =>
        -- The expression inside becomes an operand of the one around it.
        cases goes
        have derived := Derives.group (Reached.derives_filter within)
        exact ⟨_, _, groups, Awaiting.supply_follows around derived, by simp⟩
    | leaf | not | opening => cases groups <;> cases goes
    | finish => cases goes

theorem through?_follows {progress last : Progress} {tokens : List Token} {lexemes : List Lexeme}
    (follows : progress.Follows tokens) (goes : progress.through? lexemes = some last) :
    last.Follows (tokens ++ lexemes.map Lexeme.token) := by
  induction lexemes generalizing progress tokens with
  | nil =>
    cases goes
    simpa using follows
  | cons lexeme lexemes ih =>
    rw [through?_cons] at goes
    obtain ⟨next, step, rest⟩ := Option.bind_eq_some_iff.1 goes
    simpa using ih (after?_follows follows step) rest

theorem after?_eq (progress : Progress) (lexeme : Lexeme) (previous : String) :
    progress.after? lexeme = match progress.step lexeme previous with
      | .on next _ => some next
      | .stop _ _ => none := by
  obtain ⟨groups, phase⟩ := progress
  obtain ⟨token, position, text⟩ := lexeme
  cases phase <;> cases token <;> cases groups <;> rfl

theorem ne_ok_of_step_eq_stop {progress : Progress} {lexeme : Lexeme} {previous : String}
    {result : Except SyntaxError Filter} {stays : Token} (inside : lexeme.token ≠ .finish)
    (stop : progress.step lexeme previous = .stop result stays) (filter : Filter) :
    result ≠ .ok filter := by
  obtain ⟨groups, phase⟩ := progress
  obtain ⟨token, position, text⟩ := lexeme
  rintro rfl
  cases phase with
  | operand => cases token <;> simp_all [step, stepOperand]
  | connective => cases token <;> cases groups <;> simp_all [step, stepConnective]

end Progress

theorem Reading.run_finish (progress : Progress) {finish : Lexeme} (last : finish.token = .finish)
    (previous : String) (filter : Filter) :
    (run progress finish previous []).1 = .ok filter ↔
      ∃ reached, progress = ⟨[], .connective reached⟩ ∧ reached.filter = filter := by
  obtain ⟨groups, phase⟩ := progress
  obtain ⟨token, position, text⟩ := finish
  obtain rfl : token = .finish := last
  cases phase with
  | operand => simp [run, Progress.step, Progress.stepOperand]
  | connective reached =>
    cases groups <;> simp [run, Progress.step, Progress.stepConnective, Progress.conclude]

/-- A reading gets to the last token of a list, or it fails in front of it. -/
theorem Reading.run_concat (progress : Progress) {front rest : List Lexeme} {first last : Lexeme}
    (inside : ∀ lexeme ∈ front, lexeme.token ≠ .finish) (whole : front ++ [last] = first :: rest)
    (previous : String) :
    (∃ behind before, progress.through? front = some behind ∧
      run progress first previous rest = run behind last before []) ∨
    (progress.through? front = none ∧
      ∀ filter, (run progress first previous rest).1 ≠ .ok filter) := by
  induction front generalizing progress first rest previous with
  | nil =>
    obtain ⟨rfl, rfl⟩ := List.cons.inj whole
    exact .inl ⟨progress, previous, rfl, rfl⟩
  | cons lexeme front ih =>
    rw [List.cons_append] at whole
    obtain ⟨rfl, rfl⟩ := List.cons.inj whole
    obtain ⟨here, later⟩ := List.forall_mem_cons.1 inside
    obtain ⟨second, rest, more⟩ : ∃ second rest, front ++ [last] = second :: rest :=
      List.exists_cons_of_ne_nil (by simp)
    rw [more, Progress.through?_cons, Progress.after?_eq progress lexeme previous]
    unfold run
    cases step : progress.step lexeme previous with
    | on next stays => exact ih next later more lexeme.text
    | stop result stays => exact .inr ⟨rfl, Progress.ne_ok_of_step_eq_stop here step⟩

theorem Reading.run_eq_ok_iff (progress : Progress) {lexemes rest : List Lexeme}
    {first finish : Lexeme} (last : finish.token = .finish)
    (inside : ∀ lexeme ∈ lexemes, lexeme.token ≠ .finish)
    (whole : lexemes ++ [finish] = first :: rest) (previous : String) (filter : Filter) :
    (run progress first previous rest).1 = .ok filter ↔
      ∃ reached, progress.through? lexemes = some ⟨[], .connective reached⟩ ∧
        reached.filter = filter := by
  rcases run_concat progress inside whole previous with
    ⟨behind, before, goes, same⟩ | ⟨stops, failed⟩
  · simp [same, goes, run_finish behind last before filter]
  · simp [stops, failed filter]

theorem Progress.through?_begin_iff (lexemes : List Lexeme) (filter : Filter) :
    (∃ reached : Reached, begin.through? lexemes = some ⟨[], .connective reached⟩ ∧
      reached.filter = filter) ↔ Derives .disjunction (lexemes.map Lexeme.token) filter := by
  constructor
  · rintro ⟨reached, goes, rfl⟩
    obtain ⟨before, inner, outer, within, same⟩ := through?_follows begin_follows goes
    cases outer
    rw [List.nil_append, List.nil_append] at same
    rw [same]
    exact Reached.derives_filter within
  · intro derived
    obtain ⟨reached, same, passes⟩ := passes_of_derives derived lexemes rfl
    exact ⟨reached, passes [], same⟩

theorem Filter.ofLexemes_cons {first : Lexeme} (inside : first.token ≠ .finish)
    (rest : List Lexeme) :
    ofLexemes (first :: rest) = (Reading.run .begin first "" rest).1 := by
  simp only [ofLexemes, Reading.ofLexemes, Reading.next]

theorem Filter.ofLexemes_append_finish {lexemes : List Lexeme} {finish : Lexeme}
    (last : finish.token = .finish) (inside : ∀ lexeme ∈ lexemes, lexeme.token ≠ .finish)
    (filter : Filter) :
    ofLexemes (lexemes ++ [finish]) = .ok filter ↔
      lexemes = [] ∧ filter = .all ∨ Derives .disjunction (lexemes.map Lexeme.token) filter := by
  cases lexemes with
  | nil =>
    have underivable : ¬Derives .disjunction [] filter := fun derived => derives_ne_nil derived rfl
    simp [ofLexemes, Reading.ofLexemes, Reading.next, last, underivable, eq_comm]
  | cons first rest =>
    have here := inside first List.mem_cons_self
    rw [List.cons_append, ofLexemes_cons here,
      Reading.run_eq_ok_iff .begin last inside List.cons_append, Progress.through?_begin_iff]
    simp

/-- A query means what the grammar derives from its tokens: without tokens it means every card, and
otherwise the one filter that is derived, or it is an error. -/
theorem Filter.ofLexemes_eq_ok_iff_derives {lexemes : List Lexeme} {finish : Lexeme}
    (last : finish.token = .finish) (inside : ∀ lexeme ∈ lexemes, lexeme.token ≠ .finish) :
    (∀ filter, ofLexemes (lexemes ++ [finish]) = .ok filter ↔
      lexemes = [] ∧ filter = .all ∨ Derives .disjunction (lexemes.map Lexeme.token) filter) ∧
    (∀ first second, Derives .disjunction (lexemes.map Lexeme.token) first →
      Derives .disjunction (lexemes.map Lexeme.token) second → first = second) ∧
    (lexemes ≠ [] → (∀ filter, ¬Derives .disjunction (lexemes.map Lexeme.token) filter) →
      ∃ error, ofLexemes (lexemes ++ [finish]) = .error error) := by
  have accepts := ofLexemes_append_finish last inside
  refine ⟨accepts, ?_, ?_⟩
  · intro first second one other
    have same := ((accepts first).2 (.inr one)).symm.trans ((accepts second).2 (.inr other))
    exact Except.ok.inj same
  · intro some outside
    cases result : ofLexemes (lexemes ++ [finish]) with
    | error error => exact ⟨error, rfl⟩
    | ok filter =>
      rcases (accepts filter).1 result with ⟨none, _⟩ | derived
      · exact absurd none some
      · exact absurd derived (outside filter)

theorem Filter.ofLexemes_not_or_group :
    let tokens : List Token := [.not, .leaf (.flag 1), .connective .or, .opening, .leaf (.flag 2),
      .connective .and, .leaf (.flag 3), .closing]
    let lexemes := tokens.map (Lexeme.mk · 0 "")
    let finish : Lexeme := ⟨.finish, 0, ""⟩
    finish.token = .finish ∧ (∀ lexeme ∈ lexemes, lexeme.token ≠ .finish) ∧
      ofLexemes (lexemes ++ [finish]) =
        .ok (.or (.not (.leaf (.flag 1))) (.and (.leaf (.flag 2)) (.leaf (.flag 3)))) := by
  intro tokens lexemes finish
  have inside : ∀ lexeme ∈ lexemes, lexeme.token ≠ .finish := by decide
  have negation : Derives .disjunction [.not, .leaf (.flag 1)] (.not (.leaf (.flag 1))) :=
    .conjunction (.operand (.not (.leaf _)))
  have flags : Derives .conjunction [.leaf (.flag 2), .connective .and, .leaf (.flag 3)]
      (.and (.leaf (.flag 2)) (.leaf (.flag 3))) := .and (.operand (.leaf _)) (.leaf _)
  have derived := Derives.or negation (.operand (.group (.conjunction flags)))
  exact ⟨rfl, inside, ((ofLexemes_eq_ok_iff_derives rfl inside).1 _).2 (.inr derived)⟩

end CardSearch.Query
