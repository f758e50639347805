import CardSearch.Proofs.Sql.Expression

/-!
A text is read in one way. The depth of parentheses tells which connectives split a text, and no
reading of a part has a connective of a looser level outside of parentheses.
-/

namespace CardSearch.Sql.Expression

variable {bars other : Symbol → Bool}

@[simp]
theorem depthThrough?_nil (depth : Nat) : depthThrough? bars depth [] = some depth :=
  rfl

@[simp]
theorem depthThrough?_cons (depth : Nat) (symbol : Symbol) (symbols : List Symbol) :
    depthThrough? bars depth (symbol :: symbols) =
      (depthAfter? bars depth symbol).bind (depthThrough? bars · symbols) := by
  simp [depthThrough?, Option.bind_eq_bind]

@[simp]
theorem depthThrough?_append (depth : Nat) (front last : List Symbol) :
    depthThrough? bars depth (front ++ last) =
      (depthThrough? bars depth front).bind (depthThrough? bars · last) := by
  simp [depthThrough?, List.foldlM_append, Option.bind_eq_bind]

theorem depthAfter?_unique {depth one another : Nat} {symbol : Symbol}
    (here : depthAfter? bars depth symbol = some one)
    (there : depthAfter? other depth symbol = some another) : one = another := by
  cases symbol <;> simp_all [depthAfter?]

theorem depthThrough?_unique {depth one another : Nat} {symbols : List Symbol}
    (here : depthThrough? bars depth symbols = some one)
    (there : depthThrough? other depth symbols = some another) : one = another := by
  induction symbols generalizing depth with
  | nil => exact (Option.some.inj here).symm.trans (Option.some.inj there)
  | cons symbol symbols ih =>
    rw [depthThrough?_cons] at here there
    obtain ⟨next, first, rest⟩ := Option.bind_eq_some_iff.1 here
    obtain ⟨after, second, more⟩ := Option.bind_eq_some_iff.1 there
    obtain rfl := depthAfter?_unique first second
    exact ih rest more

theorem depthAfter?_weaken (fewer : ∀ symbol, other symbol → bars symbol) {depth next : Nat}
    {symbol : Symbol} (goes : depthAfter? bars depth symbol = some next) :
    depthAfter? other depth symbol = some next := by
  have here := fewer symbol
  cases symbol with
  | opening | closing | unclosed => exact goes
  | _ =>
    simp only [depthAfter?] at goes ⊢
    split at goes
    · contradiction
    next allowed =>
      have passes : ¬(depth = 0 ∧ other _) := fun barred => allowed ⟨barred.1, here barred.2⟩
      rw [if_neg passes]
      exact goes

theorem depthThrough?_weaken (fewer : ∀ symbol, other symbol → bars symbol) {depth last : Nat}
    {symbols : List Symbol} (goes : depthThrough? bars depth symbols = some last) :
    depthThrough? other depth symbols = some last := by
  induction symbols generalizing depth with
  | nil => exact goes
  | cons symbol symbols ih =>
    rw [depthThrough?_cons] at goes ⊢
    obtain ⟨next, first, rest⟩ := Option.bind_eq_some_iff.1 goes
    rw [depthAfter?_weaken fewer first]
    exact ih rest

theorem Balanced.weaken {symbols : List Symbol} (balanced : Balanced bars symbols)
    (fewer : ∀ symbol, other symbol → bars symbol) : Balanced other symbols :=
  depthThrough?_weaken fewer balanced

theorem depthAfter?_within {depth next : Nat} {symbol : Symbol}
    (goes : depthAfter? bars depth symbol = some next) :
    depthAfter? other (depth + 1) symbol = some (next + 1) := by
  cases symbol with
  | closing =>
    by_cases outside : depth = 0
    · simp [depthAfter?, outside] at goes
    · simp only [depthAfter?, if_neg outside, Option.some.injEq] at goes
      simp only [depthAfter?, Nat.succ_ne_zero, if_false, Option.some.injEq]
      omega
  | _ => simp_all [depthAfter?]

theorem depthThrough?_within {depth last : Nat} {symbols : List Symbol}
    (goes : depthThrough? bars depth symbols = some last) :
    depthThrough? other (depth + 1) symbols = some (last + 1) := by
  induction symbols generalizing depth with
  | nil => simp_all
  | cons symbol symbols ih =>
    rw [depthThrough?_cons] at goes ⊢
    obtain ⟨next, first, rest⟩ := Option.bind_eq_some_iff.1 goes
    rw [depthAfter?_within first]
    exact ih rest

theorem balanced_enclosed {text : List Symbol} (inner : Balanced bars text)
    (before after : List Symbol) (opens : depthThrough? other 0 before = some 1)
    (closes : depthThrough? other 1 after = some 0) :
    Balanced other (before ++ (text ++ after)) := by
  have within : depthThrough? other 1 text = some 1 := depthThrough?_within inner
  simp [Balanced, opens, within, closes]

theorem balanced_around {left right : List Symbol} (front : Balanced bars left)
    (last : Balanced bars right) {symbol : Symbol} (stays : depthAfter? bars 0 symbol = some 0) :
    Balanced bars (left ++ symbol :: right) := by
  unfold Balanced at *
  simp [front, stays, last]

theorem Level.bars_operand {symbol : Symbol} (barred : Level.negation.bars symbol) :
    Level.operand.bars symbol := by
  simp only [bars, decide_eq_true_eq] at *
  grind

theorem Level.bars_negation {symbol : Symbol} (barred : Level.conjunction.bars symbol) :
    Level.negation.bars symbol := by
  simp only [bars, decide_eq_true_eq] at *
  grind

theorem Level.bars_conjunction {symbol : Symbol} (barred : Level.disjunction.bars symbol) :
    Level.conjunction.bars symbol := by
  simp only [bars, decide_eq_true_eq] at *
  grind

variable {IsCondition : List Symbol → Prop}

/-- The parentheses of a reading are closed, and its looser connectives stand inside of them. -/
theorem balanced_of_reads {level : Level} {text : List Symbol} {expression : Expression}
    (reads : Reads IsCondition level text expression) : Balanced level.bars text := by
  induction reads with
  | condition _ single => exact single
  | truth => rfl
  | group _ ih => exact balanced_enclosed ih [.opening] [.closing] rfl rfl
  | known _ ih =>
    exact balanced_enclosed ih [.coalesce, .opening] [.comma, .truth false, .closing] rfl rfl
  | operand _ ih => exact ih.weaken fun _ => Level.bars_operand
  | not _ ih => simpa [Balanced, depthAfter?, Level.bars] using ih
  | negation _ ih => exact ih.weaken fun _ => Level.bars_negation
  | and _ _ front last => exact balanced_around front (last.weaken fun _ => Level.bars_negation) rfl
  | conjunction _ ih => exact ih.weaken fun _ => Level.bars_conjunction
  | or _ _ front last =>
    exact balanced_around front (last.weaken fun _ => Level.bars_conjunction) rfl

theorem not_balanced_around {left right : List Symbol} {symbol : Symbol}
    (front : Balanced bars left) (barred : depthAfter? other 0 symbol = none) :
    ¬Balanced other (left ++ symbol :: right) := by
  intro balanced
  rw [Balanced, depthThrough?_append] at balanced
  obtain ⟨depth, here, rest⟩ := Option.bind_eq_some_iff.1 balanced
  obtain rfl := depthThrough?_unique front here
  simp [barred] at rest

theorem not_balanced_not (text : List Symbol) : ¬Balanced Level.operand.bars (.not :: text) := by
  simp [Balanced, depthAfter?, Level.bars]

theorem balanced_of_around {left right : List Symbol} {symbol : Symbol} (front : Balanced bars left)
    (stays : depthAfter? bars 0 symbol = some 0) (whole : Balanced bars (left ++ symbol :: right)) :
    Balanced bars right := by
  unfold Balanced at *
  simpa [front, stays] using whole

/-- A text has one last place where a symbol stands outside of parentheses. -/
theorem split_unique {left right left' right' : List Symbol} {symbol : Symbol}
    (front : Balanced bars left) (front' : Balanced bars left') (last : Balanced other right)
    (last' : Balanced other right') (stays : depthAfter? bars 0 symbol = some 0)
    (barred : depthAfter? other 0 symbol = none)
    (same : left ++ symbol :: right = left' ++ symbol :: right') :
    left = left' ∧ right = right' := by
  rcases List.append_eq_append_iff.1 same with ⟨middle, rfl, rest⟩ | ⟨middle, rfl, rest⟩
  · cases middle with
    | nil => simp_all
    | cons first middle =>
      obtain ⟨rfl, rfl⟩ := List.cons.inj rest
      have inner := balanced_of_around front stays front'
      exact absurd last (not_balanced_around inner barred)
  · cases middle with
    | nil => simp_all
    | cons first middle =>
      obtain ⟨rfl, rfl⟩ := List.cons.inj rest
      have inner := balanced_of_around front' stays front
      exact absurd last' (not_balanced_around inner barred)

/-- A condition is sealed if no part of it is read on its own. -/
def Sealed (IsCondition : List Symbol → Prop) : Prop :=
  ∀ text expression, IsCondition text → Reads IsCondition .operand text expression →
    expression = .condition text

/-- If all conditions are sealed a text has one reading at most. -/
theorem reads_unique (seals : Sealed IsCondition) {level : Level} {text text' : List Symbol}
    {first second : Expression} (one : Reads IsCondition level text first)
    (another : Reads IsCondition level text' second) (same : text = text') : first = second := by
  -- Either both readings split the text at its last connective, or one of them bars the connective
  -- outside of parentheses and the other has it there.
  induction one generalizing text' second with
  | condition is single =>
    obtain rfl := same
    exact (seals _ _ is another).symm
  | truth value =>
    cases another with
    | condition is =>
      obtain rfl := same
      exact seals _ _ is (.truth value)
    | truth => simp_all
    | group | known => simp at same
  | group inner ih =>
    cases another with
    | condition is =>
      obtain rfl := same
      exact seals _ _ is (.group inner)
    | group inner' => exact ih inner' (by simpa using same)
    | truth | known => simp at same
  | known inner ih =>
    cases another with
    | condition is =>
      obtain rfl := same
      exact seals _ _ is (.known inner)
    | known inner' => rw [ih inner' (by simpa using same)]
    | truth | group => simp at same
  | operand alone ih =>
    cases another with
    | operand alone' => exact ih alone' same
    | not operand' =>
      obtain rfl := same
      exact absurd (balanced_of_reads alone) (not_balanced_not _)
  | not operand ih =>
    cases another with
    | operand alone' =>
      obtain rfl := same
      exact absurd (balanced_of_reads alone') (not_balanced_not _)
    | not operand' => rw [ih operand' (by simpa using same)]
  | negation alone ih =>
    cases another with
    | negation alone' => exact ih alone' same
    | and front' last' =>
      obtain rfl := same
      exact absurd (balanced_of_reads alone) (not_balanced_around (balanced_of_reads front') rfl)
  | and front last ihFront ihLast =>
    cases another with
    | negation alone' =>
      obtain rfl := same
      exact absurd (balanced_of_reads alone') (not_balanced_around (balanced_of_reads front) rfl)
    | and front' last' =>
      obtain ⟨before, after⟩ := split_unique (balanced_of_reads front) (balanced_of_reads front')
        (balanced_of_reads last) (balanced_of_reads last') rfl rfl same
      rw [ihFront front' before, ihLast last' after]
  | conjunction alone ih =>
    cases another with
    | conjunction alone' => exact ih alone' same
    | or front' last' =>
      obtain rfl := same
      exact absurd (balanced_of_reads alone) (not_balanced_around (balanced_of_reads front') rfl)
  | or front last ihFront ihLast =>
    cases another with
    | conjunction alone' =>
      obtain rfl := same
      exact absurd (balanced_of_reads alone') (not_balanced_around (balanced_of_reads front) rfl)
    | or front' last' =>
      obtain ⟨before, after⟩ := split_unique (balanced_of_reads front) (balanced_of_reads front')
        (balanced_of_reads last) (balanced_of_reads last') rfl rfl same
      rw [ihFront front' before, ihLast last' after]

end CardSearch.Sql.Expression
