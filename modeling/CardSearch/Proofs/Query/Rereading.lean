import CardSearch.Proofs.Query.Stepping
import Mathlib.Logic.Function.Iterate

/-!
A reading that is called again and again. A call takes token after token; past the last one it stays
where it is, so a token there may be met more than once, but every call returns. What it leaves
behind holds fewer tokens, unless it stood at the end of the query, and there every call answers
that every card is meant.
-/

namespace CardSearch.Query

namespace Progress

def Step.stays : Step → Token
  | .on _ stays | .stop _ stays => stays

theorem stays_step (progress : Progress) (current : Lexeme) (previous : String) :
    (progress.step current previous).stays = .finish ∨
      (progress.step current previous).stays = current.token := by
  obtain ⟨groups, phase⟩ := progress
  obtain ⟨token, position, text⟩ := current
  cases phase with
  | operand => cases token <;> exact .inl rfl
  | connective => cases token <;> cases groups <;> exact .inr rfl

theorem stays_step_begin (current : Lexeme) (previous : String) :
    (begin.step current previous).stays = .finish := by
  obtain ⟨token, position, text⟩ := current
  cases token <;> rfl

theorem stays_of_stop_ok {progress : Progress} {current : Lexeme} {previous : String}
    {filter : Filter} {stays : Token}
    (step : progress.step current previous = .stop (.ok filter) stays) : stays = .finish := by
  obtain ⟨groups, phase⟩ := progress
  obtain ⟨token, position, text⟩ := current
  cases phase with
  | operand => cases token <;> cases step
  | connective =>
    cases token with
    | finish =>
      cases groups with
      | nil =>
        cases step
        rfl
      | cons group groups => cases step
    | connective => cases step
    | closing | leaf | not | opening => cases groups <;> cases step

end Progress

namespace Reading

def keeping (reading : Reading) (token : Token) : Reading :=
  { reading with current := { reading.current with token := token } }

/-- Moves to the next token. Past the last one the reading stays where it is. -/
def advance (reading : Reading) : Reading :=
  match reading.rest with
  | [] => reading
  | next :: rest => ⟨next, rest, reading.current.text⟩

inductive Returns : Progress → Reading → Except SyntaxError Filter → Reading → Prop where
  | stop {progress : Progress} {reading : Reading} {result : Except SyntaxError Filter}
      {stays : Token} (step : progress.step reading.current reading.previous = .stop result stays) :
      Returns progress reading result (reading.keeping stays)
  | on {progress next : Progress} {reading left : Reading} {result : Except SyntaxError Filter}
      {stays : Token} (step : progress.step reading.current reading.previous = .on next stays)
      (later : Returns next (reading.keeping stays).advance result left) :
      Returns progress reading result left

/-- A closing parenthesis that is the last token closes all groups before it is unmatched. -/
theorem returns_closing (groups : List Group) (reached : Reached) (position : Nat)
    (text previous : String) :
    let last : Reading := ⟨⟨.closing, position, text⟩, [], previous⟩
    Returns ⟨groups, .connective reached⟩ last
      (.error ⟨.unmatchedParenthesis, ")", position⟩) last := by
  induction groups generalizing reached with
  | nil => exact .stop rfl
  | cons group outer ih => exact .on rfl (ih _)

/-- A reading that takes its last token returns from there, although it cannot move on. -/
theorem returns_settle {progress next : Progress} {current : Lexeme} {previous : String}
    {stays : Token} (step : progress.step current previous = .on next stays) :
    let last : Lexeme := { current with token := stays }
    Returns next ⟨last, [], previous⟩ (next.settle last previous).1
      ⟨{ last with token := (next.settle last previous).2 }, [], previous⟩ := by
  obtain ⟨groups, phase⟩ := progress
  obtain ⟨token, position, text⟩ := current
  cases phase with
  | operand awaiting =>
    cases token with
    | leaf | not | opening =>
      cases step
      exact .stop rfl
    | connective | closing | finish => cases step
  | connective reached =>
    cases token with
    | connective =>
      cases step
      exact .stop rfl
    | closing =>
      cases groups with
      | nil => cases step
      | cons group outer =>
        cases step
        exact returns_closing outer _ position text previous
    | leaf | not | opening => cases groups <;> cases step
    | finish => cases step

theorem returns_run (progress : Progress) (current : Lexeme) (previous : String)
    (rest : List Lexeme) :
    Returns progress ⟨current, rest, previous⟩ (run progress current previous rest).1
      (run progress current previous rest).2 := by
  induction rest generalizing progress current previous with
  | nil =>
    unfold run
    cases step : progress.step current previous with
    | stop result stays => exact .stop step
    | on next stays => exact .on step (returns_settle step)
  | cons next rest ih =>
    unfold run
    cases step : progress.step current previous with
    | stop result stays => exact .stop step
    | on behind stays => exact .on step (ih behind next current.text)

theorem Returns.unique {progress : Progress} {reading left other : Reading}
    {result another : Except SyntaxError Filter} (returns : Returns progress reading result left)
    (also : Returns progress reading another other) : result = another ∧ left = other := by
  induction returns with
  | stop step =>
    cases also with
    | stop same =>
      obtain ⟨rfl, rfl⟩ := Progress.Step.stop.inj (step.symm.trans same)
      exact ⟨rfl, rfl⟩
    | on same => cases step.symm.trans same
  | on step _ ih =>
    cases also with
    | stop same => cases step.symm.trans same
    | on same more =>
      obtain ⟨rfl, rfl⟩ := Progress.Step.on.inj (step.symm.trans same)
      exact ih more

inductive Call (reading : Reading) : Except SyntaxError Filter → Reading → Prop where
  | ended (finish : reading.current.token = .finish) : Call reading (.ok .all) reading
  | read {result : Except SyntaxError Filter} {left : Reading}
      (begins : reading.current.token ≠ .finish) (returns : Returns .begin reading result left) :
      Call reading result left

theorem next_of_finish {reading : Reading} (finish : reading.current.token = .finish) :
    reading.next = (.ok .all, reading) := by
  rw [next, finish]

theorem call_next (reading : Reading) : Call reading reading.next.1 reading.next.2 := by
  by_cases finish : reading.current.token = .finish
  · rw [next_of_finish finish]
    exact .ended finish
  · have read : reading.next = run .begin reading.current reading.previous reading.rest := by
      simp only [next]
    rw [read]
    exact .read finish (returns_run _ _ _ _)

/-- A call returns, and with one result. -/
theorem call_iff {reading left : Reading} {result : Except SyntaxError Filter} :
    Call reading result left ↔ reading.next = (result, left) := by
  constructor
  · intro call
    cases call with
    | ended finish => exact next_of_finish finish
    | read begins returns =>
      have called := call_next reading
      generalize reading.next = outcome at called ⊢
      obtain ⟨another, other⟩ := outcome
      cases called with
      | ended finish => exact absurd finish begins
      | read _ same =>
        obtain ⟨rfl, rfl⟩ := returns.unique same
        rfl
  · intro same
    have call := call_next reading
    rw [same] at call
    exact call

/-- The tokens that are still to be read. The end of the query in the current place is none. -/
def remaining (reading : Reading) : Nat :=
  reading.rest.length + if reading.current.token = .finish then 0 else 1

theorem remaining_le (reading : Reading) : reading.remaining ≤ reading.rest.length + 1 := by
  unfold remaining
  split <;> omega

theorem length_le_remaining (reading : Reading) : reading.rest.length ≤ reading.remaining :=
  Nat.le_add_right _ _

theorem remaining_advance_le (reading : Reading) :
    reading.advance.remaining ≤ reading.remaining := by
  obtain ⟨current, rest, previous⟩ := reading
  cases rest with
  | nil => exact Nat.le_refl _
  | cons next rest =>
    have left := length_le_remaining ⟨current, next :: rest, previous⟩
    exact Nat.le_trans (remaining_le _) left

theorem remaining_keeping_le {reading : Reading} {token : Token}
    (stays : token = .finish ∨ token = reading.current.token) :
    (reading.keeping token).remaining ≤ reading.remaining := by
  rcases stays with rfl | rfl
  · exact Nat.le_add_right _ _
  · exact Nat.le_refl _

theorem remaining_keeping_finish {reading : Reading} (begins : reading.current.token ≠ .finish) :
    (reading.keeping .finish).remaining < reading.remaining := by
  simp [keeping, remaining, begins]

theorem Returns.remaining_le {progress : Progress} {reading left : Reading}
    {result : Except SyntaxError Filter} (returns : Returns progress reading result left) :
    left.remaining ≤ reading.remaining := by
  induction returns with
  | @stop progress reading result stays step =>
    have kept := progress.stays_step reading.current reading.previous
    rw [step] at kept
    exact remaining_keeping_le kept
  | @on progress next reading left result stays step later ih =>
    have kept := progress.stays_step reading.current reading.previous
    rw [step] at kept
    exact Nat.le_trans ih (Nat.le_trans (remaining_advance_le _) (remaining_keeping_le kept))

/-- A call uses up a token, unless it stands at the end of the query. -/
theorem Call.remaining_lt {reading left : Reading} {result : Except SyntaxError Filter}
    (call : Call reading result left) (begins : reading.current.token ≠ .finish) :
    left.remaining < reading.remaining := by
  cases call with
  | ended finish => exact absurd finish begins
  | read _ returns =>
    have used := Progress.stays_step_begin reading.current reading.previous
    cases returns with
    | stop step =>
      rw [step] at used
      obtain rfl : _ = Token.finish := used
      exact remaining_keeping_finish begins
    | on step later =>
      rw [step] at used
      obtain rfl : _ = Token.finish := used
      have fewer := remaining_keeping_finish begins
      exact Nat.lt_of_le_of_lt (Nat.le_trans later.remaining_le (remaining_advance_le _)) fewer

theorem Returns.finish_of_ok {progress : Progress} {reading left : Reading}
    {result : Except SyntaxError Filter} (returns : Returns progress reading result left)
    {filter : Filter} (ok : result = .ok filter) : left.current.token = .finish := by
  induction returns with
  | stop step =>
    subst ok
    exact Progress.stays_of_stop_ok step
  | on _ _ ih => exact ih ok

theorem Call.finish_of_ok {reading left : Reading} {filter : Filter}
    (call : Call reading (.ok filter) left) : left.current.token = .finish := by
  cases call with
  | ended finish => exact finish
  | read _ returns => exact returns.finish_of_ok rfl

def behind (reading : Reading) (calls : Nat) : Reading :=
  (fun before => before.next.2)^[calls] reading

theorem behind_succ (reading : Reading) (calls : Nat) :
    reading.behind (calls + 1) = (reading.behind calls).next.2 :=
  Function.iterate_succ_apply' _ _ _

theorem behind_add (reading : Reading) (first second : Nat) :
    reading.behind (first + second) = (reading.behind first).behind second := by
  rw [behind, Nat.add_comm, Function.iterate_add_apply]
  rfl

theorem behind_of_finish {reading : Reading} (finish : reading.current.token = .finish)
    (calls : Nat) : reading.behind calls = reading :=
  Function.iterate_fixed (by rw [next_of_finish finish]) calls

theorem finish_or_remaining_le (reading : Reading) (calls : Nat) :
    (reading.behind calls).current.token = .finish ∨
      (reading.behind calls).remaining + calls ≤ reading.remaining := by
  induction calls with
  | zero => exact .inr (Nat.le_refl _)
  | succ calls ih =>
    rw [behind_succ]
    by_cases finish : (reading.behind calls).current.token = .finish
    · rw [next_of_finish finish]
      exact .inl finish
    · have fewer := (call_next (reading.behind calls)).remaining_lt finish
      have bound := ih.resolve_left finish
      exact .inr (by omega)

theorem finish_behind {reading : Reading} {calls : Nat} (enough : reading.remaining ≤ calls) :
    (reading.behind calls).current.token = .finish := by
  rcases reading.finish_or_remaining_le calls with finish | bound
  · exact finish
  · by_contra begins
    have some : 0 < (reading.behind calls).remaining := by simp [remaining, begins]
    omega

theorem remaining_ofLexemes_le (lexemes : List Lexeme) :
    (ofLexemes lexemes).remaining ≤ lexemes.length := by
  cases lexemes with
  | nil => exact Nat.le_refl _
  | cons first rest => exact remaining_le _

/-- A reading runs dry, whatever its tokens are. Behind as many calls as there are tokens, and
behind a call that gave a filter, every call answers that every card is meant and changes nothing;
and every call returns. -/
theorem behind_runs_dry (lexemes : List Lexeme) :
    (∀ call, lexemes.length ≤ call → ((ofLexemes lexemes).behind call).next.1 = .ok .all) ∧
    (∀ call filter, ((ofLexemes lexemes).behind call).next.1 = .ok filter →
      ∀ later, call < later →
        ((ofLexemes lexemes).behind later).next = (.ok .all, (ofLexemes lexemes).behind later)) ∧
    ∀ call result left, Call ((ofLexemes lexemes).behind call) result left ↔
      ((ofLexemes lexemes).behind call).next = (result, left) := by
  refine ⟨fun call enough => ?_, fun call filter found later after => ?_, fun _ _ _ => call_iff⟩
  · have finish := finish_behind (Nat.le_trans (remaining_ofLexemes_le lexemes) enough)
    rw [next_of_finish finish]
  · have call := call_next ((ofLexemes lexemes).behind call)
    rw [found, ← behind_succ] at call
    obtain ⟨more, rfl⟩ := Nat.exists_eq_add_of_lt after
    rw [Nat.add_right_comm, behind_add, behind_of_finish call.finish_of_ok]
    exact next_of_finish call.finish_of_ok

theorem behind_runs_dry_three_terms :
    let reading := ofLexemes [⟨.leaf (.flag 1), 0, "flag:1"⟩, ⟨.leaf (.flag 2), 7, "flag:2"⟩,
      ⟨.leaf (.flag 3), 14, "flag:3"⟩]
    (reading.behind 0).next.1 = .error ⟨.queryGoesOn, "flag:2", 7⟩ ∧
    (reading.behind 1).next.1 = .error ⟨.queryGoesOn, "flag:3", 14⟩ ∧
    (reading.behind 2).next.1 = .ok (.leaf (.flag 3)) ∧
    ∀ later, 2 < later → (reading.behind later).next = (.ok .all, reading.behind later) := by
  intro reading
  have last : (reading.behind 2).next.1 = .ok (.leaf (.flag 3)) := rfl
  exact ⟨rfl, rfl, last, (behind_runs_dry _).2.1 2 _ last⟩

end Reading

end CardSearch.Query
