import CardSearch.Query.Fault
import CardSearch.Query.Filter
import CardSearch.Query.Lexeme

/-!
From tokens to a filter. A disjunction binds loosest, then a conjunction, then a negation; both
connectives group to the left. The reader keeps the unfinished expressions around the place it has
reached and takes one token at a time, so it ends with the tokens. What it leaves behind when it
fails can be read further.
-/

namespace CardSearch.Query

/-- An expression whose next operand is still to come: the disjuncts and the conjuncts in front of
it, and the negations that apply to it. -/
structure Awaiting where
  disjuncts : Option Filter
  conjuncts : Option Filter
  negations : Nat
  deriving DecidableEq, Repr

structure Reached where
  disjuncts : Option Filter
  conjuncts : Filter
  deriving DecidableEq, Repr

structure Group where
  position : Nat
  around : Awaiting
  deriving DecidableEq, Repr

namespace Awaiting

def nothing : Awaiting :=
  ⟨none, none, 0⟩

def negated (awaiting : Awaiting) : Awaiting :=
  { awaiting with negations := awaiting.negations + 1 }

def supply (awaiting : Awaiting) (operand : Filter) : Reached :=
  ⟨awaiting.disjuncts,
    Filter.joinedBy .and awaiting.conjuncts (Filter.negate awaiting.negations operand)⟩

end Awaiting

namespace Reached

def filter (reached : Reached) : Filter :=
  Filter.joinedBy .or reached.disjuncts reached.conjuncts

def extended (reached : Reached) : Connective → Awaiting
  | .and => ⟨reached.disjuncts, some reached.conjuncts, 0⟩
  | .or => ⟨some reached.filter, none, 0⟩

end Reached

inductive Phase where
  | operand (awaiting : Awaiting)
  | connective (reached : Reached)
  deriving DecidableEq, Repr

/-- All unfinished expressions, the innermost in `phase`. -/
structure Progress where
  groups : List Group
  phase : Phase
  deriving DecidableEq, Repr

namespace Progress

def begin : Progress :=
  ⟨[], .operand .nothing⟩

def conclude (groups : List Group) (reached : Reached) : Except SyntaxError Filter :=
  match groups with
  | [] => .ok reached.filter
  | group :: _ => .error ⟨.unclosedParenthesis, "(", group.position⟩

/-- What follows from one token: the expressions behind it, or the end of the reading. `stays` is
the token left as the current one when no other takes its place. -/
inductive Step where
  | on (progress : Progress) (stays : Token)
  | stop (result : Except SyntaxError Filter) (stays : Token)

/-- Where an operand is due, a token is used up whether it fits or not. -/
def stepOperand (groups : List Group) (awaiting : Awaiting) (current : Lexeme)
    (previous : String) : Step :=
  match current.token with
  | .leaf leaf => .on ⟨groups, .connective (awaiting.supply (.leaf leaf))⟩ .finish
  | .not => .on ⟨groups, .operand awaiting.negated⟩ .finish
  | .opening => .on ⟨⟨current.position, awaiting⟩ :: groups, .operand .nothing⟩ .finish
  | .closing => .stop (.error ⟨.unexpectedClosing, ")", current.position⟩) .finish
  | .connective connective =>
    .stop (.error ⟨.unexpectedConnective connective, current.text, current.position⟩) .finish
  | .finish => .stop (.error ⟨.unexpectedEnd, previous, current.position⟩) .finish

/-- Behind an operand, a token that does not fit stays to be read again. -/
def stepConnective (groups : List Group) (reached : Reached) (current : Lexeme) : Step :=
  match current.token, groups with
  | .connective connective, _ =>
    .on ⟨groups, .operand (reached.extended connective)⟩ (.connective connective)
  | .closing, group :: outer =>
    .on ⟨outer, .connective (group.around.supply reached.filter)⟩ .closing
  | .closing, [] => .stop (.error ⟨.unmatchedParenthesis, ")", current.position⟩) .closing
  | .finish, _ => .stop (conclude groups reached) .finish
  | token, [] => .stop (.error ⟨.queryGoesOn, current.text, current.position⟩) token
  | token, _ :: _ => .stop (.error ⟨.groupGoesOn, current.text, current.position⟩) token

def step (progress : Progress) (current : Lexeme) (previous : String) : Step :=
  match progress.phase with
  | .operand awaiting => stepOperand progress.groups awaiting current previous
  | .connective reached => stepConnective progress.groups reached current

/-- The end of a reading that ran out of tokens. The last token stays in place, so a connective or a
closing parenthesis there is met a second time. -/
def settle (progress : Progress) (current : Lexeme) (previous : String) :
    Except SyntaxError Filter × Token :=
  match progress.phase, current.token with
  | .operand _, .connective connective =>
    (.error ⟨.unexpectedConnective connective, current.text, current.position⟩, .finish)
  | .operand _, _ => (.error ⟨.unexpectedEnd, previous, current.position⟩, .finish)
  | .connective _, .closing =>
    (.error ⟨.unmatchedParenthesis, ")", current.position⟩, .closing)
  | .connective reached, _ => (conclude progress.groups reached, .finish)

end Progress

/-- A list of tokens under reading: the current one, those behind it, and the text of the one in
front of it. -/
structure Reading where
  current : Lexeme
  rest : List Lexeme
  previous : String
  deriving DecidableEq, Repr

namespace Reading

/-- A list without tokens reads like the end of a query. -/
def ofLexemes : List Lexeme → Reading
  | [] => ⟨⟨.finish, 0, ""⟩, [], ""⟩
  | first :: rest => ⟨first, rest, ""⟩

def run (progress : Progress) (current : Lexeme) (previous : String) :
    List Lexeme → Except SyntaxError Filter × Reading
  | [] =>
    match progress.step current previous with
    | .stop result stays => (result, ⟨{ current with token := stays }, [], previous⟩)
    | .on progress stays =>
      let (result, stays) := progress.settle { current with token := stays } previous
      (result, ⟨{ current with token := stays }, [], previous⟩)
  | next :: rest =>
    match progress.step current previous with
    | .stop result stays => (result, ⟨{ current with token := stays }, next :: rest, previous⟩)
    | .on progress _ => run progress next current.text rest

/-- Reads one filter and says what is left. At the end of the query every card is meant. -/
def next (reading : Reading) : Except SyntaxError Filter × Reading :=
  match reading.current.token with
  | .finish => (.ok .all, reading)
  | _ => run .begin reading.current reading.previous reading.rest

end Reading

end CardSearch.Query
