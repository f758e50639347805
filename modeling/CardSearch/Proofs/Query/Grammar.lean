import CardSearch.Query.Filter
import CardSearch.Query.Token

/-!
The grammar of queries. A disjunction is made of conjunctions and a conjunction of operands, both
grouped to the left; parentheses turn a disjunction into an operand and leave no trace in the
filter.
-/

namespace CardSearch.Query.Grammar

inductive Level where
  | disjunction
  | conjunction
  | operand
  deriving DecidableEq, Repr

inductive Derives : Level → List Token → Filter → Prop where
  | leaf (leaf : Leaf) : Derives .operand [.leaf leaf] (.leaf leaf)
  | group {tokens : List Token} {filter : Filter} (inner : Derives .disjunction tokens filter) :
      Derives .operand (.opening :: (tokens ++ [.closing])) filter
  | not {tokens : List Token} {filter : Filter} (operand : Derives .operand tokens filter) :
      Derives .operand (.not :: tokens) (.not filter)
  | operand {tokens : List Token} {filter : Filter} (alone : Derives .operand tokens filter) :
      Derives .conjunction tokens filter
  | and {left right : List Token} {first second : Filter}
      (front : Derives .conjunction left first) (last : Derives .operand right second) :
      Derives .conjunction (left ++ .connective .and :: right) (.and first second)
  | conjunction {tokens : List Token} {filter : Filter}
      (alone : Derives .conjunction tokens filter) : Derives .disjunction tokens filter
  | or {left right : List Token} {first second : Filter}
      (front : Derives .disjunction left first) (last : Derives .conjunction right second) :
      Derives .disjunction (left ++ .connective .or :: right) (.or first second)

theorem derives_negate {tokens : List Token} {filter : Filter}
    (operand : Derives .operand tokens filter) (count : Nat) :
    Derives .operand (List.replicate count .not ++ tokens) (Filter.negate count filter) := by
  induction count with
  | zero => exact operand
  | succ count ih => exact .not ih

theorem derives_ne_nil {level : Level} {tokens : List Token} {filter : Filter}
    (derived : Derives level tokens filter) : tokens ≠ [] := by
  induction derived with
  | leaf | group | not | and | or => simp
  | operand _ ih | conjunction _ ih => exact ih

/-- What stands in front of an operand of a connective: nothing, or the operands before it. -/
inductive Leads (level : Level) (connective : Connective) : Option Filter → List Token → Prop where
  | nothing : Leads level connective none []
  | operands {tokens : List Token} {filter : Filter} (derived : Derives level tokens filter) :
      Leads level connective (some filter) (tokens ++ [.connective connective])

theorem derives_conjunction_of_leads {front : Option Filter} {before tokens : List Token}
    {filter : Filter} (leads : Leads .conjunction .and front before)
    (last : Derives .operand tokens filter) :
    Derives .conjunction (before ++ tokens) (Filter.joinedBy .and front filter) := by
  cases leads with
  | nothing => exact .operand last
  | operands derived =>
    rw [List.append_assoc]
    exact .and derived last

theorem derives_disjunction_of_leads {front : Option Filter} {before tokens : List Token}
    {filter : Filter} (leads : Leads .disjunction .or front before)
    (last : Derives .conjunction tokens filter) :
    Derives .disjunction (before ++ tokens) (Filter.joinedBy .or front filter) := by
  cases leads with
  | nothing => exact .conjunction last
  | operands derived =>
    rw [List.append_assoc]
    exact .or derived last

end CardSearch.Query.Grammar
