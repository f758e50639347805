import CardSearch.Proofs.Sql.Symbol

/-!
Conditions in three-valued logic, and how a text is read as one. `OR` binds loosest, then `AND`,
then `NOT`; parentheses group. The texts that count as conditions of their own are a parameter: such
a text has balanced parentheses and no connective outside of them.
-/

namespace CardSearch.Sql

/-- A truth value. A condition on missing data is unknown, which SQL writes `NULL`. -/
inductive Truth where
  | yes
  | no
  | unknown
  deriving DecidableEq, Repr

namespace Truth

def ofBool (value : Bool) : Truth :=
  if value then .yes else .no

def isYes : Truth → Bool
  | .yes => true
  | .no | .unknown => false

def not : Truth → Truth
  | .yes => .no
  | .no => .yes
  | .unknown => .unknown

def and : Truth → Truth → Truth
  | .no, _ | _, .no => .no
  | .yes, .yes => .yes
  | _, _ => .unknown

def or : Truth → Truth → Truth
  | .yes, _ | _, .yes => .yes
  | .no, .no => .no
  | _, _ => .unknown

def known : Truth → Truth
  | .unknown => .no
  | value => value

theorem isYes_iff (value : Truth) : value.isYes = true ↔ value = .yes := by
  cases value <;> simp [isYes]

@[simp]
theorem isYes_and (left right : Truth) : (left.and right).isYes = (left.isYes && right.isYes) := by
  cases left <;> cases right <;> rfl

@[simp]
theorem isYes_or (left right : Truth) : (left.or right).isYes = (left.isYes || right.isYes) := by
  cases left <;> cases right <;> rfl

@[simp]
theorem isYes_not_known (operand : Truth) : operand.known.not.isYes = !operand.isYes := by
  cases operand <;> rfl

end Truth

inductive Expression where
  | condition (text : List Symbol)
  | truth (value : Bool)
  | not (operand : Expression)
  | known (operand : Expression)
  | and (left right : Expression)
  | or (left right : Expression)
  deriving DecidableEq, Repr

namespace Expression

def conditions : Expression → List (List Symbol)
  | .condition text => [text]
  | .truth _ => []
  | .not operand | .known operand => operand.conditions
  | .and left right | .or left right => left.conditions ++ right.conditions

/-- The value of an expression whose conditions, counted from left to right, have given values. -/
def value (values : Nat → Truth) : Expression → Truth
  | .condition _ => values 0
  | .truth value => .ofBool value
  | .not operand => (operand.value values).not
  | .known operand => (operand.value values).known
  | .and left right =>
    (left.value values).and (right.value fun index => values (left.conditions.length + index))
  | .or left right =>
    (left.value values).or (right.value fun index => values (left.conditions.length + index))

inductive Level where
  | disjunction
  | conjunction
  | negation
  | operand
  deriving DecidableEq, Repr

/-- The symbols that stand only inside of parentheses in a text of a level. -/
def Level.bars : Level → Symbol → Bool
  | .disjunction, symbol => symbol = .comma
  | .conjunction, symbol => symbol = .comma ∨ symbol = .or
  | .negation, symbol => symbol = .comma ∨ symbol = .or ∨ symbol = .and
  | .operand, symbol => symbol = .comma ∨ symbol = .or ∨ symbol = .and ∨ symbol = .not

def depthAfter? (bars : Symbol → Bool) (depth : Nat) : Symbol → Option Nat
  | .opening => some (depth + 1)
  | .closing => if depth = 0 then none else some (depth - 1)
  | .unclosed _ => none
  | symbol => if depth = 0 ∧ bars symbol then none else some depth

def depthThrough? (bars : Symbol → Bool) (depth : Nat) (symbols : List Symbol) : Option Nat :=
  symbols.foldlM (depthAfter? bars) depth

def Balanced (bars : Symbol → Bool) (symbols : List Symbol) : Prop :=
  depthThrough? bars 0 symbols = some 0

/-- How a text is read. `IsCondition` says which texts stand for a condition of their own; such a
text has no connective outside of parentheses. -/
inductive Reads (IsCondition : List Symbol → Prop) : Level → List Symbol → Expression → Prop where
  | condition {text : List Symbol} (is : IsCondition text)
      (single : Balanced Level.operand.bars text) :
      Reads IsCondition .operand text (.condition text)
  | truth (value : Bool) : Reads IsCondition .operand [.truth value] (.truth value)
  | group {text : List Symbol} {expression : Expression}
      (inner : Reads IsCondition .disjunction text expression) :
      Reads IsCondition .operand (.opening :: (text ++ [.closing])) expression
  | known {text : List Symbol} {expression : Expression}
      (inner : Reads IsCondition .disjunction text expression) :
      Reads IsCondition .operand
        (.coalesce :: .opening :: (text ++ [.comma, .truth false, .closing])) (.known expression)
  | operand {text : List Symbol} {expression : Expression}
      (alone : Reads IsCondition .operand text expression) :
      Reads IsCondition .negation text expression
  | not {text : List Symbol} {expression : Expression}
      (operand : Reads IsCondition .negation text expression) :
      Reads IsCondition .negation (.not :: text) (.not expression)
  | negation {text : List Symbol} {expression : Expression}
      (alone : Reads IsCondition .negation text expression) :
      Reads IsCondition .conjunction text expression
  | and {left right : List Symbol} {first second : Expression}
      (front : Reads IsCondition .conjunction left first)
      (last : Reads IsCondition .negation right second) :
      Reads IsCondition .conjunction (left ++ .and :: right) (.and first second)
  | conjunction {text : List Symbol} {expression : Expression}
      (alone : Reads IsCondition .conjunction text expression) :
      Reads IsCondition .disjunction text expression
  | or {left right : List Symbol} {first second : Expression}
      (front : Reads IsCondition .disjunction left first)
      (last : Reads IsCondition .conjunction right second) :
      Reads IsCondition .disjunction (left ++ .or :: right) (.or first second)

theorem Reads.mono {IsCondition Other : List Symbol → Prop}
    (more : ∀ text, IsCondition text → Other text) {level : Level} {text : List Symbol}
    {expression : Expression} (reads : Reads IsCondition level text expression) :
    Reads Other level text expression := by
  induction reads with
  | condition is single => exact .condition (more _ is) single
  | truth value => exact .truth value
  | group _ ih => exact .group ih
  | known _ ih => exact .known ih
  | operand _ ih => exact .operand ih
  | not _ ih => exact .not ih
  | negation _ ih => exact .negation ih
  | and _ _ front last => exact .and front last
  | conjunction _ ih => exact .conjunction ih
  | or _ _ front last => exact .or front last

end Expression

end CardSearch.Sql
