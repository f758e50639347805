import CardSearch.Proofs.Sql.Unambiguity

/-!
The clauses of a statement. The condition of a statement stands behind `WHERE` and in front of
`ORDER`; only words outside of parentheses count, so nothing between parentheses ends it.
-/

namespace CardSearch.Sql.Symbol

open Expression

def isWord (name : List Char) : Symbol → Bool
  | .word text => text.map Char.toLower == name
  | _ => false

def depthBehind (depth : Nat) : Symbol → Nat
  | .opening => depth + 1
  | .closing => depth - 1
  | _ => depth

/-- Splits a text in front of the first word of a name outside of parentheses. -/
def splitAtWord (name : List Char) (depth : Nat) : List Symbol → List Symbol × List Symbol
  | [] => ([], [])
  | symbol :: rest =>
    if depth = 0 ∧ symbol.isWord name then ([], symbol :: rest)
    else
      let (front, last) := splitAtWord name (depthBehind depth symbol) rest
      (symbol :: front, last)

def whereName : List Char :=
  ['w', 'h', 'e', 'r', 'e']

def orderName : List Char :=
  ['o', 'r', 'd', 'e', 'r']

def whereClause (statement : List Symbol) : List Symbol :=
  (splitAtWord orderName 0 ((splitAtWord whereName 0 statement).2.drop 1)).1

variable {name : List Char} {bars : Symbol → Bool}

theorem depthBehind_eq {depth next : Nat} {symbol : Symbol}
    (goes : depthAfter? bars depth symbol = some next) : depthBehind depth symbol = next := by
  cases symbol <;> simp_all [depthAfter?, depthBehind]

theorem not_isWord_of_depthAfter? {next : Nat} {symbol : Symbol}
    (goes : depthAfter? (isWord name) 0 symbol = some next) : symbol.isWord name = false := by
  cases symbol <;> simp_all [depthAfter?, isWord]

theorem splitAtWord_append {depth last : Nat} {front : List Symbol}
    (goes : depthThrough? (isWord name) depth front = some last) (back : List Symbol) :
    splitAtWord name depth (front ++ back) =
      (front ++ (splitAtWord name last back).1, (splitAtWord name last back).2) := by
  induction front generalizing depth with
  | nil =>
    obtain rfl := Option.some.inj goes
    rfl
  | cons symbol front ih =>
    rw [depthThrough?_cons] at goes
    obtain ⟨next, first, rest⟩ := Option.bind_eq_some_iff.1 goes
    have stays : ¬(depth = 0 ∧ symbol.isWord name = true) := by
      rintro ⟨rfl, word⟩
      exact absurd word (by simp [not_isWord_of_depthAfter? first])
    rw [List.cons_append, splitAtWord, if_neg stays, depthBehind_eq first, ih rest]
    rfl

theorem splitAtWord_eq {front back : List Symbol} (balanced : Balanced (isWord name) front)
    (ends : ∀ symbol ∈ back.head?, symbol.isWord name) :
    splitAtWord name 0 (front ++ back) = (front, back) := by
  rw [splitAtWord_append balanced]
  cases back with
  | nil => simp [splitAtWord]
  | cons symbol back =>
    have word : symbol.isWord name = true := ends symbol rfl
    simp [splitAtWord, word]

theorem whereClause_eq {front clause back : List Symbol} {first : Symbol}
    (outside : Balanced (isWord whereName) front) (begins : first.isWord whereName)
    (whole : Balanced (isWord orderName) clause)
    (ends : ∀ symbol ∈ back.head?, symbol.isWord orderName) :
    whereClause (front ++ first :: (clause ++ back)) = clause := by
  have opens : splitAtWord whereName 0 (front ++ first :: (clause ++ back)) =
      (front, first :: (clause ++ back)) := splitAtWord_eq outside (by simpa using begins)
  rw [whereClause, opens, List.drop_one, List.tail_cons, splitAtWord_eq whole ends]

end CardSearch.Sql.Symbol
