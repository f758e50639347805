import CardSearch.Proofs.Sql.Numbering

/-!
The condition of a filter in one pass: values are bound and joins added when their leaf is reached,
behind all that the leaves before it have bound and added. A leaf finds nothing in what came before
but the number of the values and the joins that are there.
-/

namespace CardSearch.Sql

open CardSearch.Query (Filter Leaf)

namespace Join

theorem nil_union (joins : List Join) : union [] joins = joins := by
  simp [union]

theorem union_nil (joins : List Join) : union joins [] = joins := by
  simp [union]

theorem mem_union {join : Join} {joins more : List Join} :
    join ∈ union joins more ↔ join ∈ joins ∨ join ∈ more := by
  by_cases known : join ∈ joins <;> simp [union, known]

theorem union_assoc (joins more further : List Join) :
    union (union joins more) further = union joins (union more further) := by
  have missing : further.filter (· ∉ union joins more) =
      (further.filter (· ∉ more)).filter (· ∉ joins) := by
    rw [List.filter_filter]
    apply List.filter_congr
    intro join _
    simp [mem_union, not_or]
  rw [union, missing, union, union, union, List.filter_append, List.append_assoc]

end Join

structure Bindings where
  params : List Param
  joins : List Join
  deriving DecidableEq, Repr

namespace Bindings

def bindParam (offset : Nat) (param : Param) : StateM Bindings String := do
  let bound ← get
  set { bound with params := bound.params ++ [param] }
  return placeholder offset bound.params.length

def require (join : Join) : StateM Bindings Unit :=
  modify fun bound =>
    if join ∈ bound.joins then bound else { bound with joins := bound.joins ++ [join] }

def fill (places : List String) : Piece → String
  | .sql text => text
  | .slot index => places.getD index ""

def lowerLeaf (offset : Nat) (leaf : Leaf) : StateM Bindings String := do
  let condition := Condition.ofLeaf leaf
  condition.join.toList.forM require
  let places ← condition.params.mapM (bindParam offset)
  return String.join (condition.pieces.map (fill places))

def lowerBoth (connective : String) (left right : StateM Bindings String) :
    StateM Bindings String := do
  let first ← left
  let second ← right
  return "(" ++ first ++ ") " ++ connective ++ " (" ++ second ++ ")"

def lower (offset : Nat) : Filter → StateM Bindings String
  | .all => return "TRUE"
  | .leaf leaf => lowerLeaf offset leaf
  | .and left right => lowerBoth "AND" (lower offset left) (lower offset right)
  | .or left right => lowerBoth "OR" (lower offset left) (lower offset right)
  | .not operand => do
    let inner ← lower offset operand
    return "NOT COALESCE((" ++ inner ++ "), FALSE)"

def extend (bound : Bindings) (predicate : Predicate) : Bindings :=
  ⟨bound.params ++ predicate.params, Join.union bound.joins predicate.joins⟩

theorem length_extend (bound : Bindings) (predicate : Predicate) :
    (bound.extend predicate).params.length = bound.params.length + predicate.params.length :=
  List.length_append

theorem extend_both (bound : Bindings) (connective : String) (left right : Predicate) :
    bound.extend (.both connective left right) = (bound.extend left).extend right := by
  simp [extend, Predicate.both, Join.union_assoc]

theorem run_require (join : Option Join) (bound : Bindings) :
    (join.toList.forM require).run bound =
      pure ((), { bound with joins := Join.union bound.joins join.toList }) := by
  cases join with
  | none => simp [Join.union_nil]
  | some join =>
    by_cases known : join ∈ bound.joins <;> simp [require, Join.union, known]

theorem run_bindParams (offset : Nat) (params : List Param) (bound : Bindings) :
    (params.mapM (bindParam offset)).run bound =
      pure ((List.range' bound.params.length params.length).map (placeholder offset),
        { bound with params := bound.params ++ params }) := by
  induction params generalizing bound with
  | nil => simp
  | cons param params ih => simp [List.mapM_cons, bindParam, ih, List.range'_succ]

theorem placeholder_add (offset start index : Nat) :
    placeholder (offset + start) index = placeholder offset (start + index) := by
  rw [placeholder, placeholder, Nat.add_assoc offset]

theorem fill_places (offset start : Nat) {count : Nat} {piece : Piece}
    (within : ∀ index, piece = .slot index → index < count) :
    fill ((List.range' start count).map (placeholder offset)) piece =
      piece.render (offset + start) := by
  cases piece with
  | sql text => rfl
  | slot index =>
    have listed := within index rfl
    simp [fill, Piece.render, listed, placeholder_add]

theorem mem_slots {index : Nat} {pieces : List Piece} (member : .slot index ∈ pieces) :
    index ∈ Piece.slots pieces := by
  fun_induction Piece.slots pieces with
  | case1 => cases member
  | case2 text rest ih =>
    apply ih
    simpa using member
  | case3 other rest ih =>
    rcases List.mem_cons.1 member with same | behind
    · cases same
      exact List.mem_cons_self
    · exact List.mem_cons_of_mem _ (ih behind)

theorem lt_of_mem_pieces {leaf : Leaf} {index : Nat}
    (member : .slot index ∈ (Condition.ofLeaf leaf).pieces) :
    index < (Condition.ofLeaf leaf).params.length := by
  have printed : 0 + index + 1 ∈
      (Piece.slots (Condition.ofLeaf leaf).pieces).map fun index => 0 + index + 1 :=
    List.mem_map.2 ⟨index, mem_slots member, rfl⟩
  have bounds := (Condition.countsOn_slots 0 leaf).mem_iff.1 printed
  omega

theorem run_lowerLeaf (offset : Nat) (leaf : Leaf) (bound : Bindings) :
    (lowerLeaf offset leaf).run bound =
      let predicate := Predicate.ofFilter (offset + bound.params.length) (.leaf leaf)
      pure (predicate.sql, bound.extend predicate) := by
  have filled : (Condition.ofLeaf leaf).pieces.map (fill
      ((List.range' bound.params.length (Condition.ofLeaf leaf).params.length).map
        (placeholder offset))) =
      (Condition.ofLeaf leaf).pieces.map (Piece.render (offset + bound.params.length)) := by
    apply List.map_congr_left
    intro piece member
    apply fill_places
    rintro index rfl
    exact lt_of_mem_pieces member
  have required := run_require (Condition.ofLeaf leaf).join bound
  simp only [lowerLeaf, StateT.run_bind, required, pure_bind, run_bindParams, StateT.run_pure,
    filled]
  rfl

theorem run_lowerBoth (connective : String) {left right : StateM Bindings String}
    {one other : Predicate} {bound : Bindings}
    (first : left.run bound = pure (one.sql, bound.extend one))
    (second : right.run (bound.extend one) =
      pure (other.sql, (bound.extend one).extend other)) :
    (lowerBoth connective left right).run bound =
      let predicate := Predicate.both connective one other
      pure (predicate.sql, bound.extend predicate) := by
  simp only [lowerBoth, StateT.run_bind, first, pure_bind, second, StateT.run_pure, extend_both]
  rfl

/-- What a filter adds depends on what is there only by the number of the values. -/
theorem run_lower (offset : Nat) (filter : Filter) (bound : Bindings) :
    (lower offset filter).run bound =
      let predicate := Predicate.ofFilter (offset + bound.params.length) filter
      pure (predicate.sql, bound.extend predicate) := by
  -- The right operand starts from what the left one leaves, so all bindings are met at once.
  induction filter generalizing bound with
  | all => simp [lower, Predicate.ofFilter, extend, Join.union_nil]
  | leaf leaf => exact run_lowerLeaf offset leaf bound
  | and left right first second | or left right first second =>
    have behind := second (bound.extend (.ofFilter (offset + bound.params.length) left))
    rw [length_extend, ← Nat.add_assoc] at behind
    exact run_lowerBoth _ (first bound) behind
  | not operand inner =>
    rw [lower, StateT.run_bind, inner, pure_bind]
    rfl

end Bindings

namespace Predicate

def onePass (offset : Nat) (filter : Filter) : Predicate :=
  let (sql, bound) := (Bindings.lower offset filter).run ⟨[], []⟩
  ⟨sql, bound.params, bound.joins⟩

theorem onePass_eq_ofFilter (offset : Nat) (filter : Filter) :
    onePass offset filter = ofFilter offset filter := by
  have whole := Bindings.run_lower offset filter ⟨[], []⟩
  simp only [onePass]
  rw [whole]
  simp [pure, Bindings.extend, Join.nil_union]

end Predicate

end CardSearch.Sql
