import CardSearch.Proofs.Sql.OnePass

/-!
The joins of a predicate are those that its leaves need, in the order in which the leaves first need
them.
-/

namespace CardSearch.Sql

open CardSearch.Query (Filter Leaf)

namespace Join

def ofLeaf? : Leaf → Option Join
  | .text .. | .phrase _ | .regex .. | .wholeWord _ | .accentless _ => some .note
  | .deck _ => some .deck
  | .tag _ => some .noteTags
  | .state _ | .flag _ | .property .. | .date _ => none

/-- The place of the first leaf that needs a join, or the number of the leaves. -/
def firstUse (join : Join) (leaves : List Leaf) : Nat :=
  leaves.findIdx fun leaf => ofLeaf? leaf = some join

structure Needed (leaves : List Leaf) (joins : List Join) : Prop where
  mem_iff : ∀ join, join ∈ joins ↔ ∃ leaf ∈ leaves, ofLeaf? leaf = some join
  ordered : joins.Pairwise fun earlier later => firstUse earlier leaves < firstUse later leaves

variable {join : Join} {front back leaves : List Leaf} {joins more : List Join}

theorem firstUse_lt_length :
    firstUse join leaves < leaves.length ↔ ∃ leaf ∈ leaves, ofLeaf? leaf = some join := by
  simp [firstUse, List.findIdx_lt_length]

theorem firstUse_append_of_mem (used : ∃ leaf ∈ front, ofLeaf? leaf = some join)
    (back : List Leaf) : firstUse join (front ++ back) = firstUse join front := by
  rw [firstUse, List.findIdx_append, ← firstUse, if_pos (firstUse_lt_length.2 used)]

theorem firstUse_append_of_not_mem (unused : ¬∃ leaf ∈ front, ofLeaf? leaf = some join)
    (back : List Leaf) : firstUse join (front ++ back) = firstUse join back + front.length := by
  rw [firstUse, List.findIdx_append, ← firstUse, if_neg (firstUse_lt_length.not.2 unused),
    firstUse]

namespace Needed

theorem nodup (needed : Needed leaves joins) : joins.Nodup := by
  refine needed.ordered.imp ?_
  rintro earlier later before rfl
  exact Nat.lt_irrefl _ before

theorem nil : Needed [] [] :=
  ⟨by simp, .nil⟩

theorem single (leaf : Leaf) : Needed [leaf] (ofLeaf? leaf).toList := by
  cases needs : ofLeaf? leaf with
  | none => exact ⟨by simp [needs], .nil⟩
  | some join => exact ⟨by simp [needs, eq_comm], List.pairwise_singleton _ _⟩

/-- What the leaves behind need is joined unless those in front have joined it. -/
theorem append (first : Needed front joins) (second : Needed back more) :
    Needed (front ++ back) (union joins more) := by
  constructor
  · intro join
    rw [mem_union, first.mem_iff, second.mem_iff]
    simp only [List.mem_append, or_and_right, exists_or]
  · -- A join keeps its place if a leaf in front needs it, and moves behind all of them if none does.
    have early : ∀ join ∈ joins, firstUse join (front ++ back) = firstUse join front :=
      fun join member => firstUse_append_of_mem ((first.mem_iff join).1 member) back
    have late : ∀ join ∈ more.filter (· ∉ joins),
        firstUse join (front ++ back) = firstUse join back + front.length := by
      intro join member
      have missing : join ∉ joins := by simpa using (List.mem_filter.1 member).2
      exact firstUse_append_of_not_mem (fun used => missing ((first.mem_iff join).2 used)) back
    refine List.pairwise_append.2 ⟨?_, ?_, ?_⟩
    · refine first.ordered.imp_of_mem ?_
      intro earlier later member behind before
      rwa [early earlier member, early later behind]
    · refine (second.ordered.filter _).imp_of_mem ?_
      intro earlier later member behind before
      rw [late earlier member, late later behind]
      exact Nat.add_lt_add_right before _
    · intro earlier member later behind
      rw [early earlier member, late later behind]
      have inside := firstUse_lt_length.2 ((first.mem_iff earlier).1 member)
      exact Nat.lt_of_lt_of_le inside (Nat.le_add_left _ _)

end Needed

theorem join_ofLeaf (leaf : Leaf) : (Condition.ofLeaf leaf).join = ofLeaf? leaf := by
  cases leaf with
  | state cardState => cases cardState <;> rfl
  | date window =>
    obtain ⟨kind, days, rating⟩ := window
    cases kind <;> cases rating <;> rfl
  | _ => rfl

theorem needed_ofFilter (offset : Nat) (filter : Filter) :
    Needed filter.leaves (Predicate.ofFilter offset filter).joins := by
  induction filter generalizing offset with
  | all => exact .nil
  | leaf leaf =>
    have needed := Needed.single leaf
    rwa [← join_ofLeaf] at needed
  | and left right first second | or left right first second =>
    exact (first offset).append (second _)
  | not operand inner => exact inner offset

end Join

end CardSearch.Sql
