import CardSearch.Proofs.Number.Numeral
import CardSearch.Sql.Placeholder
import Mathlib.Data.List.Sort
import Mathlib.Data.List.TakeWhile

/-!
The placeholders of a text in their order, and the ascending list of their numbers. Texts whose
placeholders count on from each other can be joined.
-/

namespace CardSearch.Sql

namespace Placeholder

def occurrences (sql : String) : List Nat :=
  (runs sql.toList).filterMap (Number.numeral? (Number.twoTo 64))

/-- Whether a text may follow a placeholder without adding to its digits. -/
def endsNumber (text : List Char) : Bool :=
  !(text.head?.any Text.isDecimalDigit)

theorem takeWhile_append_of_endsNumber (front : List Char) {last : List Char}
    (apart : endsNumber last) :
    (front ++ last).takeWhile Text.isDecimalDigit = front.takeWhile Text.isDecimalDigit := by
  induction front with
  | nil =>
    cases last with
    | nil => rfl
    | cons character last =>
      have other : Text.isDecimalDigit character = false := by simpa [endsNumber] using apart
      simp [other]
  | cons character front ih =>
    by_cases digit : Text.isDecimalDigit character
    · simp [digit, ih]
    · simp [digit]

theorem runs_append (front : List Char) {last : List Char} (apart : endsNumber last) :
    runs (front ++ last) = runs front ++ runs last := by
  induction front with
  | nil => rfl
  | cons character front ih =>
    by_cases dollar : character = '$'
    · rw [List.cons_append, runs, runs, if_pos dollar, if_pos dollar,
        takeWhile_append_of_endsNumber front apart, ih, List.cons_append]
    · rw [List.cons_append, runs, runs, if_neg dollar, if_neg dollar, ih]

theorem runs_append_of_not_mem {front : List Char} (plain : '$' ∉ front) (last : List Char) :
    runs (front ++ last) = runs last := by
  induction front with
  | nil => rfl
  | cons character front ih =>
    rw [List.mem_cons, not_or] at plain
    rw [List.cons_append, runs, if_neg (Ne.symm plain.1), ih plain.2]

theorem runs_of_not_mem {text : List Char} (plain : '$' ∉ text) : runs text = [] := by
  rw [← List.append_nil text, runs_append_of_not_mem plain, runs]

theorem isDecimalDigit_of_mem_toDigits (number : Nat) :
    ∀ digit ∈ Nat.toDigits 10 number, Text.isDecimalDigit digit = true := by
  intro digit member
  have digits := List.all_eq_true.1 (Number.all_isDigit_toDigits number)
  exact Text.isDecimalDigit_of_isDigit digit (digits digit member)

theorem runs_number (number : Nat) :
    runs ('$' :: Nat.toDigits 10 number) = [Nat.toDigits 10 number] := by
  have decimal := isDecimalDigit_of_mem_toDigits number
  have plain : '$' ∉ Nat.toDigits 10 number := by
    intro member
    exact absurd (decimal '$' member) (by decide)
  rw [runs, if_pos rfl, runs_of_not_mem plain, List.takeWhile_eq_self_iff.2 decimal]

theorem occurrences_eq {sql : String} {numbers : List Nat}
    (written : runs sql.toList = numbers.map (Nat.toDigits 10))
    (small : ∀ number ∈ numbers, number < Number.twoTo 64) : occurrences sql = numbers := by
  rw [occurrences, written]
  clear written
  induction numbers with
  | nil => rfl
  | cons number numbers ih =>
    rw [List.forall_mem_cons] at small
    rw [List.map_cons, List.filterMap_cons_some (Number.numeral?_toDigits small.1), ih small.2]

theorem mem_insert {number added : Nat} {numbers : List Nat} :
    number ∈ insert added numbers ↔ number = added ∨ number ∈ numbers := by
  induction numbers with
  | nil => simp [insert]
  | cons first rest ih =>
    rw [insert]
    split
    · simp
    · split <;> grind

theorem sorted_insert (added : Nat) {numbers : List Nat} (sorted : numbers.Pairwise (· < ·)) :
    (insert added numbers).Pairwise (· < ·) := by
  induction numbers with
  | nil => simp [insert]
  | cons first rest ih =>
    rw [List.pairwise_cons] at sorted
    rw [insert]
    split
    next before =>
      have all : ∀ number ∈ first :: rest, added < number := by
        intro number member
        rcases List.mem_cons.1 member with rfl | later
        · exact before
        · exact Nat.lt_trans before (sorted.1 number later)
      exact List.pairwise_cons.2 ⟨all, List.pairwise_cons.2 sorted⟩
    next notBefore =>
      split
      · exact List.pairwise_cons.2 sorted
      next different =>
        refine List.pairwise_cons.2 ⟨?_, ih sorted.2⟩
        intro number member
        rcases mem_insert.1 member with rfl | later
        · omega
        · exact sorted.1 number later

theorem numbers_eq_foldr (sql : String) : numbers sql = (occurrences sql).foldr insert [] :=
  rfl

theorem mem_numbers {number : Nat} {sql : String} :
    number ∈ numbers sql ↔ number ∈ occurrences sql := by
  rw [numbers_eq_foldr]
  induction occurrences sql with
  | nil => rfl
  | cons first rest ih => rw [List.foldr_cons, mem_insert, ih, List.mem_cons]

theorem sorted_numbers (sql : String) : (numbers sql).Pairwise (· < ·) := by
  rw [numbers_eq_foldr]
  induction occurrences sql with
  | nil => exact .nil
  | cons first rest ih => exact sorted_insert first ih

theorem numbers_eq_of_mem_iff {sql : String} {numbers : List Nat}
    (sorted : numbers.Pairwise (· < ·))
    (same : ∀ number, number ∈ occurrences sql ↔ number ∈ numbers) :
    Placeholder.numbers sql = numbers :=
  (sorted_numbers sql).eq_of_mem_iff sorted fun number => mem_numbers.trans (same number)

end Placeholder

/-- Numbers that never decrease and whose first occurrences are the `count` numbers above
`offset`. -/
structure CountsOn (offset count : Nat) (numbers : List Nat) : Prop where
  ascending : numbers.Pairwise (· ≤ ·)
  firsts : numbers.eraseDups = List.range' (offset + 1) count

namespace CountsOn

variable {offset count more : Nat} {numbers last : List Nat}

theorem mem_iff (counts : CountsOn offset count numbers) {number : Nat} :
    number ∈ numbers ↔ offset < number ∧ number ≤ offset + count := by
  rw [← List.mem_eraseDups, counts.firsts, List.mem_range'_1]
  omega

theorem nil : CountsOn offset 0 [] :=
  ⟨.nil, rfl⟩

theorem append (front : CountsOn offset count numbers)
    (behind : CountsOn (offset + count) more last) :
    CountsOn offset (count + more) (numbers ++ last) := by
  have before : ∀ number ∈ numbers, ∀ later ∈ last, number < later := by
    intro number member later laterMember
    have upper := (front.mem_iff.1 member).2
    have lower := (behind.mem_iff.1 laterMember).1
    omega
  have disjoint : last.removeAll numbers = last := by
    rw [List.removeAll, List.filter_eq_self]
    intro later laterMember
    have absent : later ∉ numbers := by
      intro member
      exact Nat.lt_irrefl later (before later member later laterMember)
    simp [absent]
  constructor
  · apply List.pairwise_append.2
    refine ⟨front.ascending, behind.ascending, ?_⟩
    intro number member later laterMember
    exact Nat.le_of_lt (before number member later laterMember)
  · rw [List.eraseDups_append, disjoint, front.firsts, behind.firsts, Nat.add_right_comm,
      List.range'_append_1]

theorem single : CountsOn offset 1 [offset + 1] :=
  ⟨List.pairwise_singleton _ _, by simp [List.eraseDups_cons]⟩

theorem again (counts : CountsOn offset (count + 1) numbers) :
    CountsOn offset (count + 1) (numbers ++ [offset + count + 1]) := by
  have known : offset + count + 1 ∈ numbers := by
    rw [counts.mem_iff]
    omega
  constructor
  · apply List.pairwise_append.2
    refine ⟨counts.ascending, List.pairwise_singleton _ _, ?_⟩
    intro number member later laterMember
    rw [List.mem_singleton.1 laterMember]
    exact (counts.mem_iff.1 member).2
  · have nothing : [offset + count + 1].removeAll numbers = [] := by simp [List.removeAll, known]
    rw [List.eraseDups_append, nothing, List.eraseDups_nil, List.append_nil, counts.firsts]

end CountsOn

namespace Placeholder

def wordDigits (number : Nat) : List Char :=
  Nat.toDigits 10 (number % Number.twoTo 64)

theorem wordDigits_of_lt {number : Nat} (small : number < Number.twoTo 64) :
    wordDigits number = Nat.toDigits 10 number := by
  rw [wordDigits, Nat.mod_eq_of_lt small]

end Placeholder

/-- A text whose dollar signs all begin decimal numbers, which count on from `offset` in words. -/
def Numbered (offset count : Nat) (text : List Char) : Prop :=
  ∃ numbers, Placeholder.runs text = numbers.map Placeholder.wordDigits ∧
    CountsOn offset count numbers

namespace Numbered

open Placeholder

variable {offset count more : Nat}

theorem of_not_mem {text : List Char} (plain : '$' ∉ text) : Numbered offset 0 text :=
  ⟨[], runs_of_not_mem plain, .nil⟩

theorem append {front last : List Char} (one : Numbered offset count front)
    (other : Numbered (offset + count) more last) (apart : endsNumber last) :
    Numbered offset (count + more) (front ++ last) := by
  obtain ⟨numbers, written, counts⟩ := one
  obtain ⟨further, alsoWritten, countsOn⟩ := other
  refine ⟨numbers ++ further, ?_, counts.append countsOn⟩
  rw [runs_append front apart, written, alsoWritten, List.map_append]

theorem append_of_not_mem {front last : List Char} (one : Numbered offset count front)
    (plain : '$' ∉ last) (apart : endsNumber last) : Numbered offset count (front ++ last) := by
  have whole := one.append (of_not_mem plain) apart
  exact whole

theorem of_not_mem_append {front last : List Char} (plain : '$' ∉ front)
    (one : Numbered offset count last) : Numbered offset count (front ++ last) := by
  obtain ⟨numbers, written, counts⟩ := one
  exact ⟨numbers, by rw [runs_append_of_not_mem plain, written], counts⟩

theorem counts_occurrences {sql : String} (numbered : Numbered offset count sql.toList)
    (fits : offset + count < Number.twoTo 64) :
    CountsOn offset count (occurrences sql) ∧
      runs sql.toList = (occurrences sql).map (Nat.toDigits 10) := by
  obtain ⟨listed, written, counts⟩ := numbered
  have small : ∀ number ∈ listed, number < Number.twoTo 64 := by
    intro number member
    have upper := (counts.mem_iff.1 member).2
    omega
  have plain : runs sql.toList = listed.map (Nat.toDigits 10) := by
    rw [written]
    exact List.map_congr_left fun number member => wordDigits_of_lt (small number member)
  have found := occurrences_eq plain small
  exact ⟨found ▸ counts, found ▸ plain⟩

theorem numbers_eq {sql : String} (numbered : Numbered offset count sql.toList)
    (fits : offset + count < Number.twoTo 64) : numbers sql = List.range' (offset + 1) count := by
  have counts := (numbered.counts_occurrences fits).1
  apply numbers_eq_of_mem_iff (List.pairwise_lt_range' _)
  intro number
  rw [← counts.firsts, List.mem_eraseDups]

end Numbered

end CardSearch.Sql
