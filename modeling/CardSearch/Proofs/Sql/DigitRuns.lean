import CardSearch.Proofs.Sql.Placeholders

/-!
The placeholders of any text. A number is found where a dollar sign has ASCII digits behind it that
no digit of any script continues, and a word of 64 bits holds it; other runs of digits count for
nothing. No run holds a dollar sign, so nothing is lost when the placeholders are looked for one
behind the other, and texts can be searched apart where no run goes across.
-/

namespace CardSearch.Sql.Placeholder

variable {text before digits after : List Char} {found : List (List Char)} {number : Nat}

/-- All the digits in front of a text that begins with none. -/
structure IsRun (digits after : List Char) : Prop where
  decimal : digits.all Text.isDecimalDigit
  ends : endsNumber after

theorem isRun_takeWhile (text : List Char) :
    IsRun (text.takeWhile Text.isDecimalDigit) (text.dropWhile Text.isDecimalDigit) := by
  constructor
  case decimal => exact List.all_takeWhile
  case ends =>
    have first := List.head?_dropWhile_not Text.isDecimalDigit text
    rw [endsNumber]
    cases behind : text.dropWhile Text.isDecimalDigit with
    | nil => rfl
    | cons character rest =>
      rw [behind] at first
      simpa using first

theorem endsNumber_dollar (text : List Char) : endsNumber ('$' :: text) := by
  have other : Text.isDecimalDigit '$' = false := by decide
  simp [endsNumber, other]

namespace IsRun

theorem takeWhile_eq (run : IsRun digits after) :
    (digits ++ after).takeWhile Text.isDecimalDigit = digits := by
  rw [takeWhile_append_of_endsNumber digits run.ends, List.takeWhile_eq_self_iff]
  exact List.all_eq_true.1 run.decimal

theorem dollar_not_mem (run : IsRun digits after) : '$' ∉ digits := by
  intro member
  have digit := List.all_eq_true.1 run.decimal '$' member
  exact absurd digit (by decide)

theorem runs_split (run : IsRun digits after) (before : List Char) :
    runs (before ++ '$' :: (digits ++ after)) = runs before ++ digits :: runs after := by
  rw [runs_append before (endsNumber_dollar _), runs, if_pos rfl, run.takeWhile_eq,
    runs_append_of_not_mem run.dollar_not_mem]

end IsRun

theorem mem_runs_iff : digits ∈ runs text ↔
    ∃ before after, text = before ++ '$' :: (digits ++ after) ∧ IsRun digits after := by
  constructor
  · intro member
    induction text with
    | nil => cases member
    | cons character text ih =>
      rw [runs] at member
      by_cases dollar : character = '$'
      · rw [if_pos dollar, List.mem_cons] at member
        rcases member with rfl | later
        · refine ⟨[], _, ?_, isRun_takeWhile text⟩
          rw [List.takeWhile_append_dropWhile, dollar, List.nil_append]
        · obtain ⟨before, after, rfl, run⟩ := ih later
          exact ⟨character :: before, after, rfl, run⟩
      · rw [if_neg dollar] at member
        obtain ⟨before, after, rfl, run⟩ := ih member
        exact ⟨character :: before, after, rfl, run⟩
  · rintro ⟨before, after, rfl, run⟩
    rw [run.runs_split]
    exact List.mem_append_right _ List.mem_cons_self

theorem mem_numbers_iff {sql : String} : number ∈ numbers sql ↔
    ∃ digits ∈ runs sql.toList, Number.IsNumeral digits number ∧ number < 2 ^ 64 := by
  rw [mem_numbers, occurrences, List.mem_filterMap]
  simp only [Number.numeral?_eq_some_iff]
  rfl

theorem mem_numbers_append {front last : String} (apart : endsNumber last.toList) :
    number ∈ numbers (front ++ last) ↔ number ∈ numbers front ∨ number ∈ numbers last := by
  rw [mem_numbers, mem_numbers, mem_numbers, occurrences, String.toList_append,
    runs_append _ apart, List.filterMap_append, List.mem_append]
  rfl

theorem toList_split (before digits after : String) :
    (before ++ "$" ++ digits ++ after).toList =
      before.toList ++ '$' :: (digits.toList ++ after.toList) := by
  simp

theorem IsRun.mem_numbers_split {before digits after : String}
    (run : IsRun digits.toList after.toList) :
    number ∈ numbers (before ++ "$" ++ digits ++ after) ↔ number ∈ numbers before ∨
      Number.IsNumeral digits.toList number ∧ number < 2 ^ 64 ∨ number ∈ numbers after := by
  rw [mem_numbers_iff, mem_numbers_iff, mem_numbers_iff, toList_split, run.runs_split]
  simp only [List.mem_append, List.mem_cons, or_and_right, exists_or, exists_eq_left]

/-- Digits that count for nothing: one of another script is among them, or 64 bits do not hold their
number. -/
def Unread (digits : List Char) : Prop :=
  ¬digits.all Char.isDigit ∨ ∃ number, Number.IsNumeral digits number ∧ 2 ^ 64 ≤ number

theorem Unread.not_isNumeral (unread : Unread digits) :
    ¬(Number.IsNumeral digits number ∧ number < 2 ^ 64) := by
  rintro ⟨numeral, small⟩
  rcases unread with foreign | ⟨other, also, large⟩
  · exact foreign numeral.digits
  · have same : other = number := also.value.symm.trans numeral.value
    omega

def opens : List Char → Bool
  | '$' :: character :: _ => Text.isDecimalDigit character
  | _ => false

/-- The runs of digits that are found one behind the other: each behind the first dollar sign that
can begin a placeholder, with all its digits, and the next one only behind it. -/
inductive Found : List Char → List (List Char) → Prop where
  | nothing {text : List Char} (nowhere : ∀ rest, rest <:+ text → opens rest = false) :
      Found text []
  | next {before digits after : List Char} {found : List (List Char)}
      (first : ∀ rest, rest <:+ before ++ '$' :: (digits ++ after) → opens rest →
        rest.length ≤ ('$' :: (digits ++ after)).length)
      (some : digits ≠ []) (run : IsRun digits after) (more : Found after found) :
      Found (before ++ '$' :: (digits ++ after)) (digits :: found)

theorem opens_append (text : List Char) (more : List Char) (opening : opens text) :
    opens (text ++ more) := by
  unfold opens at opening
  split at opening
  next => exact opening
  next => cases opening

theorem filter_runs_of_nowhere (nowhere : ∀ rest, rest <:+ text → opens rest = false) :
    (runs text).filter (· ≠ []) = [] := by
  induction text with
  | nil => rfl
  | cons character text ih =>
    have here := nowhere _ (List.suffix_refl _)
    have later := ih fun rest suffix => nowhere rest (suffix.trans (List.suffix_cons _ _))
    rw [runs]
    by_cases dollar : character = '$'
    · subst dollar
      have empty : text.takeWhile Text.isDecimalDigit = [] := by
        cases text with
        | nil => rfl
        | cons next text =>
          have other : Text.isDecimalDigit next = false := here
          rw [List.takeWhile_cons, other]
          rfl
      rw [if_pos rfl, empty, List.filter_cons_of_neg (by simp), later]
    · rw [if_neg dollar, later]

namespace Found

theorem nowhere_before {last : List Char}
    (first : ∀ rest, rest <:+ before ++ last → opens rest → rest.length ≤ last.length) :
    ∀ rest, rest <:+ before → opens rest = false := by
  intro rest suffix
  by_contra opening
  rw [Bool.not_eq_false] at opening
  -- It would begin a longer ending of the whole text, in front of the first placeholder.
  have extended : rest ++ last <:+ before ++ last := by
    obtain ⟨front, rfl⟩ := suffix
    rw [List.append_assoc]
    exact List.suffix_append _ _
  have whole := first (rest ++ last) extended (opens_append rest last opening)
  rw [List.length_append] at whole
  obtain rfl : rest = [] := List.length_eq_zero_iff.1 (by omega)
  cases opening

/-- The runs found one behind the other are the runs behind any dollar sign, less the empty ones. -/
theorem eq_filter_runs (search : Found text found) : found = (runs text).filter (· ≠ []) := by
  induction search with
  | nothing nowhere => exact (filter_runs_of_nowhere nowhere).symm
  | next first some run more ih =>
    rw [run.runs_split, List.filter_append, filter_runs_of_nowhere (nowhere_before first),
      List.nil_append, List.filter_cons_of_pos (by simpa using some), ← ih]

theorem mem_numbers_iff {sql : String} (search : Found sql.toList found) :
    number ∈ numbers sql ↔
      ∃ digits ∈ found, Number.IsNumeral digits number ∧ number < 2 ^ 64 := by
  rw [Placeholder.mem_numbers_iff, search.eq_filter_runs]
  simp only [List.mem_filter, decide_eq_true_eq]
  constructor
  · rintro ⟨digits, member, numeral, small⟩
    exact ⟨digits, ⟨member, numeral.nonempty⟩, numeral, small⟩
  · rintro ⟨digits, ⟨member, -⟩, numeral, small⟩
    exact ⟨digits, member, numeral, small⟩

end Found

theorem nowhere_or_exists_first (text : List Char) :
    (∀ rest, rest <:+ text → opens rest = false) ∨
      ∃ before last, text = before ++ last ∧ opens last ∧
        ∀ rest, rest <:+ text → opens rest → rest.length ≤ last.length := by
  induction text with
  | nil =>
    left
    intro rest suffix
    rw [List.suffix_nil.1 suffix]
    rfl
  | cons character text ih =>
    by_cases here : opens (character :: text)
    · right
      exact ⟨[], _, rfl, here, fun rest suffix _ => suffix.length_le⟩
    rcases ih with nowhere | ⟨before, last, rfl, opening, first⟩
    · left
      intro rest suffix
      rcases List.suffix_cons_iff.1 suffix with rfl | later
      · simpa using here
      · exact nowhere rest later
    · right
      refine ⟨character :: before, last, rfl, opening, ?_⟩
      intro rest suffix starts
      rcases List.suffix_cons_iff.1 suffix with rfl | later
      · exact absurd starts here
      · exact first rest later starts

theorem exists_run_of_opens (opening : opens text) :
    ∃ digits after, text = '$' :: (digits ++ after) ∧ digits ≠ [] ∧ IsRun digits after := by
  unfold opens at opening
  split at opening
  next character rest =>
    refine ⟨_, _, ?_, ?_, isRun_takeWhile (character :: rest)⟩
    · rw [List.takeWhile_append_dropWhile]
    · simp [opening]
  next => cases opening

theorem exists_found (text : List Char) : ∃ found, Found text found := by
  induction size : text.length using Nat.strong_induction_on generalizing text with
  | _ size ih =>
    rcases nowhere_or_exists_first text with nowhere | ⟨before, last, rfl, opening, first⟩
    · exact ⟨[], .nothing nowhere⟩
    · obtain ⟨digits, after, rfl, some, run⟩ := exists_run_of_opens opening
      simp only [List.length_append, List.length_cons] at size
      obtain ⟨found, more⟩ := ih after.length (by omega) after rfl
      exact ⟨digits :: found, .next first some run more⟩

/-- The numbers of a text are those of its whole runs of ASCII digits behind dollar signs, as far as
64 bits hold them, and these are the runs that a search from left to right finds. Any other run
counts for nothing, and a text can be cut wherever no run goes across. -/
theorem numbers_exact_scan (sql : String) :
    (numbers sql).Pairwise (· < ·) ∧
      (∃ found, Found sql.toList found) ∧
      (∀ found, Found sql.toList found → ∀ number, number ∈ numbers sql ↔
        ∃ digits ∈ found, Number.IsNumeral digits number ∧ number < 2 ^ 64) ∧
      (∀ number, number ∈ numbers sql ↔ number < 2 ^ 64 ∧ ∃ before digits after : String,
        sql = before ++ "$" ++ digits ++ after ∧ IsRun digits.toList after.toList ∧
          Number.IsNumeral digits.toList number) ∧
      (∀ before digits after : String, sql = before ++ "$" ++ digits ++ after →
        IsRun digits.toList after.toList → Unread digits.toList →
          ∀ number, number ∈ numbers sql ↔ number ∈ numbers before ∨ number ∈ numbers after) ∧
      ∀ other : String, endsNumber other.toList →
        ∀ number, number ∈ numbers (sql ++ other) ↔ number ∈ numbers sql ∨ number ∈ numbers other := by
  refine ⟨sorted_numbers sql, exists_found sql.toList, ?_, ?_, ?_, ?_⟩
  · intro found search number
    exact search.mem_numbers_iff
  · intro number
    rw [mem_numbers_iff]
    constructor
    · rintro ⟨digits, member, numeral, small⟩
      obtain ⟨before, after, split, run⟩ := mem_runs_iff.1 member
      refine ⟨small, String.ofList before, String.ofList digits, String.ofList after, ?_, ?_, ?_⟩
      · apply String.toList_inj.1
        rw [toList_split, split]
        simp only [String.toList_ofList]
      · simpa only [String.toList_ofList] using run
      · rwa [String.toList_ofList]
    · rintro ⟨small, before, digits, after, rfl, run, numeral⟩
      refine ⟨digits.toList, mem_runs_iff.2 ⟨before.toList, after.toList, ?_, run⟩, numeral, small⟩
      rw [toList_split]
  · rintro before digits after rfl run unread number
    rw [run.mem_numbers_split]
    simp only [unread.not_isNumeral, false_or]
  · intro other apart number
    exact mem_numbers_append apart

theorem numbers_exact_scan_other_script :
    let before := "$$12 $007"
    let digits := "3\u0663"
    let after := " $18446744073709551616 $5"
    let sql := before ++ "$" ++ digits ++ after
    IsRun digits.toList after.toList ∧ Unread digits.toList ∧ endsNumber ")$9".toList ∧
      numbers sql = [5, 7, 12] ∧
      (∀ number, number ∈ numbers sql ↔ number ∈ numbers before ∨ number ∈ numbers after) ∧
      ∀ number, number ∈ numbers (sql ++ ")$9") ↔ number ∈ numbers sql ∨ number ∈ numbers ")$9" := by
  intro before digits after sql
  have run : IsRun digits.toList after.toList := ⟨by decide +kernel, by decide +kernel⟩
  have unread : Unread digits.toList := .inl (by decide +kernel)
  have apart : endsNumber ")$9".toList := by decide +kernel
  have listed : numbers sql = [5, 7, 12] := by decide +kernel
  obtain ⟨-, -, -, -, cut, joined⟩ := numbers_exact_scan sql
  exact ⟨run, unread, apart, listed, cut before digits after rfl run unread, joined ")$9" apart⟩

end CardSearch.Sql.Placeholder
