import CardSearch.Proofs.Query.FaultCauses
import CardSearch.Proofs.Query.LeafReading

/-!
Queries that are one clause. A clause takes exactly the values of its grammar and means what they
say; with any other value it is an error for the cause of its kind, and all of the clause is at
fault.
-/

namespace CardSearch.Query

open CardSearch.Number (IsNumeral)
open CardSearch.Text.Word (isBare)

def Leaf.alone (leaf : Leaf) (query : String) : List Lexeme :=
  [⟨.leaf leaf, 0, query⟩, ⟨.finish, query.length, ""⟩]

theorem lexemes_kind {keyword : String} {kind : ClauseKind}
    (known : (keyword, kind) ∈ ClauseKind.vocabulary) {value : String}
    (bare : value.toList.all isBare) :
    lexemes (keyword ++ ":" ++ value) = match Leaf.readClause kind value.toList with
      | .ok leaf => .ok (leaf.alone (keyword ++ ":" ++ value))
      | .error fault => .error ⟨fault, keyword ++ ":" ++ value, 0⟩ := by
  have written : keyword ++ ":" ++ value =
      String.ofList (clause keyword.toList value.toList) := by
    rw [← String.toList_inj]
    simp [clause]
  have goes := Text.Word.goesThrough_of_bare bare
  have apart : StandsApart [] := standsApart_of_blank rfl
  rw [written]
  cases reads : Leaf.readClause kind value.toList with
  | ok leaf =>
    rw [lexemes_single (spelled_kind kind known goes reads apart)]
    simp only [Leaf.alone, String.length_ofList]
  | error fault =>
    obtain ⟨nonempty, named, dash, -, -⟩ := ClauseKind.name_of_mem known
    apply lexemes_single_of_fault (isWord_clause nonempty named dash goes apart)
    rw [Token.ofWord_clause, Leaf.read_kind known, reads]
    rfl

/-- A clause means a leaf exactly with the values given for the leaf, and otherwise it is at fault
as a whole. The values go to the end of a word: they have no blanks, parentheses or quotes. -/
structure TakesExactly (keyword : String) (values : List Char → Leaf → Prop) (cause : Cause) :
    Prop where
  accepts : ∀ value : String, value.toList.all isBare → ∀ leaf : Leaf,
    lexemes (keyword ++ ":" ++ value) = .ok (leaf.alone (keyword ++ ":" ++ value)) ↔
      values value.toList leaf
  refuses : ∀ value : String, value.toList.all isBare → (∀ leaf, ¬values value.toList leaf) →
    ∃ fault : Fault, fault.cause = cause ∧
      lexemes (keyword ++ ":" ++ value) = .error ⟨fault, keyword ++ ":" ++ value, 0⟩

theorem takesExactly_of_readClause {keyword : String} (kind : ClauseKind) {cause : Cause}
    {values : List Char → Leaf → Prop} (known : (keyword, kind) ∈ ClauseKind.vocabulary)
    (failure : kind.cause? = some cause)
    (reads : ∀ value leaf, Leaf.readClause kind value = .ok leaf ↔ values value leaf) :
    TakesExactly keyword values cause := by
  constructor
  case accepts =>
    intro value bare leaf
    rw [lexemes_kind known bare, ← reads]
    cases Leaf.readClause kind value.toList <;> simp [Leaf.alone]
  case refuses =>
    intro value bare none
    have whole := lexemes_kind known bare
    cases result : Leaf.readClause kind value.toList with
    | ok leaf => exact absurd ((reads _ _).1 result) (none leaf)
    | error fault =>
      rw [result] at whole
      have cause := Leaf.cause_of_readClause result
      rw [failure] at cause
      exact ⟨fault, (Option.some.inj cause).symm, whole⟩

/-- The clauses with whole numbers take ASCII digits only, with any zeros in front, and no number
out of range. -/
theorem numeric_clauses_take_exactly :
    TakesExactly "flag" IsFlag .invalidFlag ∧
      TakesExactly "added" (IsWindow .added) .invalidDate ∧
      TakesExactly "rated" (IsWindow .rated) .invalidDate := by
  refine ⟨?_, ?_, ?_⟩
  · exact takesExactly_of_readClause .flag (by decide) rfl fun _ _ => Leaf.readFlag_eq_ok_iff
  · exact takesExactly_of_readClause (.date .added) (by decide) rfl
      fun _ _ => Leaf.readDate_eq_ok_iff
  · exact takesExactly_of_readClause (.date .rated) (by decide) rfl
      fun _ _ => Leaf.readDate_eq_ok_iff

theorem numeric_clauses_take_exactly_edges :
    lexemes "flag:007" = .ok (Leaf.alone (.flag 7) "flag:007") ∧
      lexemes "rated:00:04" =
        .ok (Leaf.alone (.date ⟨.rated, 0, some .easy⟩) "rated:00:04") ∧
      ∃ fault : Fault, fault.cause = .invalidDate ∧
        lexemes "added:4294967296" = .error ⟨fault, "added:4294967296", 0⟩ := by
  obtain ⟨flag, added, rated⟩ := numeric_clauses_take_exactly
  refine ⟨?_, ?_, ?_⟩
  · have seven : IsNumeral "007".toList 7 := ⟨by decide, by decide, by decide⟩
    exact (flag.accepts "007" (by decide) _).2 ⟨7, by decide, seven, rfl⟩
  · have days : IsDayCount "00".toList 0 := ⟨⟨by decide, by decide, by decide⟩, by decide⟩
    have easy : IsNumeral "04".toList Rating.easy.number := ⟨by decide, by decide, by decide⟩
    exact (rated.accepts "00:04" (by decide) _).2 (.rated days easy)
  · apply added.refuses "4294967296" (by decide)
    intro leaf window
    have reads := Leaf.readDate_eq_ok_iff.2 window
    have fails : Leaf.readDate .added "4294967296".toList =
        .error (.invalidDays .added "4294967296") := by decide
    rw [fails] at reads
    cases reads

theorem isBare_of_toLower {character : Char} (bare : isBare character.toLower) :
    isBare character := by
  unfold Char.toLower at bare
  split at bare
  next upper =>
    obtain ⟨above, below⟩ := upper
    apply isBare_of_ascii
    · exact Nat.lt_of_lt_of_le (by decide) above
    · exact Nat.lt_of_le_of_lt below (by decide)
  next => exact bare

theorem PropertyClause.bare (clause : PropertyClause) : clause.text.all isBare := by
  have keywords : ∀ entry ∈ Property.vocabulary, entry.1.toList.all isBare := by decide
  have symbol : clause.comparison.symbol.toList.all isBare := by
    cases clause.comparison <;> decide
  have name : clause.name.all isBare := by
    rw [List.all_eq_true]
    intro character member
    obtain ⟨entry, known, letter⟩ := clause.toLower_mem member
    exact isBare_of_toLower (List.all_eq_true.1 (keywords entry known) _ letter)
  have literal : clause.literal.all isBare := by
    have marks := List.all_eq_true.1 (Number.all_of_real? clause.reads)
    rw [List.all_eq_true]
    exact fun character member => isBare_of_isLiteral (marks character member)
  rw [text, List.all_append, List.all_append, name, symbol, literal]
  rfl

/-- A clause for a property has one reading. It is read for every keyword in any letter case, every
comparison and every literal for a finite number, and any other clause is at fault; the parts of a
clause are settled by its text, and its comparison is the first in it. -/
theorem property_clause_has_one_reading :
    (∀ clause : PropertyClause, lexemes ("prop" ++ ":" ++ String.ofList clause.text) =
      .ok (clause.leaf.alone ("prop" ++ ":" ++ String.ofList clause.text))) ∧
    TakesExactly "prop" IsComparison .invalidProperty ∧
    (∀ one other : PropertyClause, one.text = other.text → one = other) ∧
    ∀ clause : PropertyClause, clause.comparison.IsFirst clause.name clause.literal := by
  have exactly : TakesExactly "prop" IsComparison .invalidProperty :=
    takesExactly_of_readClause .property (by decide) rfl fun _ _ => Leaf.readProperty_eq_ok_iff
  refine ⟨fun clause => ?_, exactly, fun _ _ => PropertyClause.eq_of_text_eq, ?_⟩
  · have bare : (String.ofList clause.text).toList.all isBare := by
      rw [String.toList_ofList]
      exact clause.bare
    apply (exactly.accepts _ bare clause.leaf).2
    exact ⟨clause, String.toList_ofList.symm, rfl⟩
  · exact PropertyClause.isFirst

theorem property_clause_has_one_reading_mixed :
    lexemes "prop:IvL>=-1.5e2" =
        .ok (Leaf.alone (.property .interval .atLeast ⟨0xC062C00000000000⟩) "prop:IvL>=-1.5e2") ∧
      ∃ fault : Fault, fault.cause = .invalidProperty ∧
        lexemes "prop:ivl=>10" = .error ⟨fault, "prop:ivl=>10", 0⟩ := by
  obtain ⟨accepts, exactly, -, -⟩ := property_clause_has_one_reading
  constructor
  · have reads : Number.real? "-1.5e2".toList = some ⟨0xC062C00000000000⟩ := by decide
    have written : "prop" ++ ":" ++ String.ofList
        ("IvL".toList ++ (Comparison.atLeast.symbol.toList ++ "-1.5e2".toList)) =
          "prop:IvL>=-1.5e2" := by decide
    rw [← written]
    exact accepts ⟨_, .interval, _, _, _, by decide, reads⟩
  · apply exactly.refuses "ivl=>10" (by decide)
    rintro leaf ⟨clause, text, -⟩
    have parts := clause.splitComparison?_text
    have equals : splitComparison? "ivl=>10".toList =
        some ("ivl".toList, .equal, ">10".toList) := by decide
    rw [text, equals, Option.some.injEq, Prod.mk.injEq, Prod.mk.injEq] at parts
    obtain ⟨-, -, literal⟩ := parts
    have none : Number.real? ">10".toList = none := by decide
    have reads := clause.reads
    rw [← literal, none] at reads
    cases reads

end CardSearch.Query
