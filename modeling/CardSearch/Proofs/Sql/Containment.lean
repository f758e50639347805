import CardSearch.Proofs.Sql.Matching
import CardSearch.Proofs.Sql.Rendering
import CardSearch.Proofs.Text.Delimiters

/-!
What the conditions on texts look for. Behind its escape a text is a pattern for itself alone, and
between percent signs for the texts that it occurs in, whatever marks of patterns it has. No escape
is left without a character at its end.
-/

namespace CardSearch.Sql

open CardSearch.Query (Leaf)

namespace Like

def Contains (fold : Char → Char) (text part : List Char) : Prop :=
  part.map fold <:+: text.map fold

/-- The pattern ends with a backslash that takes no meaning away, since pairs of backslashes stand
for one. -/
def Dangling (pattern : List Char) : Prop :=
  ¬Even (Text.backslashes pattern)

theorem items?_eq_none_iff (pattern : List Char) : items? pattern = none ↔ Dangling pattern := by
  unfold Dangling
  fun_induction items? pattern with
  | case1 => decide
  | case2 => decide
  | case3 escaped rest ih => rw [Option.map_eq_none_iff, ih, Text.even_backslashes_escaped]
  | case4 rest _ ih =>
    rw [Option.map_eq_none_iff, ih, Text.backslashes_cons_of_ne (by decide)]
  | case5 rest _ _ ih =>
    rw [Option.map_eq_none_iff, ih, Text.backslashes_cons_of_ne (by decide)]
  | case6 character rest backslash _ _ ih =>
    rw [Option.map_eq_none_iff, ih, Text.backslashes_cons_of_ne backslash]

theorem not_dangling_escapeChars (text : List Char) : ¬Dangling (escapeChars text) := by
  have read := items?_escapeChars_append text []
  rw [List.append_nil] at read
  rw [← items?_eq_none_iff, read]
  simp [items?]

theorem matched_run_cons (fold : Char → Char) (pattern text : List Char) :
    matched fold ('%' :: pattern) text ↔ ∃ last, last <:+ text ∧ matched fold pattern last := by
  have read : items? ('%' :: pattern) = (items? pattern).map (.run :: ·) := by
    rw [items?.eq_def]
    simp
  rw [matched, read]
  cases found : items? pattern with
  | none => simp [matched, found]
  | some items => simp [matched, found, fits]

theorem contains_iff (fold : Char → Char) (text part : List Char) :
    Contains fold text part ↔ ∃ last, last <:+ text ∧ Begins fold last part := by
  rw [Contains, List.infix_iff_prefix_suffix]
  constructor
  · rintro ⟨folded, begins, front, split⟩
    obtain ⟨first, last, rfl, -, rfl⟩ := List.map_eq_append_iff.1 split.symm
    exact ⟨last, List.suffix_append first last, begins⟩
  · rintro ⟨last, ends, begins⟩
    exact ⟨last.map fold, begins, ends.map fold⟩

/-- Between percent signs an escaped text is a pattern for the texts that it occurs in. -/
theorem matched_containing (fold : Char → Char) (value : String) (text : List Char) :
    matched fold (containing value).toList text ↔ Contains fold text value.toList := by
  have pattern : (containing value).toList = '%' :: (escapeChars value.toList ++ ['%']) := by
    simp [containing, escape]
  simp only [pattern, matched_run_cons, matched_escapeChars_run, contains_iff]

example : matched id (containing "a\\").toList "xa\\y".toList = true ∧
    matched id (containing "a\\").toList "xa%".toList = false := by
  decide +kernel

theorem matched_escape (text value : String) :
    matched id (escape value).toList text.toList ↔ text = value := by
  rw [escape, String.toList_ofList, matched_escapeChars, Same, List.map_id, List.map_id,
    String.toList_inj]

theorem escape_injective : Function.Injective escape := by
  intro value other same
  rw [← matched_escape, ← same, matched_escape]

end Like

namespace Predicate

open Condition

/-- The condition of a leaf ends with a comparison with a bound pattern, the placeholder of which
stands between `before` and `after`. The pattern is matched by the texts that a value occurs in, and
in a comparison that folds characters by those that it occurs in as far as the comparison sees. -/
def Finds (before after : String) (offset : Nat) (leaf : Leaf) (value : String) : Prop :=
  ∃ head slot pattern,
    (ofFilter offset (.leaf leaf)).sql = head ++ before ++ placeholder offset slot ++ after ∧
      (ofFilter offset (.leaf leaf)).params[slot]? = some (.text pattern) ∧
      (∀ text : String, Like.matched id pattern.toList text.toList ↔
        value.toList <:+: text.toList) ∧
      ∀ fold (text : String), Like.matched fold pattern.toList text.toList ↔
        Like.Contains fold text.toList value.toList

theorem finds_of_someField {before after value : String} {offset : Nat} {leaf : Leaf}
    {test : Nat → List Piece} (field : Option String)
    (same : ofLeaf leaf = someField field test (Like.containing value))
    (rendered : ∀ slot, String.join ((test slot).map (Piece.render offset)) ++ ")" =
      before ++ placeholder offset slot ++ after) :
    Finds before after offset leaf value := by
  obtain ⟨head, text⟩ := render_someField offset field test (Like.containing value)
  refine ⟨head, field.toList.length, Like.containing value, ?_, ?_, fun text => ?_,
    fun fold text => ?_⟩
  · rw [ofFilter, ofCondition, same, text, String.append_assoc, rendered]
    simp only [String.append_assoc]
  · simp [ofFilter, ofCondition, same, someField]
  · simpa only [Like.Contains, List.map_id] using Like.matched_containing id value text.toList
  · exact Like.matched_containing fold value text.toList

/-- The conditions on texts take every character of a value for itself. -/
theorem values_found_literally (offset : Nat) (value : String) :
    (∀ text : String, Like.matched id (Like.escape value).toList text.toList ↔ text = value) ∧
      (∀ field, Finds "f.value ILIKE " ")" offset (.text value field) value) ∧
      Finds "f.value ILIKE " ")" offset (.phrase value) value ∧
      Finds "unaccent(f.value) ILIKE unaccent(" "))" offset (.accentless value) value ∧
      Function.Injective Like.escape ∧ ¬Like.Dangling (Like.escape value).toList := by
  have like (slot : Nat) : String.join ((valueLike slot).map (Piece.render offset)) ++ ")" =
      "f.value ILIKE " ++ placeholder offset slot ++ ")" := by
    simp [valueLike, Piece.render]
  have accentless (slot : Nat) :
      String.join ((valueLikeAccentless slot).map (Piece.render offset)) ++ ")" =
        "unaccent(f.value) ILIKE unaccent(" ++ placeholder offset slot ++ "))" := by
    simp [valueLikeAccentless, Piece.render, String.append_assoc]
  refine ⟨fun text => Like.matched_escape text value, fun field =>
    finds_of_someField field rfl like, finds_of_someField none rfl like,
    finds_of_someField none rfl accentless, Like.escape_injective, ?_⟩
  rw [Like.escape, String.toList_ofList]
  exact Like.not_dangling_escapeChars value.toList

end Predicate

end CardSearch.Sql
