import CardSearch.Proofs.Text.Escaping
import Mathlib.Algebra.Group.Nat.Even

/-!
Which quotes of a word are delimiters. The reading of a word takes a quote as one if it opens or
closes a section, and the removal of quotes if it leaves the quote out. Backslashes in front of a
quote decide for the removal everywhere, for the reading only inside a section. So the two differ
about one kind of quote: one that opens a section behind an odd number of backslashes.
-/

namespace CardSearch.Text

def backslashes (text : List Char) : Nat :=
  (text.reverse.takeWhile (· = '\\')).length

section Backslashes

variable {character : Char}

theorem backslashes_le_length (text : List Char) : backslashes text ≤ text.length := by
  have bound : backslashes text ≤ text.reverse.length := (List.takeWhile_sublist _).length_le
  simpa using bound

theorem backslashes_cons (first : Char) (text : List Char) :
    backslashes (first :: text) =
      if first = '\\' ∧ backslashes text = text.length then text.length + 1
      else backslashes text := by
  rw [backslashes, List.reverse_cons, List.takeWhile_append, List.length_reverse]
  by_cases backslash : first = '\\'
  · simp [backslash, backslashes, apply_ite List.length]
  · simp [backslash, backslashes, apply_ite List.length, eq_comm]

theorem backslashes_cons_of_ne (ordinary : character ≠ '\\') (text : List Char) :
    backslashes (character :: text) = backslashes text := by
  rw [backslashes_cons, if_neg fun both => ordinary both.1]

/-- A backslash in front counts only if nothing but backslashes follows. -/
theorem backslashes_cons_of_mem {text : List Char} (member : character ∈ text)
    (ordinary : character ≠ '\\') (first : Char) :
    backslashes (first :: text) = backslashes text := by
  have fewer : backslashes text ≠ text.length := by
    induction text with
    | nil => cases member
    | cons second text ih =>
      rw [backslashes_cons, List.length_cons]
      have bound := backslashes_le_length text
      rcases List.mem_cons.1 member with rfl | later
      · rw [if_neg fun both => ordinary both.1]
        omega
      · rw [if_neg fun both => ih later both.2]
        omega
  rw [backslashes_cons, if_neg fun both => fewer both.2]

theorem even_backslashes_pair (text : List Char) :
    Even (backslashes ('\\' :: '\\' :: text)) ↔ Even (backslashes text) := by
  have bound := backslashes_le_length text
  rw [backslashes_cons, backslashes_cons, List.length_cons]
  by_cases all : backslashes text = text.length
  · simp [all, Nat.even_add_one]
  · have less : backslashes text ≠ text.length + 1 := by omega
    simp [all, less]

theorem even_backslashes_escaped (character : Char) (text : List Char) :
    Even (backslashes ('\\' :: character :: text)) ↔ Even (backslashes text) := by
  by_cases backslash : character = '\\'
  · rw [backslash, even_backslashes_pair]
  · rw [backslashes_cons_of_mem List.mem_cons_self backslash, backslashes_cons_of_ne backslash]

end Backslashes

/-- How a text and what follows are unquoted: apart from each other, or with the last backslash of
the text as the escape of a quote. -/
def Parts (front : List Char) : Prop :=
  Even (backslashes front) ∧ (∀ rest, unquote (front ++ rest) = unquote front ++ unquote rest) ∨
  ¬Even (backslashes front) ∧ ∃ before, unquote front = before ++ ['\\'] ∧
    ∀ rest, unquote (front ++ '"' :: rest) = before ++ '"' :: unquote rest

theorem Parts.prepend {front last : List Char} (shown : List Char) (parts : Parts last)
    (parity : Even (backslashes front) ↔ Even (backslashes last))
    (same : ∀ rest, unquote (front ++ rest) = shown ++ unquote (last ++ rest)) : Parts front := by
  have alone : unquote front = shown ++ unquote last := by simpa using same []
  rcases parts with ⟨even, apart⟩ | ⟨odd, before, ends, joined⟩
  · refine .inl ⟨parity.2 even, fun rest => ?_⟩
    rw [same, apart, alone, List.append_assoc]
  · refine .inr ⟨fun even => odd (parity.1 even), shown ++ before, ?_, fun rest => ?_⟩
    · rw [alone, ends, List.append_assoc]
    · rw [same, joined, List.append_assoc]

theorem parts (front : List Char) : Parts front := by
  fun_induction unquote front with
  | case1 => exact .inl ⟨by decide, fun rest => rfl⟩
  | case2 front ih =>
    exact ih.prepend ['"'] (even_backslashes_escaped _ _) fun rest => rfl
  | case3 front ih =>
    exact ih.prepend ['\\'] (even_backslashes_escaped _ _) fun rest => rfl
  | case4 front ih =>
    have parity := backslashes_cons_of_ne (by decide : '"' ≠ '\\') front
    exact ih.prepend [] (by rw [parity]) fun rest => rfl
  | case5 character front notEscapedQuote notEscaped notQuote ih =>
    by_cases backslash : character = '\\'
    · -- A backslash that escapes nothing stays; only at the end a quote would still use it up.
      subst backslash
      cases front with
      | nil => exact .inr ⟨by decide, [], rfl, fun rest => rfl⟩
      | cons next front =>
        have ordinary : next ≠ '\\' := fun same => notEscaped front rfl (by rw [same])
        have parity := backslashes_cons_of_mem (List.mem_cons_self (l := front)) ordinary '\\'
        apply ih.prepend ['\\'] (by rw [parity])
        intro rest
        rw [List.cons_append, List.cons_append, unquote, List.singleton_append]
        · rintro _ - same
          exact notEscapedQuote front rfl (by rw [(List.cons.inj same).1])
        · rintro _ - same
          exact ordinary (List.cons.inj same).1
        · exact notQuote
    · apply ih.prepend [character] (by rw [backslashes_cons_of_ne backslash])
      intro rest
      rw [List.cons_append, unquote, List.singleton_append]
      · exact fun _ same => absurd same backslash
      · exact fun _ same => absurd same backslash
      · exact notQuote

def Drops (front rest : List Char) : Prop :=
  unquote (front ++ '"' :: rest) = unquote front ++ unquote rest

instance (front rest : List Char) : Decidable (Drops front rest) :=
  inferInstanceAs (Decidable (_ = _))

theorem drops_iff (front rest : List Char) : Drops front rest ↔ Even (backslashes front) := by
  rcases parts front with ⟨even, apart⟩ | ⟨odd, before, ends, joined⟩
  · exact iff_of_true (apart ('"' :: rest)) even
  · have kept : ¬Drops front rest := by
      simp [Drops, ends, joined]
    exact iff_of_false kept odd

namespace Word

/-- Whether a section is open behind a text, so that a word could not end there. -/
def InSection (front : List Char) : Prop :=
  ∃ opened, read none front = .error opened

instance (front : List Char) : Decidable (InSection front) :=
  match result : read none front with
  | .error opened => .isTrue ⟨opened, result⟩
  | .ok _ => .isFalse fun ⟨_, failed⟩ => by cases result.symm.trans failed

def Delimits (front : List Char) : Prop :=
  ¬(InSection (front ++ ['"']) ↔ InSection front)

instance (front : List Char) : Decidable (Delimits front) :=
  inferInstanceAs (Decidable ¬_)

theorem exists_map_eq_error_iff {result : Except (List Char) Word} {change : Word → Word} :
    (∃ kept, result.map change = .error kept) ↔ ∃ kept, result = .error kept := by
  simp only [Fallible.map_eq_error_iff]

/-- Inside a section a quote is passed over behind an odd number of backslashes. The text kept for
the section may be any, since a section that opens in the front is kept with the quote behind it. -/
theorem passes_iff {opened other : Option (List Char)} {front kept : List Char}
    (failed : read opened front = .error kept) (same : other.isSome = opened.isSome) :
    (∃ kept, read other (front ++ ['"']) = .error kept) ↔ ¬Even (backslashes front) := by
  fun_induction read opened front generalizing other with
  | case1 | case2 => cases failed
  | case3 rest inside ih =>
    obtain rfl := Option.isNone_iff_eq_none.1 (Option.isSome_eq_false_iff.1 same)
    have later := Fallible.map_eq_error_iff.1 failed
    have passes : (∃ kept, read (some ('"' :: (rest ++ ['"']))) (rest ++ ['"']) = .error kept) ↔ _ :=
      ih later rfl
    rw [List.cons_append, read, if_neg inside, if_pos rfl, exists_map_eq_error_iff, passes,
      backslashes_cons_of_ne (by decide)]
  | case4 character rest inside unquoted ih =>
    obtain rfl := Option.isNone_iff_eq_none.1 (Option.isSome_eq_false_iff.1 same)
    have later := Fallible.map_eq_error_iff.1 failed
    -- The section is opened further on, so what stands here is not counted.
    have quote : '"' ∈ rest := by
      rcases suffix_of_error later with none | ⟨suffix, first⟩
      · cases none
      · exact suffix.subset (List.mem_of_mem_head? first)
    rw [List.cons_append, read, if_neg inside, if_neg unquoted, exists_map_eq_error_iff,
      ih later rfl, backslashes_cons_of_mem quote (by decide)]
  | case5 opened =>
    obtain ⟨kept, rfl⟩ := Option.isSome_iff_exists.1 same
    have closes : read (some kept) ['"'] = .ok ⟨['"'], []⟩ := rfl
    simp [closes, backslashes]
  | case6 opened escaped rest ih =>
    obtain ⟨kept, rfl⟩ := Option.isSome_iff_exists.1 same
    have later := Fallible.map_eq_error_iff.1 failed
    have passes : (∃ error, read (some kept) (rest ++ ['"']) = .error error) ↔ _ := ih later rfl
    rw [List.cons_append, List.cons_append, read, exists_map_eq_error_iff, passes,
      even_backslashes_escaped]
  | case7 opened character rest single ih =>
    obtain ⟨kept, rfl⟩ := Option.isSome_iff_exists.1 same
    have later := Fallible.map_eq_error_iff.1 failed
    by_cases backslash : character = '\\'
    · subst backslash
      cases rest with
      | nil => exact iff_of_true ⟨kept, rfl⟩ (by decide)
      | cons escaped rest => exact absurd rfl (single escaped rest rfl)
    · have passes : (∃ error, read (if character = '"' then none else some kept) (rest ++ ['"']) =
          .error error) ↔ _ := ih later (by split <;> rfl)
      rw [List.cons_append, read, exists_map_eq_error_iff, passes,
        backslashes_cons_of_ne backslash]
      exact fun _ _ same => absurd same backslash

variable {text front rest : List Char} {word : Word}

theorem read_front (found : read none text = .ok word) (split : word.source = front ++ rest)
    (outside : ¬InSection front) : read none front = .ok ⟨front, []⟩ := by
  cases same : read none front with
  | error kept => exact absurd ⟨kept, same⟩ outside
  | ok inner =>
    have whole := source_append_after same
    have goesOn := read_append_eq_extended same rfl (rest ++ word.after)
    rw [← List.append_assoc, ← split, source_append_after found, found, extended] at goesOn
    by_cases complete : inner.after = []
    · rw [complete, List.append_nil] at whole
      rw [← whole, ← complete]
    · -- A word that ended inside the front would be the whole word.
      rw [if_neg complete, Except.ok.injEq] at goesOn
      have lengths := congrArg List.length ((congrArg source goesOn).symm.trans split)
      have shorter := congrArg List.length whole
      have positive := List.length_pos_iff.2 complete
      simp only [List.length_append] at lengths shorter
      omega

/-- A quote of a word is a delimiter if it opens a section, or if the backslashes in front of it
are even in number. -/
theorem delimits_iff (found : read none text = .ok word)
    (split : word.source = front ++ '"' :: rest) :
    Delimits front ↔ (InSection front → Even (backslashes front)) := by
  by_cases inside : InSection front
  · obtain ⟨kept, failed⟩ := inside
    have passes : InSection (front ++ ['"']) ↔ ¬Even (backslashes front) := passes_iff failed rfl
    have here : InSection front := ⟨kept, failed⟩
    simp [Delimits, passes, here]
  · have front := read_front found split inside
    have opens : InSection (_ ++ ['"']) := ⟨['"'], read_append_eq_extended front rfl ['"']⟩
    simp [Delimits, opens, inside]

end Word

end CardSearch.Text
