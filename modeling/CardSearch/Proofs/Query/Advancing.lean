import CardSearch.Proofs.Query.FaultCauses
import CardSearch.Proofs.Query.Scanning
import Mathlib.Logic.Function.Iterate

/-!
Reads of a query one behind the other, past every error. The cursor never leaves the query, and
every read but the one at the end moves it on. So as many reads as the query has characters take it
to the end, and there it stays.
-/

namespace CardSearch.Query

namespace Cursor

structure StandsIn (cursor : Cursor) (text : List Char) : Prop where
  inside : cursor.position ≤ text.length
  rest : cursor.rest = text.drop cursor.position

structure SkipsTo (cursor : Cursor) (text : List Char) (start : Nat) : Prop where
  forward : cursor.position ≤ start
  blank : (text.extract cursor.position start).all Text.isBlank
  visible : ∀ character ∈ text[start]?, Text.isBlank character = false

end Cursor

structure Slice (text : List Char) (start stop : Nat) (source : List Char) : Prop where
  forward : start < stop
  inside : stop ≤ text.length
  covers : text.extract start stop = source

/-- What a read finds at a place of a text, and where it stops. A token or a word that cannot be
understood begins there; so does the word with a quote that is never closed. -/
inductive Finds (text : List Char) (start : Nat) : Except SyntaxError Lexeme → Nat → Prop where
  | finish (last : start = text.length) :
      Finds text start (.ok ⟨.finish, text.length, ""⟩) text.length
  | token {token : Token} {stop : Nat} {source : List Char} (unfinished : token ≠ .finish)
      (slice : Slice text start stop source) :
      Finds text start (.ok ⟨token, start, String.ofList source⟩) stop
  | fault {fault : Fault} {stop : Nat} {source : List Char} (closed : fault ≠ .unclosedQuote)
      (slice : Slice text start stop source) :
      Finds text start (.error ⟨fault, String.ofList source, start⟩) stop
  | unclosed {quote : Nat} {source : List Char} (behind : start ≤ quote)
      (slice : Slice text quote text.length source) :
      Finds text start (.error ⟨.unclosedQuote, String.ofList source, quote⟩) text.length

namespace Finds

variable {text : List Char} {start stop : Nat} {result : Except SyntaxError Lexeme}

theorem finish_or_lt_stop (finds : Finds text start result stop) :
    result = .ok ⟨.finish, text.length, ""⟩ ∧ stop = text.length ∨ start < stop := by
  cases finds with
  | finish last => exact .inl ⟨rfl, rfl⟩
  | token _ slice | fault _ slice => exact .inr slice.forward
  | unclosed behind slice => exact .inr (Nat.lt_of_le_of_lt behind slice.forward)

theorem stop_of_unclosedQuote {error : SyntaxError} (finds : Finds text start (.error error) stop)
    (unclosed : error.fault = .unclosedQuote) : stop = text.length := by
  cases finds with
  | fault closed => exact absurd unclosed closed
  | unclosed => rfl

end Finds

namespace Cursor

variable {cursor : Cursor} {text source rest blanks : List Char}

namespace StandsIn

theorem length_rest (stands : cursor.StandsIn text) :
    cursor.position + cursor.rest.length = text.length := by
  have inside := stands.inside
  rw [stands.rest, List.length_drop]
  omega

theorem past (stands : cursor.StandsIn text) (split : cursor.rest = source ++ rest) :
    (cursor.past source rest).StandsIn text := by
  have whole := stands.length_rest
  rw [split, List.length_append] at whole
  refine ⟨by simp only [Cursor.past]; omega, ?_⟩
  rw [Cursor.past, ← List.drop_drop, ← stands.rest, split, List.drop_left]

theorem finish (stands : cursor.StandsIn text) : cursor.finish.StandsIn text :=
  stands.past (List.append_nil _).symm

theorem extract (stands : cursor.StandsIn text) (split : cursor.rest = source ++ rest) :
    text.extract cursor.position (cursor.past source rest).position = source := by
  simp [Cursor.past, ← stands.rest, split]

theorem skipsTo (stands : cursor.StandsIn text) (blank : blanks.all Text.isBlank)
    (visible : ∀ character ∈ rest.head?, Text.isBlank character = false)
    (split : cursor.rest = blanks ++ rest) :
    cursor.SkipsTo text (cursor.past blanks rest).position := by
  refine ⟨Nat.le_add_right _ _, ?_, ?_⟩
  · rw [stands.extract split]
    exact blank
  · rw [← List.head?_drop, ← (stands.past split).rest]
    exact visible

theorem slice (stands : cursor.StandsIn text) (written : source ≠ [])
    (split : cursor.rest = source ++ rest) :
    Slice text cursor.position (cursor.past source rest).position source :=
  ⟨Nat.lt_add_of_pos_right (List.length_pos_iff.2 written), (stands.past split).inside,
    stands.extract split⟩

theorem slice_rest (stands : cursor.StandsIn text) (written : cursor.rest ≠ []) :
    Slice text cursor.position text.length cursor.rest := by
  have slice := stands.slice written (List.append_nil _).symm
  rw [← stands.length_rest]
  exact slice

end StandsIn

theorem standsIn_of_scans (stands : cursor.StandsIn text)
    {outcome : Except SyntaxError Lexeme × Cursor} (scans : Scans cursor outcome) :
    outcome.2.StandsIn text := by
  cases scans with
  | finish | unclosed => exact stands.finish
  | token _ _ split | fault _ _ _ split => exact stands.past (by simpa using split)

theorem exists_finds_of_scans (stands : cursor.StandsIn text)
    {outcome : Except SyntaxError Lexeme × Cursor} (scans : Scans cursor outcome) :
    ∃ start, cursor.SkipsTo text start ∧ Finds text start outcome.1 outcome.2.position := by
  have whole := stands.length_rest
  cases scans with
  | finish blank =>
    have skips := stands.skipsTo blank (by simp) (List.append_nil _).symm
    have found := Finds.finish whole
    rw [← whole] at found
    exact ⟨_, skips, found⟩
  | token blank spelled split =>
    have skips := stands.skipsTo blank (visible_of_spelled spelled) split
    have slice := (stands.past split).slice spelled.source_ne_nil rfl
    rw [past_past] at slice
    exact ⟨_, skips, .token spelled.ne_finish slice⟩
  | fault blank word wrong split =>
    have skips := stands.skipsTo blank (visible_of_beginsWord word.begins) split
    have slice := (stands.past split).slice word.source_ne_nil rfl
    rw [past_past] at slice
    have known := (Token.cause_of_ofWord wrong).2
    exact ⟨_, skips, .fault (fun same => known (congrArg Fault.cause same)) slice⟩
  | @unclosed blanks front opened blank visible quote split =>
    have skips := stands.skipsTo blank visible split
    have written : opened ≠ [] := by
      rintro rfl
      cases quote
    -- The word begins behind the blanks, and its quote stands further on.
    have slice := ((stands.past split).past rfl).slice_rest written
    have last : cursor.finish.position = text.length := whole
    rw [last, List.length_append, ← Nat.add_assoc]
    exact ⟨_, skips, .unclosed (Nat.le_add_right _ _) slice⟩

def behind (cursor : Cursor) (reads : Nat) : Cursor :=
  (fun before => before.next.2)^[reads] cursor

theorem behind_succ (cursor : Cursor) (reads : Nat) :
    cursor.behind (reads + 1) = (cursor.behind reads).next.2 :=
  Function.iterate_succ_apply' _ _ _

theorem standsIn_behind (stands : cursor.StandsIn text) (reads : Nat) :
    (cursor.behind reads).StandsIn text := by
  induction reads with
  | zero => exact stands
  | succ reads ih =>
    rw [behind_succ]
    exact standsIn_of_scans ih (scans_next _)

/-- Each read takes the cursor past a character, as long as there is one. -/
theorem le_position_behind (stands : cursor.StandsIn text) (reads : Nat) :
    min reads text.length ≤ (cursor.behind reads).position := by
  induction reads with
  | zero => simp
  | succ reads ih =>
    obtain ⟨start, skips, finds⟩ :=
      exists_finds_of_scans (standsIn_behind stands reads) (scans_next _)
    have forward := skips.forward
    rw [behind_succ]
    -- Only a read that finds the end may leave the cursor where it is, and that is the end.
    rcases finds.finish_or_lt_stop with ⟨-, last⟩ | further <;> omega

theorem next_behind_of_le (stands : cursor.StandsIn text) {reads : Nat}
    (enough : text.length ≤ reads) :
    (cursor.behind reads).next = (.ok ⟨.finish, text.length, ""⟩, cursor.behind reads) := by
  have there := standsIn_behind stands reads
  have last : (cursor.behind reads).position = text.length := by
    have passed := le_position_behind stands reads
    rw [Nat.min_eq_right enough] at passed
    exact Nat.le_antisymm there.inside passed
  have done : (cursor.behind reads).rest = [] := by
    rw [there.rest, last, List.drop_length]
  rw [next_of_rest_eq_nil done, last]

theorem standsIn_start (query : String) : (Cursor.start query).StandsIn query.toList :=
  ⟨Nat.zero_le _, rfl⟩

/-- The reads of a query go on past every error. The cursor stays in the query. A read passes over
blanks to what it finds and moves on, unless it finds the end; behind a quote that is never closed
is the end, too. Behind as many reads as there are characters every read finds the end. -/
theorem reads_advance (query : String) :
    (∀ reads, ((Cursor.start query).behind reads).StandsIn query.toList ∧
      let before := (Cursor.start query).behind reads
      let result := before.next.1
      let after := before.next.2
      (result = .ok ⟨.finish, query.length, ""⟩ ∨ before.position < after.position) ∧
      (∃ start, before.SkipsTo query.toList start ∧
        Finds query.toList start result after.position) ∧
      ∀ error, result = .error error → error.fault = .unclosedQuote →
        after.position = query.length) ∧
    ∀ reads, query.length ≤ reads → ((Cursor.start query).behind reads).next =
      (.ok ⟨.finish, query.length, ""⟩, (Cursor.start query).behind reads) := by
  have stands := standsIn_start query
  rw [← String.length_toList]
  refine ⟨fun reads => ?_, fun reads enough => next_behind_of_le stands enough⟩
  have there := standsIn_behind stands reads
  obtain ⟨start, skips, finds⟩ := exists_finds_of_scans there (scans_next _)
  refine ⟨there, ?_, ⟨start, skips, finds⟩, fun error failed unclosed => ?_⟩
  · refine finds.finish_or_lt_stop.imp And.left fun further => ?_
    exact Nat.lt_of_le_of_lt skips.forward further
  · rw [failed] at finds
    exact finds.stop_of_unclosedQuote unclosed

theorem reads_advance_past_flag_and_quote :
    ((Cursor.start "flag:9 -x\"d e").behind 0).next.1 =
      .error ⟨.invalidFlag "9", "flag:9", 0⟩ ∧
    ((Cursor.start "flag:9 -x\"d e").behind 1).next.1 = .ok ⟨.not, 7, "-"⟩ ∧
    ((Cursor.start "flag:9 -x\"d e").behind 2).next.1 = .error ⟨.unclosedQuote, "\"d e", 9⟩ ∧
    ((Cursor.start "flag:9 -x\"d e").behind 2).next.2.position = 13 ∧
    ((Cursor.start "flag:9 -x\"d e").behind 13).next.1 = .ok ⟨.finish, 13, ""⟩ := by
  have unclosed : ((Cursor.start "flag:9 -x\"d e").behind 2).next.1 =
      .error ⟨.unclosedQuote, "\"d e", 9⟩ := by rfl
  have characters : "flag:9 -x\"d e".length = 13 := by rfl
  obtain ⟨each, last⟩ := reads_advance "flag:9 -x\"d e"
  rw [characters] at last
  exact ⟨by rfl, by rfl, unclosed, (each 2).2.2.2 _ unclosed rfl,
    congrArg Prod.fst (last 13 (Nat.le_refl _))⟩

end Cursor

end CardSearch.Query
