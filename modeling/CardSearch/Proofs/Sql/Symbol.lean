import CardSearch.Text.Blank

/-!
The symbols of an SQL text: parentheses, commas, keywords, words and quoted literals. Keywords are
read in any letter case. A text that ends outside of its literals can be read apart from what stands
behind it.
-/

namespace CardSearch.Sql

inductive Symbol where
  | opening
  | closing
  | comma
  | and
  | or
  | not
  | coalesce
  | truth (value : Bool)
  | word (text : List Char)
  | literal (text : List Char)
  /-- A literal whose closing quote is missing. -/
  | unclosed (text : List Char)
  deriving DecidableEq, Repr

namespace Symbol

def keywords : List (List Char × Symbol) :=
  [(['a', 'n', 'd'], .and), (['o', 'r'], .or), (['n', 'o', 't'], .not),
   (['c', 'o', 'a', 'l', 'e', 's', 'c', 'e'], .coalesce), (['t', 'r', 'u', 'e'], .truth true),
   (['f', 'a', 'l', 's', 'e'], .truth false)]

def ofWord (text : List Char) : Symbol :=
  (keywords.lookup (text.map Char.toLower)).getD (.word text)

def separator? (character : Char) : Option (List Symbol) :=
  if character = '(' then some [.opening]
  else if character = ')' then some [.closing]
  else if character = ',' then some [.comma]
  else if Text.isBlank character then some []
  else none

theorem isSome_separator? {character : Char} :
    (separator? character).isSome ↔
      character = '(' ∨ character = ')' ∨ character = ',' ∨ Text.isBlank character := by
  unfold separator?
  grind

inductive Mode where
  | word (text : List Char)
  | literal (text : List Char)
  deriving DecidableEq, Repr

def Mode.close : Mode → List Symbol
  | .word [] => []
  | .word text => [ofWord text]
  | .literal text => [.unclosed text]

def step : Mode → Char → List Symbol × Mode
  | .literal text, character =>
    if character = '\'' then ([.literal text], .word [])
    else ([], .literal (text ++ [character]))
  | .word text, character =>
    if character = '\'' then ((Mode.word text).close, .literal [])
    else match separator? character with
      | some symbols => ((Mode.word text).close ++ symbols, .word [])
      | none => ([], .word (text ++ [character]))

def scan (mode : Mode) : List Char → List Symbol × Mode
  | [] => ([], mode)
  | character :: rest =>
    let (symbols, next) := step mode character
    let (more, last) := scan next rest
    (symbols ++ more, last)

def read (text : List Char) : List Symbol :=
  (scan (.word []) text).1 ++ (scan (.word []) text).2.close

def Complete (text : List Char) : Prop :=
  ∃ word, (scan (.word []) text).2 = .word word

@[simp]
theorem read_nil : read [] = [] :=
  rfl

theorem complete_nil : Complete [] :=
  ⟨[], rfl⟩

theorem scan_append (mode : Mode) (front last : List Char) :
    scan mode (front ++ last) =
      ((scan mode front).1 ++ (scan (scan mode front).2 last).1,
        (scan (scan mode front).2 last).2) := by
  induction front generalizing mode with
  | nil => rfl
  | cons character front ih => simp [scan, ih]

theorem scan_separator {character : Char} {symbols : List Symbol}
    (separates : separator? character = some symbols) (word rest : List Char) :
    scan (.word word) (character :: rest) =
      ((Mode.word word).close ++ (symbols ++ (scan (.word []) rest).1),
        (scan (.word []) rest).2) := by
  have unquoted : character ≠ '\'' := by
    rintro rfl
    have joined : separator? '\'' = none := by decide
    simp [joined] at separates
  simp [scan, step, unquoted, separates]

theorem read_append_separator {front : List Char} (complete : Complete front) {character : Char}
    {symbols : List Symbol} (separates : separator? character = some symbols) (rest : List Char) :
    read (front ++ character :: rest) = read front ++ (symbols ++ read rest) := by
  obtain ⟨word, ends⟩ := complete
  simp [read, scan_append, ends, scan_separator separates]

theorem complete_append_separator {front : List Char} (complete : Complete front)
    {character : Char} {symbols : List Symbol} (separates : separator? character = some symbols)
    {rest : List Char} (last : Complete rest) : Complete (front ++ character :: rest) := by
  obtain ⟨word, ends⟩ := complete
  simpa [Complete, scan_append, ends, scan_separator separates] using last

def startsApart : List Char → Bool
  | [] => false
  | character :: _ => (separator? character).isSome

theorem startsApart_append {front : List Char} (apart : startsApart front) (last : List Char) :
    startsApart (front ++ last) := by
  cases front with
  | nil => simp [startsApart] at apart
  | cons => exact apart

theorem read_separator {character : Char} {symbols : List Symbol}
    (separates : separator? character = some symbols) (rest : List Char) :
    read (character :: rest) = symbols ++ read rest := by
  simp [read, scan_separator separates, Mode.close]

theorem read_append_apart {front last : List Char} (complete : Complete front)
    (apart : startsApart last) : read (front ++ last) = read front ++ read last := by
  cases last with
  | nil => simp [startsApart] at apart
  | cons character rest =>
    obtain ⟨symbols, separates⟩ := Option.isSome_iff_exists.1 apart
    rw [read_append_separator complete separates, read_separator separates]

theorem complete_append_apart {front last : List Char} (complete : Complete front)
    (apart : startsApart last) (ends : Complete last) : Complete (front ++ last) := by
  cases last with
  | nil => simp [startsApart] at apart
  | cons character rest =>
    obtain ⟨symbols, separates⟩ := Option.isSome_iff_exists.1 apart
    apply complete_append_separator complete separates
    simpa [Complete, scan_separator separates] using ends

theorem read_append {front : List Char} (ends : (scan (.word []) front).2 = .word [])
    (last : List Char) : read (front ++ last) = read front ++ read last := by
  simp [read, scan_append, ends, Mode.close]

theorem complete_append {front : List Char} (ends : (scan (.word []) front).2 = .word [])
    {last : List Char} (complete : Complete last) : Complete (front ++ last) := by
  simpa [Complete, scan_append, ends] using complete

def isPlain (character : Char) : Bool :=
  character != '\'' && (separator? character).isNone

theorem scan_plain (word text : List Char) (plain : text.all isPlain) :
    scan (.word word) text = ([], .word (word ++ text)) := by
  induction text generalizing word with
  | nil => simp [scan]
  | cons character text ih =>
    simp only [List.all_cons, Bool.and_eq_true, isPlain, bne_iff_ne, Option.isNone_iff_eq_none]
      at plain
    obtain ⟨⟨unquoted, joined⟩, rest⟩ := plain
    simp [scan, step, unquoted, joined, ih _ rest]

end Symbol

end CardSearch.Sql
