import CardSearch.Fallible
import CardSearch.Text.Blank

/-!
Double quotes. A phrase stands between quotes of its own; a word may hold quoted sections, in which
blanks and parentheses are ordinary. A backslash keeps a quote or a backslash from its meaning.
-/

namespace CardSearch.Text

structure Phrase where
  source : List Char
  content : List Char
  after : List Char

/-- Reads a phrase whose opening quote has been read. There is none if the quote is never closed. -/
def Phrase.read? : List Char → Option Phrase
  | [] => none
  | '"' :: rest => some ⟨['"'], [], rest⟩
  | '\\' :: '"' :: rest =>
    (read? rest).map fun phrase =>
      ⟨'\\' :: '"' :: phrase.source, '"' :: phrase.content, phrase.after⟩
  | '\\' :: '\\' :: rest =>
    (read? rest).map fun phrase =>
      ⟨'\\' :: '\\' :: phrase.source, '\\' :: phrase.content, phrase.after⟩
  | character :: rest =>
    (read? rest).map fun phrase =>
      ⟨character :: phrase.source, character :: phrase.content, phrase.after⟩

/-- Removes the quotes of a word; an escaped quote or backslash stands for itself. -/
def unquote : List Char → List Char
  | [] => []
  | '\\' :: '"' :: rest => '"' :: unquote rest
  | '\\' :: '\\' :: rest => '\\' :: unquote rest
  | '"' :: rest => unquote rest
  | character :: rest => character :: unquote rest

theorem Phrase.source_append_after {text : List Char} {phrase : Phrase}
    (found : Phrase.read? text = some phrase) : phrase.source ++ phrase.after = text := by
  fun_induction Phrase.read? text generalizing phrase with
  | case1 => simp at found
  | case2 => simp_all [← Option.some.inj found]
  | case3 rest ih | case4 rest ih | case5 character rest _ _ _ ih =>
    obtain ⟨inner, same, rfl⟩ := Option.map_eq_some_iff.1 found
    simp [ih same]

def endsWord (character : Char) : Bool :=
  isBlank character || character == '(' || character == ')'

structure Word where
  source : List Char
  after : List Char

def Word.push (character : Char) (word : Word) : Word :=
  ⟨character :: word.source, word.after⟩

/-- Reads a word. Inside a quoted section the text from its quote on is kept in `opened`; this text
is the error if the section is never closed. -/
def Word.read : (opened : Option (List Char)) → List Char → Except (List Char) Word
  | none, [] => .ok ⟨[], []⟩
  | none, character :: rest =>
    if endsWord character then .ok ⟨[], character :: rest⟩
    else if character = '"' then (read (some (character :: rest)) rest).map (push character)
    else (read none rest).map (push character)
  | some opened, [] => .error opened
  | some opened, '\\' :: escaped :: rest =>
    (read (some opened) rest).map fun word => (word.push escaped).push '\\'
  | some opened, character :: rest =>
    (read (if character = '"' then none else some opened) rest).map (push character)

theorem Word.source_append_after {opened : Option (List Char)} {text : List Char} {word : Word}
    (found : Word.read opened text = .ok word) : word.source ++ word.after = text := by
  fun_induction Word.read opened text generalizing word with
  | case1 | case2 => cases found; rfl
  | case3 rest _ ih | case4 character rest _ _ ih | case6 _ escaped rest ih
  | case7 _ character rest _ ih =>
    obtain ⟨inner, same, rfl⟩ := Fallible.map_eq_ok_iff.1 found
    simp [push, ih same]
  | case5 => simp at found

end CardSearch.Text
