import CardSearch.Json.Value
import CardSearch.Number.Shortest

/-!
JSON texts, on one line without blanks or with a line for each item and each entry.
-/

namespace CardSearch.Json

def hexDigits (code : Nat) : List Char :=
  let digits := Nat.toDigits 16 code
  List.replicate (4 - digits.length) '0' ++ digits

def escapedChar (character : Char) : List Char :=
  match character with
  | '"' => ['\\', '"']
  | '\\' => ['\\', '\\']
  | '\x08' => ['\\', 'b']
  | '\t' => ['\\', 't']
  | '\n' => ['\\', 'n']
  | '\x0c' => ['\\', 'f']
  | '\r' => ['\\', 'r']
  | _ => if character.toNat < 0x20 then '\\' :: 'u' :: hexDigits character.toNat else [character]

def quoted (text : String) : String :=
  "\"" ++ String.ofList (text.toList.flatMap escapedChar) ++ "\""

inductive Layout where
  | compact
  | pretty
  deriving DecidableEq, Repr

namespace Layout

def newline (layout : Layout) (margin : String) : String :=
  match layout with
  | .compact => ""
  | .pretty => "\n" ++ margin

def colon : Layout → String
  | .compact => ":"
  | .pretty => ": "

def indented (margin : String) : String :=
  margin ++ "  "

end Layout

mutual

/-- The pieces of a value in front of those that follow it. `margin` is the indentation of the line
that it begins on. -/
def pieces (layout : Layout) (margin : String) :
    (value : Json) → (after : List String) → List String
  | .null, after => "null" :: after
  | .bool value, after => (if value then "true" else "false") :: after
  | .integer value, after => toString value :: after
  | .real value, after => value.text :: after
  | .text value, after => quoted value :: after
  | .array [], after => "[]" :: after
  | .array (item :: items), after =>
    let inner := Layout.indented margin
    "[" :: layout.newline inner :: pieces layout inner item
      (morePieces layout inner items (layout.newline margin :: "]" :: after))
  | .object [], after => "\x7b\x7d" :: after
  | .object ((key, value) :: entries), after =>
    let inner := Layout.indented margin
    "\x7b" :: layout.newline inner :: quoted key :: layout.colon :: pieces layout inner value
      (moreEntries layout inner entries (layout.newline margin :: "\x7d" :: after))
  | .unrepresentable, after => after

def morePieces (layout : Layout) (margin : String) :
    (items : List Json) → (after : List String) → List String
  | [], after => after
  | item :: items, after =>
    "," :: layout.newline margin :: pieces layout margin item (morePieces layout margin items after)

def moreEntries (layout : Layout) (margin : String) :
    (entries : List (String × Json)) → (after : List String) → List String
  | [], after => after
  | (key, value) :: entries, after =>
    "," :: layout.newline margin :: quoted key :: layout.colon :: pieces layout margin value
      (moreEntries layout margin entries after)

end

def print (layout : Layout) (value : Json) : String :=
  String.join (pieces layout "" value [])

end CardSearch.Json
