import CardSearch.Json.Number

/-!
Reading JSON texts. The grammar is the strict one: no comments, no trailing commas, no control
characters in strings, no leading zeros.
-/

namespace CardSearch.Json

def isBlank (character : Char) : Bool :=
  character == ' ' || character == '\t' || character == '\n' || character == '\r'

def skipBlanks (text : List Char) : List Char :=
  text.dropWhile isBlank

def hexDigit? (digit : Char) : Option Nat :=
  if digit.isDigit then some (digit.toNat - '0'.toNat)
  else if 'a' ≤ digit && digit ≤ 'f' then some (digit.toNat - 'a'.toNat + 10)
  else if 'A' ≤ digit && digit ≤ 'F' then some (digit.toNat - 'A'.toNat + 10)
  else none

def unit? (first second third fourth : Char) : Option Nat := do
  return 4096 * (← hexDigit? first) + 256 * (← hexDigit? second) + 16 * (← hexDigit? third) +
    (← hexDigit? fourth)

def isHighSurrogate (unit : Nat) : Bool :=
  0xD800 ≤ unit && unit < 0xDC00

def isLowSurrogate (unit : Nat) : Bool :=
  0xDC00 ≤ unit && unit < 0xE000

def ofPair (high low : Nat) : Char :=
  Char.ofNat (0x10000 + (high - 0xD800) * 1024 + (low - 0xDC00))

def escaped? : Char → Option Char
  | '"' => some '"'
  | '\\' => some '\\'
  | '/' => some '/'
  | 'b' => some '\x08'
  | 'f' => some '\x0c'
  | 'n' => some '\n'
  | 'r' => some '\r'
  | 't' => some '\t'
  | _ => none

def units? : List Char → Option (List (Nat ⊕ Char) × List Char)
  | [] => none
  | '"' :: rest => some ([], rest)
  | '\\' :: 'u' :: first :: second :: third :: fourth :: rest =>
    match unit? first second third fourth with
    | none => none
    | some unit => (units? rest).map fun (units, after) => (.inl unit :: units, after)
  | '\\' :: letter :: rest =>
    match escaped? letter with
    | none => none
    | some character => (units? rest).map fun (units, after) => (.inr character :: units, after)
  | character :: rest =>
    if character.toNat < 0x20 || character == '\\' then none
    else (units? rest).map fun (units, after) => (.inr character :: units, after)

def characters? : List (Nat ⊕ Char) → Option (List Char)
  | [] => some []
  | .inr character :: rest => (characters? rest).map (character :: ·)
  | .inl high :: .inl low :: rest =>
    if isHighSurrogate high then
      if isLowSurrogate low then (characters? rest).map (ofPair high low :: ·) else none
    else if isLowSurrogate high then none
    else (characters? (.inl low :: rest)).map (Char.ofNat high :: ·)
  | .inl unit :: rest =>
    if isHighSurrogate unit || isLowSurrogate unit then none
    else (characters? rest).map (Char.ofNat unit :: ·)

/-- Reads a string behind its opening quote; the string is missing if it holds half a pair. -/
def string? (text : List Char) : Option (Option String × List Char) :=
  (units? text).map fun (units, after) => ((characters? units).map String.ofList, after)

def digits? (text : List Char) : Option (List Char × List Char) :=
  let digits := text.takeWhile Char.isDigit
  if digits.isEmpty then none else some (digits, text.dropWhile Char.isDigit)

def exponent? : List Char → Option (List Char × Bool × List Char)
  | mark :: rest =>
    if mark == 'e' || mark == 'E' then
      let (negative, unsigned) := Number.Decimal.sign rest
      (digits? unsigned).map fun (digits, after) => (digits, negative, after)
    else some ([], false, mark :: rest)
  | [] => some ([], false, [])

def fraction? : List Char → Option (List Char × List Char)
  | '.' :: rest => digits? rest
  | rest => some ([], rest)

def number? (text : List Char) : Option (Json × List Char) := do
  let (negative, unsigned) := match text with
    | '-' :: rest => (true, rest)
    | rest => (false, rest)
  let (whole, rest) ← digits? unsigned
  if whole.head? = some '0' && 1 < whole.length then none
  else
    let (fraction, rest) ← fraction? rest
    let (exponent, exponentNegative, rest) ← exponent? rest
    return (ofNumber ⟨negative, whole, fraction, exponent, exponentNegative⟩, rest)

def word? (word : List Char) (value : Json) (text : List Char) : Option (Json × List Char) :=
  if word.isPrefixOf text then some (value, text.drop word.length) else none

def ofEntries (entries : List (Option String × Json)) : Json :=
  match entries.mapM fun (key, value) => key.map (·, value) with
  | some entries => .object entries
  | none => .unrepresentable

mutual

/-- Reads a value and says what follows it. `depth` bounds how deep values lie in each other, and
how many follow each other. -/
def value? (depth : Nat) (text : List Char) : Option (Json × List Char) :=
  match depth with
  | 0 => none
  | depth + 1 =>
    match skipBlanks text with
    | '[' :: rest =>
      match skipBlanks rest with
      | ']' :: after => some (.array [], after)
      | rest => (items? depth rest).map fun (items, after) => (.array items, after)
    | '\x7b' :: rest =>
      match skipBlanks rest with
      | '\x7d' :: after => some (.object [], after)
      | rest => (entries? depth rest).map fun (entries, after) => (ofEntries entries, after)
    | '"' :: rest =>
      (string? rest).map fun (string, after) =>
        (match string with | some string => .text string | none => .unrepresentable, after)
    | 't' :: rest => word? ['r', 'u', 'e'] (.bool true) rest
    | 'f' :: rest => word? ['a', 'l', 's', 'e'] (.bool false) rest
    | 'n' :: rest => word? ['u', 'l', 'l'] .null rest
    | rest => number? rest

def items? (depth : Nat) (text : List Char) : Option (List Json × List Char) :=
  match depth with
  | 0 => none
  | depth + 1 => do
    let (item, rest) ← value? depth text
    match skipBlanks rest with
    | ',' :: rest =>
      let (items, after) ← items? depth rest
      return (item :: items, after)
    | ']' :: after => return ([item], after)
    | _ => none

def entries? (depth : Nat) (text : List Char) : Option (List (Option String × Json) × List Char) :=
  match depth with
  | 0 => none
  | depth + 1 =>
    match skipBlanks text with
    | '"' :: rest => do
      let (key, rest) ← string? rest
      match skipBlanks rest with
      | ':' :: rest =>
        let (value, rest) ← value? depth rest
        match skipBlanks rest with
        | ',' :: rest =>
          let (entries, after) ← entries? depth rest
          return ((key, value) :: entries, after)
        | '\x7d' :: after => return ([(key, value)], after)
        | _ => none
      | _ => none
    | _ => none

end

/-- Reads a text that holds one value. No value lies deeper than the text is long. -/
def read? (text : String) : Option Json :=
  match value? (text.length + 1) text.toList with
  | some (value, rest) => if (skipBlanks rest).isEmpty then some value else none
  | none => none

end CardSearch.Json
