import CardSearch.Number.Numeral
import CardSearch.Number.Power
import CardSearch.Text.Blank
import CardSearch.Time.Calendar

/-!
Instants and their texts after RFC 3339. Reading is lenient about blanks between the parts and about
missing zeros; writing has one form, in UTC.
-/

namespace CardSearch.Time

/-- Whole minutes since the first of January 1970 in UTC, and what is past them. Second 60 is a leap
second. -/
structure Instant where
  minutes : Int
  second : Nat
  nanosecond : Nat
  deriving DecidableEq, Repr

namespace Instant

def skipBlanks (text : List Char) : List Char :=
  text.dropWhile Text.isBlank

def mark? (mark : Char) (text : List Char) : Option (List Char) :=
  match skipBlanks text with
  | first :: rest => if first = mark then some rest else none
  | [] => none

def digits? (most : Nat) (text : List Char) : Option (List Char × List Char) :=
  let digits := (text.take most).takeWhile Char.isDigit
  if digits.isEmpty then none else some (digits, text.drop digits.length)

def field? (least most : Nat) (text : List Char) : Option (Nat × List Char) := do
  let (digits, rest) ← digits? 2 (skipBlanks text)
  let number := Number.value digits
  if least ≤ number ∧ number ≤ most then some (number, rest) else none

/-- A year has up to four digits, or any number of them behind a sign. -/
def year? (text : List Char) : Option (Int × List Char) :=
  match skipBlanks text with
  | '-' :: rest =>
    (digits? rest.length rest).map fun (digits, after) => (-(Number.value digits), after)
  | '+' :: rest =>
    (digits? rest.length rest).map fun (digits, after) => (Number.value digits, after)
  | rest => (digits? 4 rest).map fun (digits, after) => (Number.value digits, after)

/-- Reads a fraction of a second in nanoseconds; its digits from the tenth on are dropped. -/
def fraction? : List Char → Option (Nat × List Char)
  | '.' :: rest =>
    (digits? 9 rest).map fun (digits, after) =>
      (Number.value digits * Number.tenTo (9 - digits.length), after.dropWhile Char.isDigit)
  | rest => some (0, rest)

def twoDigits? : List Char → Option (Nat × List Char)
  | first :: second :: rest =>
    if first.isDigit && second.isDigit then some (Number.value [first, second], rest) else none
  | _ => none

/-- Reads hours and minutes with any blanks and colons between them. A minute has two digits. -/
def shift? (text : List Char) : Option (Nat × List Char) := do
  let (hours, rest) ← twoDigits? text
  let (minutes, rest) ←
    twoDigits? (rest.dropWhile fun character => character == ':' || Text.isBlank character)
  if minutes < 60 then some (60 * hours + minutes, rest) else none

def offset? : List Char → Option (Int × List Char)
  | first :: second :: third :: rest =>
    if [first, second, third].map Char.toLower = ['u', 't', 'c'] then some (0, rest)
    else local? first (second :: third :: rest)
  | first :: rest => local? first rest
  | [] => none
where
  local? (sign : Char) (rest : List Char) : Option (Int × List Char) :=
    if sign = 'Z' ∨ sign = 'z' then some (0, rest)
    else if sign = '+' then (shift? rest).map fun (minutes, after) => (minutes, after)
    else if sign = '-' ∨ sign = '\u2212' then
      (shift? rest).map fun (minutes, after) => (-minutes, after)
    else none

def dayMinutes : Int := 1440

/-- Reads an instant. A date is followed by one blank or the letter T, and the time by its distance
from UTC, which is less than a day. -/
def read? (text : String) : Option Instant := do
  let (year, rest) ← year? text.toList
  let (month, rest) ← field? 1 12 (← mark? '-' rest)
  let (day, rest) ← field? 1 31 (← mark? '-' rest)
  let rest ← match rest with
    | separator :: rest =>
      if separator = 'T' ∨ separator = 't' ∨ separator = ' ' then some rest else none
    | [] => none
  let (hour, rest) ← field? 0 23 rest
  let (minute, rest) ← field? 0 59 (← mark? ':' rest)
  let (second, rest) ← field? 0 60 (← mark? ':' rest)
  let (nanosecond, rest) ← fraction? rest
  let (offset, rest) ← offset? (skipBlanks rest)
  let date : Date := ⟨year, month, day⟩
  let minutes := date.toDays * dayMinutes + 60 * hour + minute - offset
  if (skipBlanks rest).isEmpty ∧ date.valid ∧ offset.natAbs < 1440 ∧
      Date.inRange (Date.ofDays (minutes / dayMinutes)).year then
    some ⟨minutes, second, nanosecond⟩
  else none

def padded (width number : Nat) : String :=
  let digits := Nat.toDigits 10 number
  String.ofList (List.replicate (width - digits.length) '0' ++ digits)

/-- Years of more than four digits and years before the year 0 have a sign. -/
def yearText (year : Int) : String :=
  if year < 0 then "-" ++ padded 4 year.natAbs
  else if 9999 < year then "+" ++ padded 4 year.toNat
  else padded 4 year.toNat

/-- A fraction has three, six or nine digits, or is left out. -/
def fractionText (nanosecond : Nat) : String :=
  if nanosecond = 0 then ""
  else if nanosecond % 1000000 = 0 then "." ++ padded 3 (nanosecond / 1000000)
  else if nanosecond % 1000 = 0 then "." ++ padded 6 (nanosecond / 1000)
  else "." ++ padded 9 nanosecond

def text (instant : Instant) : String :=
  let date := Date.ofDays (instant.minutes / dayMinutes)
  let minute := (instant.minutes % dayMinutes).toNat
  yearText date.year ++ "-" ++ padded 2 date.month ++ "-" ++ padded 2 date.day ++ "T" ++
    padded 2 (minute / 60) ++ ":" ++ padded 2 (minute % 60) ++ ":" ++ padded 2 instant.second ++
    fractionText instant.nanosecond ++ "Z"

end Instant

end CardSearch.Time
