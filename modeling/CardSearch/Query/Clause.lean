import CardSearch.Number.Decimal
import CardSearch.Query.Fault
import CardSearch.Query.Token
import CardSearch.Text.Quoted

/-!
What a single word means: a connective, a clause of one of the ten kinds, a text in a field, or a
plain text.
-/

namespace CardSearch.Query

open CardSearch.Text (unquote)

def splitColon? : List Char → Option (List Char × List Char)
  | [] => none
  | character :: rest =>
    if character = ':' then some ([], rest)
    else (splitColon? rest).map fun (before, after) => (character :: before, after)

inductive ClauseKind where
  | tag
  | deck
  | state
  | flag
  | property
  | date (kind : WindowKind)
  | regex
  | wholeWord
  | accentless
  deriving DecidableEq, Repr

namespace ClauseKind

def vocabulary : List (String × ClauseKind) :=
  [("tag", .tag), ("deck", .deck), ("is", .state), ("flag", .flag), ("prop", .property),
   ("added", .date .added), ("rated", .date .rated), ("re", .regex), ("w", .wholeWord),
   ("nc", .accentless)]

def ofName? (name : List Char) : Option ClauseKind :=
  vocabulary.lookup (Text.lowered (String.ofList name))

end ClauseKind

def regexPattern? : List Char → Option (List Char)
  | first :: second :: ':' :: rest =>
    if first.toLower = 'r' ∧ second.toLower = 'e' then some rest else none
  | _ => none

def splitComparison? : List Char → Option (List Char × Comparison × List Char)
  | [] => none
  | character :: rest =>
    match Comparison.leading? (character :: rest) with
    | some (comparison, after) => some ([], comparison, after)
    | none =>
      (splitComparison? rest).map fun (name, comparison, after) =>
        (character :: name, comparison, after)

namespace Leaf

def unquoted (text : List Char) : String :=
  String.ofList (unquote text)

def readState (value : List Char) : Except Fault Leaf :=
  match CardState.ofKeyword? (unquoted value) with
  | some found => .ok (.state found)
  | none => .error (.unknownState (unquoted value))

def readFlag (value : List Char) : Except Fault Leaf :=
  match Number.numeral? 8 value with
  | some number => .ok (.flag number)
  | none => .error (.invalidFlag (String.ofList value))

def readProperty (clause : List Char) : Except Fault Leaf :=
  match splitComparison? clause with
  | none => .error (.missingComparison (String.ofList clause))
  | some (name, comparison, value) =>
    match Property.ofKeyword? (String.ofList name) with
    | none => .error (.unknownProperty (String.ofList name))
    | some found =>
      match Number.real? value with
      | none => .error (.invalidPropertyValue (String.ofList value) found)
      | some number => .ok (.property found comparison number)

def readRating (rating : List Char) : Except Fault Rating :=
  match (Number.numeral? 5 rating).bind Rating.ofNumber? with
  | some found => .ok found
  | none => .error (.invalidRating (String.ofList rating))

def readDays (kind : WindowKind) (days : List Char) : Except Fault Nat :=
  match Number.numeral? (Number.twoTo 32) days with
  | some count => .ok count
  | none => .error (.invalidDays kind (String.ofList days))

/-- Only a rated clause has a second part, and none has a third. -/
def readDate (kind : WindowKind) (clause : List Char) : Except Fault Leaf :=
  match splitColon? clause with
  | none => (readDays kind clause).map fun days => .date ⟨kind, days, none⟩
  | some (days, rating) =>
    if kind = .rated ∧ ':' ∉ rating then do
      let days ← readDays kind days
      let rating ← readRating rating
      return .date ⟨kind, days, some rating⟩
    else .error (.malformedDate kind (String.ofList clause))

def readClause (kind : ClauseKind) (value : List Char) : Except Fault Leaf :=
  match kind with
  | .tag => .ok (.tag (unquoted value))
  | .deck => .ok (.deck (unquoted value))
  | .state => readState value
  | .flag => readFlag value
  | .property => readProperty value
  | .date kind => readDate kind value
  | .regex => .ok (.regex (unquoted value) none)
  | .wholeWord => .ok (.wholeWord (unquoted value))
  | .accentless => .ok (.accentless (unquoted value))

def inField (field value : List Char) : Leaf :=
  match regexPattern? value with
  | some pattern => .regex (unquoted pattern) (some (unquoted field))
  | none => .text (unquoted value) (some (unquoted field))

/-- A word that begins with a colon has no name and is a plain text. -/
def read (word : List Char) : Except Fault Leaf :=
  match splitColon? word with
  | none | some ([], _) => .ok (.text (unquoted word) none)
  | some (name, value) =>
    match ClauseKind.ofName? name with
    | some kind => readClause kind value
    | none => .ok (inField name value)

end Leaf

/-- Only three words in capitals are no leaves. -/
def Token.ofWord (word : List Char) : Except Fault Token :=
  match String.ofList word with
  | "AND" => .ok (.connective .and)
  | "OR" => .ok (.connective .or)
  | "NOT" => .ok .not
  | _ => (Leaf.read word).map .leaf

end CardSearch.Query
