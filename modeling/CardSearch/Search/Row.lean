import CardSearch.Json.Value
import CardSearch.Number.Binary64
import CardSearch.Time.Instant

/-!
Rows as a store returns them, and their JSON.
-/

namespace CardSearch.Search

structure Card where
  id : Int
  cardType : String
  status : String
  due : Option Time.Instant
  interval : Int
  stability : Option Number.Binary64
  difficulty : Option Number.Binary64
  ease : Option Number.Binary64
  reps : Int
  lapses : Int
  flag : Int

structure Row where
  card : Card
  noteId : Int
  deckId : Int
  deckPath : String
  fields : Json
  tags : List String

def signed? (bits : Nat) : Json → Option Int
  | .integer value =>
    let bound : Int := Number.twoTo (bits - 1)
    if -bound ≤ value ∧ value < bound then some value else none
  | _ => none

def string? : Json → Option String
  | .text value => some value
  | _ => none

/-- A whole number becomes the nearest double. -/
def double? : Json → Option Number.Binary64
  | .real value => some value
  | .integer value => Number.Binary64.ofFraction? (value < 0) value.natAbs 1
  | _ => none

def instant? : Json → Option Time.Instant
  | .text value => Time.Instant.read? value
  | _ => none

def nullable? {α : Type} (decode : Json → Option α) : Option Json → Option (Option α)
  | none | some .null => some none
  | some value => (decode value).map some

def rowFields : List String :=
  ["id", "note_id", "deck_id", "deck_path", "card_type", "status", "due", "interval", "stability",
   "difficulty", "ease", "reps", "lapses", "flag", "fields", "tags"]

def Row.ofEntries? (entries : List (String × Json)) : Option Row := do
  let get := Json.get? entries
  let int (bits : Nat) (key : String) : Option Int := (get key).bind (signed? bits)
  let string (key : String) : Option String := (get key).bind string?
  let double (key : String) : Option (Option Number.Binary64) := nullable? double? (get key)
  let card : Card :=
    { id := ← int 64 "id"
      cardType := ← string "card_type"
      status := ← string "status"
      due := ← nullable? instant? (get "due")
      interval := ← int 32 "interval"
      stability := ← double "stability"
      difficulty := ← double "difficulty"
      ease := ← double "ease"
      reps := ← int 32 "reps"
      lapses := ← int 32 "lapses"
      flag := ← int 16 "flag" }
  let tags ← match get "tags" with
    | some (.array items) => items.mapM string?
    | _ => none
  return ⟨card, ← int 64 "note_id", ← int 64 "deck_id", ← string "deck_path", ← get "fields", tags⟩

def Row.ofJson? : Json → Option Row
  | .object entries => Row.ofEntries? entries
  | .array items =>
    if items.length = rowFields.length then Row.ofEntries? (rowFields.zip items) else none
  | _ => none

end CardSearch.Search
