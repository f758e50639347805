import CardSearch.Json.Reader
import CardSearch.Search.Options

/-!
Settings as JSON texts. A setting is known by its name in an object or by its place in an array;
unknown names are passed over.
-/

namespace CardSearch.Search

/-- The only value under a key; a key that is given twice is an error. -/
def single? (entries : List (String × Json)) (key : String) : Option (Option Json) :=
  match entries.filter (·.1 == key) with
  | [] => some none
  | [(_, value)] => some (some value)
  | _ => none

def word32? : Json → Option UInt32
  | .integer value =>
    if 0 ≤ value ∧ value < Number.twoTo 32 then some (UInt32.ofNat value.toNat) else none
  | _ => none

/-- A name, alone or as the key of nothing. -/
def name? : Json → Option String
  | .text name => some name
  | .object [(name, .null)] => some name
  | _ => none

/-- A setting that may be left out but not be null. -/
def setting? (given : Option Json) (standard : UInt32) : Option UInt32 :=
  match given with
  | none => some standard
  | some value => word32? value

def Config.ofParts? (defaultPerPage maxPerPage : Option Json) : Option Config := do
  return ⟨← setting? defaultPerPage ({} : Config).defaultPerPage,
    ← setting? maxPerPage ({} : Config).maxPerPage⟩

def Config.ofJson? : Json → Option Config
  | .object entries => do
    Config.ofParts? (← single? entries "default_per_page") (← single? entries "max_per_page")
  | .array items => if items.length ≤ 2 then Config.ofParts? items[0]? items[1]? else none
  | _ => none

def Config.read? (text : String) : Option Config :=
  (Json.read? text).bind Config.ofJson?

def perPage? : Json → Option (Option UInt32)
  | .null => some none
  | value => (word32? value).map some

def Options.ofParts? (page perPage sort direction : Json) : Option Options := do
  return ⟨← word32? page, ← perPage? perPage, ← SortField.named? (← name? sort),
    ← Direction.named? (← name? direction)⟩

def Options.ofJson? : Json → Option Options
  | .object entries => do
    Options.ofParts? (← ← single? entries "page") ((← single? entries "per_page").getD .null)
      (← ← single? entries "sort") (← ← single? entries "direction")
  | .array [page, perPage, sort, direction] => Options.ofParts? page perPage sort direction
  | _ => none

def Options.read? (text : String) : Option Options :=
  (Json.read? text).bind Options.ofJson?

end CardSearch.Search
