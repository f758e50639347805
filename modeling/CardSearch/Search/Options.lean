import CardSearch.Text.LetterCase

/-!
What a request asks for besides its query: which page of the results, how long a page is, and the
order of the cards.
-/

namespace CardSearch.Search

inductive SortField where
  | due
  | added
  | interval
  | ease
  | lapses
  | reps
  | stability
  | difficulty
  | deck
  deriving DecidableEq, Repr

namespace SortField

def all : List SortField :=
  [.due, .added, .interval, .ease, .lapses, .reps, .stability, .difficulty, .deck]

def name : SortField → String
  | .due => "due"
  | .added => "added"
  | .interval => "interval"
  | .ease => "ease"
  | .lapses => "lapses"
  | .reps => "reps"
  | .stability => "stability"
  | .difficulty => "difficulty"
  | .deck => "deck"

def named? (name : String) : Option SortField :=
  all.find? (·.name == name)

def read? (text : String) : Option SortField :=
  match Text.lowered text with
  | "ivl" => some .interval
  | name => named? name

def unknown (text : String) : String :=
  "unknown sort field '" ++ Text.lowered text ++ "'"

def column : SortField → String
  | .due => "c.due"
  | .added => "c.created_at"
  | .interval => "c.interval"
  | .ease => "c.ease"
  | .lapses => "c.lapses"
  | .reps => "c.reps"
  | .stability => "c.stability"
  | .difficulty => "c.difficulty"
  | .deck => "d.path"

end SortField

inductive Direction where
  | ascending
  | descending
  deriving DecidableEq, Repr

namespace Direction

def name : Direction → String
  | .ascending => "asc"
  | .descending => "desc"

def named? (name : String) : Option Direction :=
  [ascending, descending].find? (·.name == name)

def sql : Direction → String
  | .ascending => "ASC"
  | .descending => "DESC"

end Direction

structure Config where
  defaultPerPage : UInt32 := 50
  maxPerPage : UInt32 := 500
  deriving DecidableEq, Repr

/-- Pages are numbered from 1. Without a length of its own a page has the default length. -/
structure Options where
  page : UInt32 := 1
  perPage : Option UInt32 := none
  sort : SortField := .due
  direction : Direction := .ascending
  deriving DecidableEq, Repr

inductive OptionFault where
  | pageZero
  | emptyPages
  deriving DecidableEq, Repr

def OptionFault.reason : OptionFault → String
  | .pageZero => "page numbers start at 1"
  | .emptyPages => "per_page must be at least 1"

/-- The length of the pages of a request. Only a length that the request names is limited. -/
def Options.pageLength (config : Config) (options : Options) : Except OptionFault UInt32 :=
  match options.perPage with
  | none => .ok config.defaultPerPage
  | some length => if length = 0 then .error .emptyPages else .ok (min length config.maxPerPage)

end CardSearch.Search
