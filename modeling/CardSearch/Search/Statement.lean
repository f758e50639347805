import CardSearch.Number.Power
import CardSearch.Search.Options
import CardSearch.Sql.Predicate

/-!
The two statements of a search: one counts the matching cards of a user, the other fetches a page of
them.
-/

namespace CardSearch.Search

open CardSearch.Query CardSearch.Sql

/-- A statement with the values of its placeholders, the first of which is `$1`. -/
structure Statement where
  sql : String
  params : List Param
  deriving DecidableEq, Repr

structure Statements where
  count : Statement
  page : Statement
  pageNumber : UInt32
  perPage : UInt32
  offset : UInt64
  deriving DecidableEq, Repr

namespace Statements

def select (columns : String) (joins : List Join) (condition : String) : String :=
  "SELECT " ++ columns ++ " FROM cards c" ++ String.join (joins.map fun join => " " ++ join.sql) ++
    " WHERE " ++ condition

def cardColumns : String :=
  "c.id, c.note_id, c.deck_id, d.path AS deck_path, c.card_type, c.status, c.due, c.interval, " ++
    "c.stability, c.difficulty, c.ease, c.reps, c.lapses, c.flag, n.fields, " ++
    "COALESCE(nt.slugs, ARRAY[]::text[]) AS tags"

def cardJoins : List Join :=
  [.note, .deck, .noteTags]

def ownedBy (predicate : Predicate) : String :=
  "c.user_id = $1 AND (" ++ predicate.sql ++ ")"

/-- Cards without a value come last, and cards that are alike are ordered by their numbers. The
length and the offset of the page are bound behind `bound` other values. -/
def window (options : Options) (bound : Nat) : String :=
  let direction := options.direction.sql
  " ORDER BY " ++ options.sort.column ++ " " ++ direction ++ " NULLS LAST, c.id " ++ direction ++
    " LIMIT " ++ placeholder bound 0 ++ " OFFSET " ++ placeholder bound 1

def pageOffset (page perPage : UInt32) : UInt64 :=
  (page - 1).toUInt64 * perPage.toUInt64

def boundOffset (offset : UInt64) : Int :=
  if offset.toNat < Number.twoTo 63 then offset.toNat else Number.twoTo 63 - 1

def ofFilter (config : Config) (user : Int) (filter : Filter) (options : Options) :
    Except OptionFault Statements :=
  if options.page = 0 then .error .pageZero
  else (options.pageLength config).map fun perPage =>
    let offset := pageOffset options.page perPage
    let predicate := Predicate.ofFilter 1 filter
    let condition := ownedBy predicate
    let params := .integer user :: predicate.params
    { count := ⟨select "count(*)" predicate.joins condition, params⟩
      page :=
        ⟨select cardColumns (Join.union cardJoins predicate.joins) condition ++
          window options params.length,
          params ++ [.integer perPage.toNat, .integer (boundOffset offset)]⟩
      pageNumber := options.page
      perPage := perPage
      offset := offset }

end Statements

end CardSearch.Search
