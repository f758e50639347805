import CardSearch.Query.Meaning
import CardSearch.Search.Hit
import CardSearch.Search.Statement

/-!
Answering requests. A query is read and checked before a store hears of it; a page is fetched only
if it can hold cards.
-/

namespace CardSearch.Search

open CardSearch.Query

inductive StoreFault where
  | query (reason : String)
  | decode (reason : String)
  deriving DecidableEq, Repr

def StoreFault.text : StoreFault → String
  | .query reason => "storage query failed: " ++ reason
  | .decode reason => "unexpected row shape: " ++ reason

inductive SearchFault where
  | query (error : SyntaxError)
  | store (fault : StoreFault)
  | options (fault : OptionFault)
  deriving DecidableEq, Repr

namespace SearchFault

def invalidOptions (reason : String) : String :=
  "invalid search options: " ++ reason

def text : SearchFault → String
  | .query error => error.text
  | .store fault => fault.text
  | .options fault => invalidOptions fault.reason

end SearchFault

/-- A store answers a statement by all it has received so far, the statement itself last. -/
structure Store where
  count : List Statement → Except StoreFault UInt64
  fetch : List Statement → Except StoreFault (List Row)

structure Page where
  items : List Hit
  total : UInt64
  page : UInt32
  perPage : UInt32

/-- How many pages of a length hold all results; the last may be shorter. A page of length 0 counts
as one of length 1. -/
def pageCount (total : UInt64) (perPage : UInt32) : UInt64 :=
  let length := (max perPage 1).toUInt64
  total / length + (if total % length = 0 then 0 else 1)

structure Request where
  user : Int
  query : String
  options : Options

structure Reply where
  result : Except SearchFault Page
  sent : List Statement

def respond (store : Store) (config : Config) (received : List Statement) (request : Request) :
    Reply :=
  match Filter.ofQuery request.query with
  | .error error => ⟨.error (.query error), []⟩
  | .ok filter =>
    match Statements.ofFilter config request.user filter request.options with
    | .error fault => ⟨.error (.options fault), []⟩
    | .ok statements =>
      let page (items : List Hit) (total : UInt64) : Page :=
        ⟨items, total, statements.pageNumber, statements.perPage⟩
      match store.count (received ++ [statements.count]) with
      | .error fault => ⟨.error (.store fault), [statements.count]⟩
      | .ok total =>
        if statements.offset < total then
          let result := match store.fetch (received ++ [statements.count, statements.page]) with
            | .error fault => .error (.store fault)
            | .ok rows => .ok (page (rows.map Hit.ofRow) total)
          ⟨result, [statements.count, statements.page]⟩
        else ⟨.ok (page [] total), [statements.count]⟩

def serve (store : Store) (config : Config) (received : List Statement) :
    List Request → List Reply
  | [] => []
  | request :: rest =>
    let reply := respond store config received request
    reply :: serve store config (received ++ reply.sent) rest

end CardSearch.Search
