import CardSearch.Search.Service

/-!
What a store receives while requests are answered. A store that keeps all it receives is asked by a
program; what this program returns and leaves with the store is what the replies say, request by
request.
-/

namespace CardSearch.Search

open CardSearch.Query

/-- A run that may be given up, in front of a store that keeps the statements it receives. -/
abbrev Session :=
  ExceptT SearchFault (StateM (List Statement))

namespace Session

variable {Answer Further Fault : Type}

def settle (report : Fault → SearchFault) : Except Fault Answer → Session Answer
  | .ok answer => pure answer
  | .error fault => throw (report fault)

/-- Hands a statement to the store, which answers by all that it has received. -/
def ask (answer : List Statement → Except StoreFault Answer) (statement : Statement) :
    Session Answer := do
  modify (· ++ [statement])
  let received ← get
  settle .store (answer received)

def runFrom (received : List Statement) (session : Session Answer) :
    Except SearchFault Answer × List Statement :=
  session.run.run received

theorem runFrom_pure (received : List Statement) (answer : Answer) :
    runFrom received (pure answer) = (.ok answer, received) :=
  rfl

theorem runFrom_settle_ok (received : List Statement) (report : Fault → SearchFault)
    (answer : Answer) : runFrom received (settle report (.ok answer)) = (.ok answer, received) :=
  rfl

theorem runFrom_settle_error (received : List Statement) (report : Fault → SearchFault)
    (fault : Fault) :
    runFrom received (settle report (.error fault) : Session Answer) =
      (.error (report fault), received) :=
  rfl

theorem runFrom_ask (received : List Statement)
    (answer : List Statement → Except StoreFault Answer) (statement : Statement) :
    runFrom received (ask answer statement) =
      runFrom (received ++ [statement]) (settle .store (answer (received ++ [statement]))) :=
  rfl

theorem runFrom_bind (received : List Statement) (first : Session Answer)
    (next : Answer → Session Further) :
    runFrom received (first >>= next) =
      match runFrom received first with
      | (.ok answer, left) => runFrom left (next answer)
      | (.error fault, left) => (.error fault, left) := by
  cases ran : runFrom received first with
  | mk result left =>
    rw [runFrom] at ran
    rw [runFrom, ExceptT.run_bind, StateT.run_bind, ran]
    cases result <;> rfl

def statements (config : Config) (request : Request) : Session Statements := do
  let filter ← settle .query (Filter.ofQuery request.query)
  settle .options (Statements.ofFilter config request.user filter request.options)

/-- Counts the cards, and fetches a page that begins in front of the last of them. -/
def page (store : Store) (statements : Statements) : Session Page := do
  let total ← ask store.count statements.count
  let rows ← if statements.offset < total then ask store.fetch statements.page else pure []
  return ⟨rows.map Hit.ofRow, total, statements.pageNumber, statements.perPage⟩

def search (store : Store) (config : Config) (request : Request) : Session Page := do
  let statements ← statements config request
  page store statements

/-- Searches for one request after the other, whether or not a search is given up. -/
def searchAll (store : Store) (config : Config) (requests : List Request) :
    StateM (List Statement) (List (Except SearchFault Page)) :=
  requests.mapM fun request => (search store config request).run

end Session

def Request.Puts (config : Config) (request : Request) (statements : Statements) : Prop :=
  ∃ filter, Filter.ofQuery request.query = .ok filter ∧
    request.options.page ≠ 0 ∧ request.options.perPage ≠ some 0 ∧
    Statements.ofFilter config request.user filter request.options = .ok statements

inductive Answers (store : Store) (config : Config) (received : List Statement)
    (request : Request) : Reply → Prop where
  /-- A query that cannot be read is reported, whatever is wrong with the options. -/
  | unreadable {error : SyntaxError} (misread : Filter.ofQuery request.query = .error error) :
      Answers store config received request ⟨.error (.query error), []⟩
  | pageZero {filter : Filter} (read : Filter.ofQuery request.query = .ok filter)
      (zero : request.options.page = 0) :
      Answers store config received request ⟨.error (.options .pageZero), []⟩
  | emptyPages {filter : Filter} (read : Filter.ofQuery request.query = .ok filter)
      (numbered : request.options.page ≠ 0) (empty : request.options.perPage = some 0) :
      Answers store config received request ⟨.error (.options .emptyPages), []⟩
  | uncounted {statements : Statements} {fault : StoreFault}
      (put : request.Puts config statements)
      (failed : store.count (received ++ [statements.count]) = .error fault) :
      Answers store config received request ⟨.error (.store fault), [statements.count]⟩
  /-- A page behind the last card is empty, and no store hears of it. -/
  | behind {statements : Statements} {total : UInt64} (put : request.Puts config statements)
      (counted : store.count (received ++ [statements.count]) = .ok total)
      (outside : ¬statements.offset < total) :
      Answers store config received request
        ⟨.ok ⟨[], total, statements.pageNumber, statements.perPage⟩, [statements.count]⟩
  | unfetched {statements : Statements} {total : UInt64} {fault : StoreFault}
      (put : request.Puts config statements)
      (counted : store.count (received ++ [statements.count]) = .ok total)
      (inside : statements.offset < total)
      (failed : store.fetch (received ++ [statements.count, statements.page]) = .error fault) :
      Answers store config received request
        ⟨.error (.store fault), [statements.count, statements.page]⟩
  | fetched {statements : Statements} {total : UInt64} {rows : List Row}
      (put : request.Puts config statements)
      (counted : store.count (received ++ [statements.count]) = .ok total)
      (inside : statements.offset < total)
      (found : store.fetch (received ++ [statements.count, statements.page]) = .ok rows) :
      Answers store config received request
        ⟨.ok ⟨rows.map Hit.ofRow, total, statements.pageNumber, statements.perPage⟩,
          [statements.count, statements.page]⟩

namespace Statements

variable {config : Config} {user : Int} {filter : Filter} {options : Options}

theorem ofFilter_pageZero (zero : options.page = 0) :
    ofFilter config user filter options = .error .pageZero := by
  rw [ofFilter, if_pos zero]

theorem ofFilter_emptyPages (numbered : options.page ≠ 0) (empty : options.perPage = some 0) :
    ofFilter config user filter options = .error .emptyPages := by
  rw [ofFilter, if_neg numbered, Options.pageLength, empty]
  rfl

theorem exists_ofFilter (config : Config) (user : Int) (filter : Filter)
    (numbered : options.page ≠ 0) (given : options.perPage ≠ some 0) :
    ∃ statements, ofFilter config user filter options = .ok statements := by
  rw [ofFilter, if_neg numbered, Options.pageLength]
  cases named : options.perPage with
  | none => exact ⟨_, rfl⟩
  | some length =>
    have positive : length ≠ 0 := fun zero => given (by rw [named, zero])
    simp only [if_neg positive]
    exact ⟨_, rfl⟩

end Statements

variable {store : Store} {config : Config} {received : List Statement} {request : Request}
  {reply : Reply}

theorem exists_answers (store : Store) (config : Config) (received : List Statement)
    (request : Request) : ∃ reply, Answers store config received request reply := by
  cases read : Filter.ofQuery request.query with
  | error error => exact ⟨_, .unreadable read⟩
  | ok filter =>
  by_cases zero : request.options.page = 0
  · exact ⟨_, .pageZero read zero⟩
  by_cases empty : request.options.perPage = some 0
  · exact ⟨_, .emptyPages read zero empty⟩
  obtain ⟨statements, built⟩ := Statements.exists_ofFilter config request.user filter zero empty
  have put : request.Puts config statements := ⟨filter, read, zero, empty, built⟩
  cases counted : store.count (received ++ [statements.count]) with
  | error fault => exact ⟨_, .uncounted put counted⟩
  | ok total =>
  by_cases inside : statements.offset < total
  · cases found : store.fetch (received ++ [statements.count, statements.page]) with
    | error fault => exact ⟨_, .unfetched put counted inside found⟩
    | ok rows => exact ⟨_, .fetched put counted inside found⟩
  · exact ⟨_, .behind put counted inside⟩

theorem respond_of_answers (answers : Answers store config received request reply) :
    respond store config received request = reply := by
  cases answers with
  | unreadable misread => simp only [respond, misread]
  | pageZero read zero => simp only [respond, read, Statements.ofFilter_pageZero zero]
  | emptyPages read numbered empty =>
    simp only [respond, read, Statements.ofFilter_emptyPages numbered empty]
  | uncounted put failed =>
    obtain ⟨filter, read, -, -, built⟩ := put
    simp only [respond, read, built, failed]
  | behind put counted outside =>
    obtain ⟨filter, read, -, -, built⟩ := put
    simp only [respond, read, built, counted, if_neg outside]
  | unfetched put counted inside failed =>
    obtain ⟨filter, read, -, -, built⟩ := put
    simp only [respond, read, built, counted, if_pos inside, failed]
  | fetched put counted inside found =>
    obtain ⟨filter, read, -, -, built⟩ := put
    simp only [respond, read, built, counted, if_pos inside, found]

theorem answers_iff : Answers store config received request reply ↔
    respond store config received request = reply := by
  refine ⟨respond_of_answers, ?_⟩
  rintro rfl
  obtain ⟨reply, answers⟩ := exists_answers store config received request
  rwa [respond_of_answers answers]

namespace Session

theorem runFrom_statements {statements : Statements} (received : List Statement)
    (put : request.Puts config statements) :
    runFrom received (Session.statements config request) = (.ok statements, received) := by
  obtain ⟨filter, read, -, -, built⟩ := put
  simp only [Session.statements, runFrom_bind, read, runFrom_settle_ok, built]

theorem runFrom_search (answers : Answers store config received request reply) :
    runFrom received (search store config request) = (reply.result, received ++ reply.sent) := by
  rw [search, runFrom_bind]
  cases answers with
  | unreadable misread =>
    simp only [Session.statements, runFrom_bind, misread, runFrom_settle_error, List.append_nil]
  | pageZero read zero =>
    simp only [Session.statements, runFrom_bind, read, runFrom_settle_ok,
      Statements.ofFilter_pageZero zero, runFrom_settle_error, List.append_nil]
  | emptyPages read numbered empty =>
    simp only [Session.statements, runFrom_bind, read, runFrom_settle_ok,
      Statements.ofFilter_emptyPages numbered empty, runFrom_settle_error, List.append_nil]
  | uncounted put failed =>
    simp only [runFrom_statements received put, page, runFrom_bind, runFrom_ask, failed,
      runFrom_settle_error]
  | behind put counted outside =>
    simp only [runFrom_statements received put, page, runFrom_bind, runFrom_ask, counted,
      runFrom_settle_ok, if_neg outside, runFrom_pure, List.map_nil]
  | unfetched put counted inside failed =>
    simp only [runFrom_statements received put, page, runFrom_bind, runFrom_ask, counted,
      runFrom_settle_ok, if_pos inside, List.append_assoc, List.cons_append, List.nil_append,
      failed, runFrom_settle_error]
  | fetched put counted inside found =>
    simp only [runFrom_statements received put, page, runFrom_bind, runFrom_ask, counted,
      runFrom_settle_ok, if_pos inside, List.append_assoc, List.cons_append, List.nil_append,
      found, runFrom_pure]

theorem run_searchAll (store : Store) (config : Config) (received : List Statement)
    (requests : List Request) :
    (searchAll store config requests).run received =
      let replies := serve store config received requests
      pure (replies.map Reply.result, received ++ replies.flatMap Reply.sent) := by
  -- The rest of the requests meets a store that has received more, so all beginnings are covered.
  induction requests generalizing received with
  | nil => simp [searchAll, serve]
  | cons request rest ih =>
    have first : (search store config request).run.run received =
        pure ((respond store config received request).result,
          received ++ (respond store config received request).sent) :=
      runFrom_search (answers_iff.2 rfl)
    have behind := ih (received ++ (respond store config received request).sent)
    rw [searchAll] at behind
    rw [searchAll, List.mapM_cons, StateT.run_bind, first, pure_bind, StateT.run_bind, behind]
    simp [serve]

end Session

theorem getElem?_serve (store : Store) (config : Config) (received : List Statement)
    (requests : List Request) (place : Nat) :
    let replies := serve store config received requests
    replies[place]? = requests[place]?.map
      (respond store config (received ++ (replies.take place).flatMap Reply.sent)) := by
  induction requests generalizing received place with
  | nil => simp [serve]
  | cons request rest ih =>
    cases place with
    | zero => simp [serve]
    | succ place => simp [serve, ih]

theorem length_serve (store : Store) (config : Config) (received : List Statement)
    (requests : List Request) :
    (serve store config received requests).length = requests.length := by
  induction requests generalizing received with
  | nil => rfl
  | cons request rest ih => simp [serve, ih]

/-- Requests are answered in turn, each in the way it ends behind those before it, and the store
receives the statements of all of them in a row. -/
theorem answers_in_turn (store : Store) (config : Config) (requests : List Request) :
    let replies := serve store config [] requests
    (Session.searchAll store config requests).run [] =
        pure (replies.map Reply.result, replies.flatMap Reply.sent) ∧
      replies.length = requests.length ∧
      ∀ (place : Nat) (request : Request), requests[place]? = some request → ∀ reply : Reply,
        replies[place]? = some reply ↔
          Answers store config ((replies.take place).flatMap Reply.sent) request reply := by
  refine ⟨?_, length_serve store config [] requests, ?_⟩
  · simpa using Session.run_searchAll store config [] requests
  · intro place request found reply
    have answered := getElem?_serve store config [] requests place
    simp only [found, Option.map_some, List.nil_append] at answered
    rw [answered, Option.some_inj, answers_iff]

theorem answers_in_turn_unfetched :
    let store : Store :=
      ⟨fun received => .ok (50 + received.length.toUInt64), fun _ => .error (.query "gone")⟩
    let paged : Request := ⟨7, "a", ⟨2, none, .due, .ascending⟩⟩
    let requests : List Request := [⟨7, "\"", ⟨0, none, .due, .ascending⟩⟩, paged]
    ∃ statements, paged.Puts {} statements ∧ requests[1]? = some paged ∧
      (serve store {} [] requests)[1]? =
        some ⟨.error (.store (.query "gone")), [statements.count, statements.page]⟩ := by
  intro store paged requests
  have answers := (answers_in_turn store {} requests).2.2
  have first := (answers 0 _ rfl _).2 (.unreadable (by cbv))
  have unheard : ((serve store {} [] requests).take 1).flatMap Reply.sent = [] := by
    simp [List.take_one, List.head?_eq_getElem?, first]
  obtain ⟨statements, put, offset⟩ : ∃ statements : Statements,
      Request.Puts {} ⟨7, "a", ⟨2, none, .due, .ascending⟩⟩ statements ∧ statements.offset = 50 :=
    ⟨_, ⟨.leaf (.text "a" none), by cbv, by decide, by decide, rfl⟩, rfl⟩
  have inside : statements.offset < 51 := by
    rw [offset]
    decide
  refine ⟨statements, put, rfl, (answers 1 paged rfl _).2 ?_⟩
  rw [unheard]
  exact .unfetched put rfl inside rfl

end CardSearch.Search
