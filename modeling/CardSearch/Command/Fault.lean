import CardSearch.Search.Service

/-!
Why a command ends without a result.
-/

namespace CardSearch.Command

inductive CommandFault where
  | query (error : Query.SyntaxError)
  | search (fault : Search.SearchFault)
  | input (reason : String)
  | noQuery
  | unknownTopic (name : String)
  deriving DecidableEq, Repr

namespace CommandFault

def invalidQuery (reason : String) : String :=
  "Syntax error: " ++ reason

def failedSearch (reason : String) : String :=
  "Search failed: " ++ reason

def text : CommandFault → String
  | .query error => invalidQuery error.text
  | .search fault => failedSearch fault.text
  | .input reason => "IO error: " ++ reason
  | .noQuery => "No query provided. Pass it as an argument or pipe it to stdin."
  | .unknownTopic name =>
    "Unknown grammar topic: '" ++ name ++ "'\nRun 'cardql grammar' to see available topics."

end CommandFault

end CardSearch.Command
