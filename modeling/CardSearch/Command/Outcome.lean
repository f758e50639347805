import CardSearch.Command.Arguments
import CardSearch.Command.Fault
import CardSearch.Manual
import CardSearch.Text.Blank

/-!
What a command prints and how it ends.
-/

namespace CardSearch.Command

structure Outcome where
  exitCode : UInt8
  output : String
  errors : String
  deriving DecidableEq, Repr

/-- Takes the query from the arguments, or from the input without the blanks at its end. -/
def queryText (given : Option String) (input : ByteArray) : Except CommandFault String :=
  match given with
  | some query => .ok query
  | none =>
    match String.fromUTF8? input with
    | some text => .ok (Text.trimEnd text)
    | none => .error (.input "stream did not contain valid UTF-8")

def printReport (kind : Report.Kind) (layout : Json.Layout) (query : String) :
    Except CommandFault String :=
  match Report.ofQuery kind query with
  | .ok report => .ok (report.print layout)
  | .error error => .error (.query error)

def printManual (topic : Option String) : Except CommandFault String :=
  match topic with
  | none => .ok Manual.overviewText
  | some name =>
    match Manual.Topic.ofName? name with
    | some topic => .ok topic.text
    | none => .error (.unknownTopic name)

def Task.perform (task : Task) (input : ByteArray) : Except CommandFault String :=
  match task with
  | .report kind layout query => do
    let query ← queryText query input
    return (← printReport kind layout query) ++ "\n"
  | .manual topic => printManual topic

def usageText : String :=
  Manual.lines [
    "Usage: cardql [-l|--log-level LEVEL] <COMMAND>",
    "",
    "  tokens  [-p|--pretty] [QUERY]               the tokens of a query",
    "  parse   [-p|--pretty] [QUERY]               its syntax tree",
    "  compile [-p|--pretty] [--offset N] [QUERY]  the SQL filter it stands for",
    "  grammar [TOPIC]                             the reference of the language",
    "",
    "  -h, --help     print this text",
    "  -V, --version  print the version"]

namespace Invocation

def readsInput : Invocation → Bool
  | .run (.report _ _ none) => true
  | _ => false

def perform (invocation : Invocation) (input : ByteArray) : Outcome :=
  match invocation with
  | .version => ⟨0, "cardql 0.2.0\n", ""⟩
  | .help => ⟨0, usageText, ""⟩
  | .misuse => ⟨2, "", usageText⟩
  | .run task =>
    match task.perform input with
    | .ok text => ⟨0, text, ""⟩
    | .error error => ⟨1, "", error.text ++ "\n"⟩

end Invocation

end CardSearch.Command
