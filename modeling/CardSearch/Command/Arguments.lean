import CardSearch.Json.Printer
import CardSearch.Number.Numeral
import CardSearch.Number.Power
import CardSearch.Report.Kind
import CardSearch.Text.LetterCase

/-!
The arguments of the command line. They are taken from left to right, and the first that asks for
the version or for help, or is a mistake, decides.
-/

namespace CardSearch.Command

/-- What to do. A query that is missing is read from the input. -/
inductive Task where
  | report (kind : Report.Kind) (layout : Json.Layout) (query : Option String)
  | manual (topic : Option String)
  deriving DecidableEq, Repr

inductive Invocation where
  | run (task : Task)
  | version
  | help
  | misuse
  deriving DecidableEq, Repr

/-- The form of an argument. A dash alone is plain. -/
inductive Argument where
  | plain (text : String)
  | separator
  | long (name : String) (value : Option String)
  | short (letters : List Char)
  deriving DecidableEq, Repr

def Argument.ofLong (text : List Char) : Argument :=
  .long (String.ofList (text.takeWhile (· != '='))) <|
    match text.dropWhile (· != '=') with
    | _ :: value => some (String.ofList value)
    | [] => none

def Argument.ofText (text : String) : Argument :=
  match text.toList with
  | ['-', '-'] => .separator
  | '-' :: '-' :: option => .ofLong option
  | '-' :: first :: letters => .short (first :: letters)
  | _ => .plain text

/-- A whole number of 64 bits, which may have a plus sign. -/
def word64? (text : String) : Option Nat :=
  Number.numeral? (Number.twoTo 64) <|
    match text.toList with
    | '+' :: digits => digits
    | digits => digits

def isLogLevel (text : String) : Bool :=
  match word64? text with
  | some number => 1 ≤ number && number ≤ 5
  | none => ["error", "warn", "info", "debug", "trace"].contains (Text.lowered text)

inductive CommandName where
  | tokens
  | parse
  | compile
  | grammar
  deriving DecidableEq, Repr

def CommandName.ofText? (text : String) : Option CommandName :=
  [("tokens", tokens), ("parse", parse), ("compile", compile), ("grammar", grammar)].lookup text

structure Given where
  pretty : Bool := false
  offset : Option Nat := none
  positional : Option String := none
  deriving DecidableEq, Repr

namespace CommandName

def hasPretty (name : CommandName) : Bool :=
  name != grammar

def hasOffset (name : CommandName) : Bool :=
  name == compile

def task (name : CommandName) (given : Given) : Task :=
  let layout := if given.pretty then Json.Layout.pretty else .compact
  match name with
  | tokens => .report .tokens layout given.positional
  | parse => .report .tree layout given.positional
  | compile => .report (.sql (given.offset.getD 0)) layout given.positional
  | grammar => .manual given.positional

end CommandName

namespace Given

def setPretty (given : Given) : Option Given :=
  if given.pretty then none else some { given with pretty := true }

def setOffset (given : Given) (text : String) : Option Given :=
  match given.offset, word64? text with
  | none, some offset => some { given with offset := some offset }
  | _, _ => none

def setPositional (given : Given) (text : String) : Option Given :=
  match given.positional with
  | none => some { given with positional := some text }
  | some _ => none

end Given

inductive Letters where
  | given (given : Given)
  | help
  | misuse

def Letters.read (name : CommandName) (given : Given) : List Char → Letters
  | [] => .given given
  | 'h' :: _ => .help
  | 'p' :: rest =>
    match (if name.hasPretty then given.setPretty else none) with
    | some given => read name given rest
    | none => .misuse
  | _ => .misuse

inductive Leading where
  | version
  | help
  | level (text : Option String)
  | misuse

namespace Leading

def ofLetters : List Char → Leading
  | 'V' :: _ => .version
  | 'h' :: _ => .help
  | ['l'] => .level none
  | 'l' :: '=' :: text => .level (some (String.ofList text))
  | 'l' :: text => .level (some (String.ofList text))
  | _ => .misuse

def ofArgument : Argument → Leading
  | .short letters => ofLetters letters
  | .long "version" none => .version
  | .long "help" none => .help
  | .long "log-level" text => .level text
  | _ => .misuse

end Leading

namespace Invocation

def positionals (name : CommandName) (given : Given) : List String → Invocation
  | [] => .run (name.task given)
  | text :: rest =>
    match given.setPositional text with
    | some given => positionals name given rest
    | none => .misuse

/-- Reads the arguments behind the name of a command. With `due` the next one is an offset. -/
def options (name : CommandName) (given : Given) (due : Bool) : List String → Invocation
  | [] => if due then .misuse else .run (name.task given)
  | text :: rest =>
    match due, Argument.ofText text with
    | true, .plain value =>
      match given.setOffset value with
      | some given => options name given false rest
      | none => .misuse
    | true, _ => .misuse
    | false, .plain value =>
      match given.setPositional value with
      | some given => options name given false rest
      | none => .misuse
    | false, .separator => positionals name given rest
    | false, .short letters =>
      match Letters.read name given letters with
      | .given given => options name given false rest
      | .help => .help
      | .misuse => .misuse
    | false, .long "help" none => .help
    | false, .long "pretty" none =>
      match (if name.hasPretty then given.setPretty else none) with
      | some given => options name given false rest
      | none => .misuse
    | false, .long "offset" none => if name.hasOffset then options name given true rest else .misuse
    | false, .long "offset" (some value) =>
      match (if name.hasOffset then given.setOffset value else none) with
      | some given => options name given false rest
      | none => .misuse
    | false, .long _ _ => .misuse

def helpOn : List String → Invocation
  | [] => .help
  | [text] => if text = "help" ∨ (CommandName.ofText? text).isSome then .help else .misuse
  | _ => .misuse

/-- Reads the arguments up to the name of a command. With `due` the next one is a log level; a level
is `given` once. -/
def leading (given due : Bool) : List String → Invocation
  | [] => .misuse
  | text :: rest =>
    match due, Argument.ofText text with
    | true, .plain word => if isLogLevel word then leading given false rest else .misuse
    | true, _ => .misuse
    | false, .plain word =>
      match CommandName.ofText? word with
      | some name => options name {} false rest
      | none => if word = "help" then helpOn rest else .misuse
    | false, argument =>
      match Leading.ofArgument argument with
      | .version => .version
      | .help => .help
      | .misuse => .misuse
      | .level none => if given then .misuse else leading true true rest
      | .level (some word) =>
        if given || !isLogLevel word then .misuse else leading true false rest

def ofArguments (arguments : List String) : Invocation :=
  leading false false arguments

end Invocation

end CardSearch.Command
