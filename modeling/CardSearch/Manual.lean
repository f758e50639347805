import CardSearch.Text.LetterCase

/-!
The reference of the query language: an overview and a page for each topic.
-/

namespace CardSearch.Manual

inductive Topic where
  | terms
  | operators
  | prefixes
  | properties
  | errors
  deriving DecidableEq, Repr

def Topic.names : List (String × Topic) :=
  [("terms", .terms), ("text", .terms), ("operators", .operators), ("ops", .operators),
   ("boolean", .operators), ("prefixes", .prefixes), ("prefix", .prefixes),
   ("properties", .properties), ("prop", .properties), ("props", .properties), ("errors", .errors),
   ("error", .errors)]

def Topic.ofName? (name : String) : Option Topic :=
  names.lookup (Text.lowered name)

def lines (lines : List String) : String :=
  String.join (lines.map (· ++ "\n"))

def overviewText : String :=
  lines [
    "CARDQL GRAMMAR",
    "",
    "CardQL is a search language for flashcards. A query is a list of terms;",
    "terms next to each other must all match. Queries compile to a parameterized",
    "SQL filter.",
    "",
    "GRAMMAR TOPICS",
    "",
    "  terms             Plain words, quoted phrases and field-scoped text",
    "  operators         AND, OR, NOT, '-' and parentheses",
    "  prefixes          tag:, deck:, is:, flag:, added:, rated:, re:, w:, nc:",
    "  properties        prop: comparisons on scheduling data",
    "  errors            What makes a query invalid",
    "",
    "QUICK REFERENCE",
    "",
    "  dog cat                 both words",
    "  \"big dog\"               exact phrase",
    "  front:cat               text in one field",
    "  tag:vocab::*            tag and its children",
    "  deck:Languages          deck and its subdecks",
    "  -is:paused              negation",
    "  a OR (b c)              grouping",
    "",
    "Run 'cardql grammar <topic>' for details."]

def termsText : String :=
  lines [
    "TERMS",
    "",
    "PLAIN WORDS",
    "  dog",
    "    Case-insensitive substring match over every field of the note.",
    "    A word runs until whitespace or a parenthesis.",
    "",
    "QUOTED PHRASES",
    "  \"big dog\"",
    "    Spaces inside quotes are part of the phrase. Use \\\" for a literal quote.",
    "    A quote that is never closed is an error.",
    "",
    "FIELD-SCOPED TEXT",
    "  front:cat",
    "  front:\"big dog\"",
    "    Only the named field is searched. Field names are case-insensitive.",
    "    A field the note type does not have matches nothing."]

def operatorsText : String :=
  lines [
    "OPERATORS",
    "",
    "  a b             a AND b (implicit)",
    "  a AND b         both",
    "  a OR b          either",
    "  NOT a           negation",
    "  -a              negation, the dash must touch the term",
    "  ( ... )         grouping",
    "",
    "PRECEDENCE (loosest first)",
    "  OR, then AND, then NOT / '-'. Parentheses override.",
    "",
    "    a OR b c      a OR (b AND c)",
    "    (a OR b) c    (a OR b) AND c",
    "    --a           NOT (NOT a)",
    "",
    "  Keywords are case-sensitive: 'and' is an ordinary word.",
    "  A lone '-' followed by a space is an ordinary word."]

def prefixesText : String :=
  lines [
    "PREFIXES",
    "",
    "  tag:vocab                 exactly this tag",
    "  tag:language::arabic::*   the tag and everything below it",
    "  tag:lang*                 tags starting with 'lang'",
    "  deck:Languages::Arabic    the deck and its subdecks",
    "  is:due                    due now, not paused or skipped",
    "  is:new | learning | review | relearning",
    "  is:paused | skipped       ('buried' is an alias of skipped)",
    "  flag:0..7                 flag colour, 0 means no flag",
    "  added:N                   created in the last N days",
    "  rated:N                   reviewed in the last N days",
    "  rated:N:R                 ... with rating R (1 Again, 2 Hard, 3 Good, 4 Easy)",
    "  re:PATTERN                regular expression over all fields",
    "  field:re:PATTERN          regular expression over one field",
    "  w:WORD                    whole word, '*' matches word characters",
    "  nc:TEXT                   ignore accents"]

def propertiesText : String :=
  lines [
    "PROPERTIES",
    "",
    "  prop:NAME OP VALUE",
    "",
    "  NAME   ivl, lapses, ease, reps, stability, retrievability, difficulty",
    "  OP     >=  <=  !=  >  <  =",
    "  VALUE  any finite number",
    "",
    "  Examples:",
    "    prop:ivl>=10",
    "    prop:lapses>3",
    "    prop:retrievability<0.9",
    "",
    "  Cards that were never reviewed have no retrievability and never match",
    "  a retrievability comparison."]

def errorsText : String :=
  lines [
    "ERRORS",
    "",
    "  A query is rejected as a whole; nothing runs. Causes:",
    "",
    "  - an unclosed double quote",
    "  - an unknown is: state",
    "  - a flag outside 0..7",
    "  - a prop: clause with an unknown name, no operator or a non-numeric value",
    "  - an added:/rated: clause with a bad day count or a rating outside 1..4",
    "  - unbalanced parentheses",
    "  - a query that ends where a term was expected, e.g. 'dog OR'"]

def Topic.text : Topic → String
  | .terms => termsText
  | .operators => operatorsText
  | .prefixes => prefixesText
  | .properties => propertiesText
  | .errors => errorsText

end CardSearch.Manual
