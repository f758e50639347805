/-!
Regular expressions for whole words. A star stands for any run of word characters; every other
character stands for itself.
-/

namespace CardSearch.Sql.WholeWord

def isSpecial (character : Char) : Bool :=
  "\\.+*?()|[]\x7b\x7d^$#&-~".toList.contains character

def item (character : Char) : List Char :=
  if character = '*' then ['\\', 'w', '*']
  else if isSpecial character then ['\\', character]
  else [character]

def pattern (word : String) : String :=
  "\\m" ++ String.ofList (word.toList.flatMap item) ++ "\\M"

end CardSearch.Sql.WholeWord
