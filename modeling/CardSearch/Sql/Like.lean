/-!
Patterns of `LIKE`: `%` matches any run of characters and `_` any one character, and a backslash
takes the meaning of the character behind it away.
-/

namespace CardSearch.Sql.Like

def isSpecial (character : Char) : Bool :=
  character == '\\' || character == '%' || character == '_'

def escapeChars : List Char → List Char
  | [] => []
  | character :: rest =>
    if isSpecial character then '\\' :: character :: escapeChars rest
    else character :: escapeChars rest

def escape (text : String) : String :=
  String.ofList (escapeChars text.toList)

def containing (text : String) : String :=
  "%" ++ escape text ++ "%"

def beginning (text : String) : String :=
  escape text ++ "%"

end CardSearch.Sql.Like
