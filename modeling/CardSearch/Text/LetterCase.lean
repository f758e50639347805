/-!
Keywords are compared with the letters A to Z in lower case. Letters outside ASCII are left alone,
so no other character ever becomes part of a keyword.
-/

namespace CardSearch.Text

def lowered (text : String) : String :=
  String.ofList (text.toList.map Char.toLower)

end CardSearch.Text
