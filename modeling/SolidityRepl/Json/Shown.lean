import SolidityRepl.Json.Basic
import SolidityRepl.Text.Quoted

/-!
# JSON values inside messages

A text stands in a message as it is. Inside a list or an object texts are quoted; nothing, truth
and falsehood have the names `None`, `True` and `False`.
-/

namespace SolidityRepl.Json

mutual

def nestedChars : Json → List Char
  | .null => "None".toList
  | .bool true => "True".toList
  | .bool false => "False".toList
  | .int n => (toString n).toList
  | .real x => Decimal.text x
  | .str s => Text.quotedChars s.toList
  | .arr items => '[' :: nestedItems items ++ [']']
  | .obj fields => '{' :: nestedFields fields ++ ['}']

def nestedItems : List Json → List Char
  | [] => []
  | [v] => nestedChars v
  | v :: w :: rest => nestedChars v ++ ',' :: ' ' :: nestedItems (w :: rest)

def nestedFields : List (String × Json) → List Char
  | [] => []
  | [(k, v)] => Text.quotedChars k.toList ++ ':' :: ' ' :: nestedChars v
  | (k, v) :: f :: rest =>
    Text.quotedChars k.toList ++ ':' :: ' ' :: nestedChars v ++
      ',' :: ' ' :: nestedFields (f :: rest)

end

/-- A value by itself: a text is not quoted. -/
def shown : Json → String
  | .str s => s
  | v => String.ofList (nestedChars v)

end SolidityRepl.Json
