import SolidityRepl.Json.Basic
import SolidityRepl.Text.Quoted

/-!
# Writing JSON

The compact form: no spaces, ASCII only. Inside a text the quote, the backslash, the slash and five
controls are escaped by a backslash, other controls and everything beyond the tilde by the
hexadecimal number of its UTF-16 units; the delete control alone is written as it is.
-/

namespace SolidityRepl.Json

def escapeUnit (n : Nat) : List Char := '\\' :: 'u' :: Text.hexPadded 4 n

def escape (c : Char) : List Char :=
  let n := c.toNat
  if c == '"' || c == '\\' || c == '/' then ['\\', c]
  else if n == 0x8 then ['\\', 'b']
  else if n == 0xc then ['\\', 'f']
  else if c == '\n' then ['\\', 'n']
  else if c == '\r' then ['\\', 'r']
  else if c == '\t' then ['\\', 't']
  else if n < 0x20 then escapeUnit n
  else if n < 0x80 then [c]
  else if n < 0x10000 then escapeUnit n
  else
    escapeUnit (0xd800 + (n - 0x10000) / 0x400) ++ escapeUnit (0xdc00 + (n - 0x10000) % 0x400)

def renderText (s : String) : List Char :=
  '"' :: s.toList.flatMap escape ++ ['"']

/-- A float, with names of their own for those that are no numbers. -/
def renderReal (x : Float) : List Char :=
  if x.isNaN then "NaN".toList
  else if x.isInf then (if Decimal.isSigned x then "-Infinity" else "Infinity").toList
  else Decimal.text x

mutual

def renderChars : Json → List Char
  | .null => "null".toList
  | .bool true => "true".toList
  | .bool false => "false".toList
  | .int n => (toString n).toList
  | .real x => renderReal x
  | .str s => renderText s
  | .arr items => '[' :: renderItems items ++ [']']
  | .obj fields => '{' :: renderFields fields ++ ['}']

def renderItems : List Json → List Char
  | [] => []
  | [v] => renderChars v
  | v :: w :: rest => renderChars v ++ ',' :: renderItems (w :: rest)

def renderFields : List (String × Json) → List Char
  | [] => []
  | [(k, v)] => renderText k ++ ':' :: renderChars v
  | (k, v) :: f :: rest => renderText k ++ ':' :: renderChars v ++ ',' :: renderFields (f :: rest)

end

def render (v : Json) : String := String.ofList (renderChars v)

def byName (a b : String × Json) : Bool := decide (a.1 ≤ b.1)

mutual

/-- The same value with the fields of every object in the order of their names. -/
def sorted : Json → Json
  | .arr items => .arr (sortedItems items)
  | .obj fields => .obj ((sortedFields fields).mergeSort byName)
  | v => v

def sortedItems : List Json → List Json
  | [] => []
  | v :: rest => sorted v :: sortedItems rest

def sortedFields : List (String × Json) → List (String × Json)
  | [] => []
  | (k, v) :: rest => (k, sorted v) :: sortedFields rest

end

end SolidityRepl.Json
