import SolidityRepl.Fragment.Literal

/-!
# Assignments in a fragment

An equals sign assigns if it stands outside of brackets and string literals, between two other
characters, and is no part of a comparison or an arrow. A shift in front of it makes a compound
assignment of it.
-/

namespace SolidityRepl.Fragment

def opens (c : Char) : Bool := c == '(' || c == '['

def closes (c : Char) : Bool := c == ')' || c == ']'

/-- An equals sign assigns between the characters before it, the nearest first, and after it. -/
def assignsAt (before after : List Char) : Bool :=
  match after with
  | [] => false
  | next :: _ =>
    if next == '=' || next == '>' then false
    else match before with
      | [] => false
      | '<' :: '<' :: _ => true
      | '>' :: '>' :: _ => true
      | c :: _ => !(c == '=' || c == '!' || c == '<' || c == '>')

/-- An assignment in the rest, at a depth of brackets. A closing bracket too many does not count. -/
def assignsFrom (depth : Nat) (before : List Char) : List Char → Bool
  | [] => false
  | c :: rest =>
    if opens c then assignsFrom (depth + 1) (c :: before) rest
    else if closes c then assignsFrom (depth - 1) (c :: before) rest
    else (c == '=' && depth == 0 && assignsAt before rest) ||
      assignsFrom depth (c :: before) rest

def hasAssignment (cs : List Char) : Bool := assignsFrom 0 [] (maskLiterals cs)

end SolidityRepl.Fragment
