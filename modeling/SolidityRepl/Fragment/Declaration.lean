import SolidityRepl.Text.Blank
import SolidityRepl.Text.Word

/-!
# Declarations in a fragment

A declaration without a value is a type, any number of array suffixes, a data location or none, and
a name. An amount with a unit looks the same, two words with white space between, and is not one.
-/

namespace SolidityRepl.Fragment

/-- What may follow the last word: white space, a semicolon or none, and nothing more than one
line feed. -/
def endsHere (cs : List Char) : Bool :=
  match Text.stripStart cs with
  | [] => true
  | [';'] => true
  | [';', '\n'] => true
  | _ => false

def name? : List Char → Option (List Char × List Char)
  | [] => none
  | c :: rest =>
    if Text.isNameStart c then
      some (c :: rest.takeWhile Text.isNameChar, rest.dropWhile Text.isNameChar)
    else none

/-- The rest after a dotted path of names, as a type is named by. -/
def pathRest? : List Char → Option (List Char)
  | [] => none
  | c :: rest =>
    if Text.isNameStart c then some (rest.dropWhile fun d => Text.isNameChar d || d == '.')
    else none

/-- The rest after the closing bracket of an array suffix. -/
def afterBracket? : List Char → Option (List Char)
  | [] => none
  | c :: rest => if c == ']' then some rest else afterBracket? rest

/-- The rest after one array suffix, with white space in front of it or none. -/
def suffixRest? (cs : List Char) : Option (List Char) :=
  match Text.stripStart cs with
  | '[' :: rest => afterBracket? rest
  | _ => none

def suffixesRest : Nat → List Char → List Char
  | 0, cs => cs
  | fuel + 1, cs =>
    match suffixRest? cs with
    | some rest => suffixesRest fuel rest
    | none => cs

/-- Where a value of a reference type lives. -/
def locations : List (List Char) := ["memory".toList, "storage".toList, "calldata".toList]

/-- White space and a name, with nothing after it. -/
def endsWithName (cs : List Char) : Bool :=
  match Text.blankRest? cs with
  | none => false
  | some rest =>
    match name? rest with
    | none => false
    | some (_, rest) => endsHere rest

/-- What follows the type of a declaration: a name, or a data location and a name. -/
def declaresName (cs : List Char) : Bool :=
  match Text.blankRest? cs with
  | none => false
  | some rest =>
    match name? rest with
    | none => false
    | some (name, rest) => endsHere rest || (locations.contains name && endsWithName rest)

def isTypedName (cs : List Char) : Bool :=
  match pathRest? cs with
  | none => false
  | some rest => declaresName (suffixesRest rest.length rest)

def units : List (List Char) :=
  ["wei", "gwei", "szabo", "finney", "ether", "seconds", "minutes", "hours", "days", "weeks",
   "years"].map String.toList

/-- White space and a unit, with nothing after it. -/
def endsWithUnit (cs : List Char) : Bool :=
  match Text.blankRest? cs with
  | none => false
  | some rest => units.any fun u =>
    match u.isPrefixOf? rest with
    | none => false
    | some rest => endsHere rest

def isDigitOrMark (c : Char) : Bool := c.isDigit || c == '_'

def isHexDigitOrMark (c : Char) : Bool :=
  c.isDigit || ('a' ≤ c && c ≤ 'f') || ('A' ≤ c && c ≤ 'F') || c == '_'

/-- The rest after a power of ten, which may be missing; a power without digits is none. -/
def powerRest? : List Char → Option (List Char)
  | 'e' :: rest =>
    let digits := match rest with
      | '-' :: more => more
      | more => more
    if (digits.takeWhile Char.isDigit).isEmpty then none else some (digits.dropWhile Char.isDigit)
  | cs => some cs

def numberRest? : List Char → Option (List Char)
  | '0' :: 'x' :: rest =>
    if (rest.takeWhile isHexDigitOrMark).isEmpty then none
    else some (rest.dropWhile isHexDigitOrMark)
  | c :: rest =>
    if c.isDigit then
      match rest.dropWhile isDigitOrMark with
      | '.' :: places =>
        if (places.takeWhile isDigitOrMark).isEmpty then none
        else powerRest? (places.dropWhile isDigitOrMark)
      | more => powerRest? more
    else none
  | [] => none

def isAmount (cs : List Char) : Bool :=
  match numberRest? cs with
  | none => false
  | some rest => endsWithUnit rest

/-- A fragment that declares a variable without a value. -/
def looksLikeDeclaration (cs : List Char) : Bool := !isAmount cs && isTypedName cs

end SolidityRepl.Fragment
