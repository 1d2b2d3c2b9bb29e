import SolidityRepl.Fragment.Declaration
import SolidityRepl.Text.Search

/-!
# Types of returned values

How the type of an expression is learnt from what the compiler says when the expression is returned
under a type it does not have. Either the message says the type, in the compiler's words, or it says
that the number of values is wrong; then the called function's own declaration is looked up.
-/

namespace SolidityRepl.ReturnType

open Text

/-- Words for the kind of a user-defined type. -/
def kinds : List (List Char) := ["contract ".toList, "struct ".toList, "enum ".toList]

def dropKind (cs : List Char) : List Char :=
  (kinds.findSome? fun k => k.isPrefixOf? cs).getD cs

/-- The ways to say that a value lives in storage. -/
def storageEnds : List (List Char) := [" storage ref".toList, " storage pointer".toList]

/-- A value that lives in storage is returned in memory. -/
def toMemory (cs : List Char) : List Char :=
  match storageEnds.find? (fun e => e.isSuffixOf cs) with
  | some e => cs.take (cs.length - e.length) ++ " memory".toList
  | none => cs

/-- The type to declare for a type in the compiler's words: literals get the widest type. -/
def declaredChars (cs : List Char) : List Char :=
  let type := strip cs
  if "int_const -".toList.isPrefixOf type then "int".toList
  else if "int_const ".toList.isPrefixOf type then "uint".toList
  else if "literal_string ".toList.isPrefixOf type then "string memory".toList
  else toMemory (dropKind type)

def declared (type : String) : String := String.ofList (declaredChars type.toList)

def beforeType : List Char := "Return argument type ".toList

def afterType : List Char := " is not implicitly convertible to expected type".toList

/-- The type that a message says, up to the last place where it can end on its line. -/
def ofMessage? (message : List Char) : Option (List Char) :=
  firstMatch (fun _ rest => do
    let rest ← beforeType.isPrefixOf? rest
    beforeLast? afterType (rest.takeWhile (· != '\n'))) none message

/-- A letter as it is compared: lower case, and the two other forms of `i` and the other of `s`
as these. -/
def foldCase (c : Char) : Char :=
  if c == '\u0130' || c == '\u0131' then 'i' else if c == '\u017f' then 's' else c.toLower

/-- What the compiler says when the number of returned values is wrong. -/
def countPhrase : List Char := "different number of arguments in return statement".toList

/-- A message about the number of returned values, in letters of either case. -/
def isCountMessage (message : List Char) : Bool := occurs countPhrase (message.map foldCase)

/-- The first name in a text that is followed by an opening bracket. -/
def calledName? (cs : List Char) : Option (List Char) :=
  firstMatch (fun _ rest => do
    let (name, rest) ← Fragment.name? rest
    if (stripStart rest).head? == some '(' then some name else none) none cs

/-- What stands between a function's parameters and its body, from after the name on. -/
def attributes? (cs : List Char) : Option (List Char) :=
  match stripStart cs with
  | '(' :: rest =>
    (splitAtFirst? ')' rest).map fun (_, rest) => rest.takeWhile fun c => c != '\x7b' && c != ';'
  | _ => none

/-- The attributes of the first function of a name. -/
def declaration? (name source : List Char) : Option (List Char) :=
  firstMatch (fun _ rest => do
    let rest ← "function".toList.isPrefixOf? rest
    let rest ← blankRest? rest
    let rest ← name.isPrefixOf? rest
    attributes? rest) none source

/-- What stands between the brackets of the first returns clause. -/
def returnsClause? (attributes : List Char) : Option (List Char) :=
  firstMatch (fun before rest => do
    if startsWord before then
      let rest ← "returns".toList.isPrefixOf? rest
      match stripStart rest with
      | '(' :: rest => (splitAtFirst? ')' rest).map (·.1)
      | _ => none
    else none) none attributes

/-- What the function called in a text is declared to return in a source: empty if it is declared
without a returns clause, none if it is not declared. -/
def lookUp? (text source : String) : Option String := do
  let name ← calledName? text.toList
  let attributes ← declaration? name source.toList
  match returnsClause? attributes with
  | some values => some (String.ofList (strip values))
  | none => some ""

end SolidityRepl.ReturnType
