import SolidityRepl.Abi.Address
import SolidityRepl.Json.Access
import SolidityRepl.Text.Compatible
import SolidityRepl.Text.Identifier
import SolidityRepl.Text.Search

/-!
# Shaping decoded values

A decoded value is a number, a text, bytes, or several values together. Its description says what it
is meant as: a list, an address, or a struct with named fields.
-/

namespace SolidityRepl.Abi

open Text

/-- The type without its outermost dimension, if it has one. -/
def itemType? (type : List Char) : Option (List Char) :=
  if type.getLast? == some ']' then (splitAtLast? '[' type).map (·.1) else none

/-- A name that a field cannot have as it is. -/
def isUnfit (seen : List String) (name : String) : Bool :=
  !isFreeIdentifier name || name.startsWith "_" || seen.contains name

/-- The names of fields: one that is unfit, or was there before, is replaced by its place. -/
def fieldNamesFrom (place : Nat) (seen : List String) : List String → List String
  | [] => []
  | name :: rest =>
    (if isUnfit seen name then "_" ++ toString place else name) ::
      fieldNamesFrom (place + 1) (name :: seen) rest

def fieldNames (names : List String) : List String := fieldNamesFrom 0 [] names

/-- Names that fields can have together: no two are compatible with each other, and none is with a
name that structs use themselves. -/
def areDistinct (names : List String) : Bool :=
  let forms := ("_cls" :: names).map takenApart
  decide forms.Nodup && !forms.contains (takenApart "__debug__")

/-- The name of a struct that has none. -/
def unnamed : String := "user_struct"

/-- The name of a struct in the compiler's words for its type: what stands behind the last point. -/
def structName (internal : String) : String :=
  let last := afterLast '.' internal.toList
  let name := ("struct ".toList.isPrefixOf? last).getD last
  if name.isEmpty then unnamed else String.ofList name

/-- The components of a struct, its name, and the names of its fields. -/
def structOf (description : Json) : Except Failure (List Json × String × List String) := do
  let components ← (← description.required "components").parts
  let names ← components.mapM fun c => c.required "name"
  match ← description.optional "internalType" (.str "") with
  | .str internal =>
    let name := structName internal
    let fields := fieldNames (names.map Json.shown)
    if !isFreeIdentifier name then throw .invalidValue
    if !areDistinct fields then throw .clashingFields
    return (components, name, fields)
  | _ => throw .unsupported

def typeIn (description : Json) : Except Failure (List Char) := do
  match ← description.required "type" with
  | .str type => return type.toList
  | _ => throw .unsupported

/-- A single value as what it is meant as. -/
def shapeLeaf (type : List Char) (value : Value) : Except Failure Value :=
  if type == "address".toList then
    match value with
    | .text s => (Address.ofJson (.str s)).map .address
    | _ => .error .wrongType
  else .ok value

mutual

/-- A decoded value as what it is meant as, given the description it belongs to and the type it has
after some dimensions. -/
def shapeAs (description : Json) (type : List Char) : Value → Except Failure Value
  | .tuple values =>
    match itemType? type with
    | some item => (shapeItems description item values).map .list
    | none =>
      if type == "tuple".toList then do
        let (components, name, names) ← structOf description
        let fields ← shapeFields components values
        return .struct name (names.zip fields)
      else shapeLeaf type (.tuple values)
  | value => shapeLeaf type value

def shapeItems (description : Json) (type : List Char) : List Value → Except Failure (List Value)
  | [] => .ok []
  | value :: rest => do
    let value ← shapeAs description type value
    return value :: (← shapeItems description type rest)

def shapeFields : List Json → List Value → Except Failure (List Value)
  | component :: components, value :: rest => do
    let value ← shapeAs component (← typeIn component) value
    return value :: (← shapeFields components rest)
  | _, _ => .ok []

end

/-- A decoded value as what it is meant as. -/
def shape (description : Json) (value : Value) : Except Failure Value := do
  shapeAs description (← typeIn description) value

end SolidityRepl.Abi
