import SolidityRepl.Abi.Decoder
import SolidityRepl.Abi.Schema
import SolidityRepl.Abi.Shape

/-!
# Functions

A contract's interface describes its functions. A call names a function by the hash of its
signature; what comes back is decoded by the types of its outputs.
-/

namespace SolidityRepl.Abi

/-- Whether an item of an interface is the function of a name. No name is that of a function which
is not given one. -/
def isFunction (name : Option String) (item : Json) : Except Failure Bool := do
  let type ← item.optional "type" .null
  let itsName ← item.optional "name" .null
  return type.same (.str "function") && itsName.same (name.elim .null .str)

def findIn? (name : Option String) : List Json → Except Failure (Option Json)
  | [] => .ok none
  | item :: rest => do
    if ← isFunction name item then return some item
    findIn? name rest

def findFunction? (interface : Json) (name : Option String) : Except Failure (Option Json) := do
  findIn? name (← interface.parts)

/-- The bytes that a call begins with: the first four of the hash of the signature without its
spaces. -/
def selector (signature : String) : Bytes :=
  (Hash.keccak256 (Text.encode (String.ofList (signature.toList.filter (· != ' '))))).take 4

def selectorOf (function : Json) : Except Failure Bytes := (signatureOf function).map selector

/-- No value, the value, or all values together. -/
def together : List Value → Value
  | [] => .nothing
  | [value] => value
  | values => .tuple values

/-- Each decoded value as what it is meant as. -/
def shapeAll : List Json → List Value → Except Failure (List Value)
  | output :: outputs, value :: rest => do
    let value ← shape output value
    return value :: (← shapeAll outputs rest)
  | _, _ => .ok []

/-- The value that a call of a function gave back. -/
def outputsOf (function : Json) (data : Bytes) : Except Failure Value := do
  let outputs ← function.required "outputs"
  let types ← (← schemasIn outputs).mapM fun type => type.asText >>= AbiType.ofText
  let values ← decodeAll types data
  return together (← shapeAll (← outputs.parts) values)

end SolidityRepl.Abi
