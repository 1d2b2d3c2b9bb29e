import SolidityRepl.Json.Access

/-!
# Schemas

The description of a parameter says its type; a struct is described by its components, and its type
is written as theirs between brackets.
-/

namespace SolidityRepl.Abi

/-- Types with commas between them, if all are texts. -/
def joined (types : List Json) : Except Failure String :=
  (types.mapM Json.asText).map (",".intercalate ·)

/-- The type of a parameter with components: what follows the word `tuple` follows their types. -/
def structType (fields : Keyed Json) (components : List Json) : Except Failure Json := do
  let components ← joined components
  match ← (Json.obj fields).required "type" with
  | .str type =>
    match "tuple".toList.isPrefixOf? type.toList with
    | some suffix => return .str ("(" ++ components ++ ")" ++ String.ofList suffix)
    | none => throw (.componentsOutsideTuple type)
  | _ => throw .unsupported

mutual

/-- The type that a description says. Without components it is said as it is. -/
def schemaOf : Json → Except Failure Json
  | .obj fields =>
    match componentsIn fields with
    | some components => components >>= structType fields
    | none => (Json.obj fields).required "type"
  | _ => .error .wrongType

/-- The types of the components, if a description has components. -/
def componentsIn : List (String × Json) → Option (Except Failure (List Json))
  | [] => none
  | (name, value) :: rest =>
    if name = "components" then some (schemasIn value) else componentsIn rest

def schemasIn : Json → Except Failure (List Json)
  | .arr items => schemasOf items
  | .obj fields => if fields.isEmpty then .ok [] else .error .wrongType
  | .str s => if s.isEmpty then .ok [] else .error .wrongType
  | _ => .error .wrongType

def schemasOf : List Json → Except Failure (List Json)
  | [] => .ok []
  | item :: rest => do
    let type ← schemaOf item
    return type :: (← schemasOf rest)

end

/-- A function's name with the types of its inputs. -/
def signatureOf (function : Json) : Except Failure String := do
  let inputs ← joined (← schemasIn (← function.required "inputs"))
  let name ← function.required "name"
  return name.shown ++ "(" ++ inputs ++ ")"

end SolidityRepl.Abi
