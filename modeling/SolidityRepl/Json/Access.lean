import SolidityRepl.Failure
import SolidityRepl.Text.Search

/-!
# Parts of JSON values

What is asked of a value that comes from elsewhere, and how it fails: a value that is no object has
no fields to ask for, a field that must be there may be missing, and a value that is no list cannot
be gone through.
-/

namespace SolidityRepl.Json

def optional (value : Json) (key : String) (fallback : Json) : Except Failure Json :=
  match value with
  | .obj fields => .ok ((Keyed.get? key fields).getD fallback)
  | _ => .error .unsupported

def required (key : String) : Json → Except Failure Json
  | .obj fields => match Keyed.get? key fields with
    | some v => .ok v
    | none => .error (.missingField key)
  | _ => .error .wrongType

def asFields : Json → Except Failure (Keyed Json)
  | .obj fields => .ok fields
  | _ => .error .unsupported

/-- What going through a value yields: items, names of fields, or characters. -/
def parts : Json → Except Failure (List Json)
  | .arr items => .ok items
  | .obj fields => .ok (fields.map fun f => .str f.1)
  | .str s => .ok (s.toList.map fun c => .str (String.singleton c))
  | _ => .error .wrongType

def count : Json → Except Failure Nat
  | .arr items => .ok items.length
  | .obj fields => .ok fields.length
  | .str s => .ok s.length
  | _ => .error .wrongType

/-- Whether a text is in a value: as a field, as an item, or inside a text. -/
def mentions (key : String) : Json → Except Failure Bool
  | .obj fields => .ok (Keyed.get? key fields).isSome
  | .arr items => .ok (items.any fun v => v.same (.str key))
  | .str s => .ok (Text.occurs key.toList s.toList)
  | _ => .error .wrongType

def asText : Json → Except Failure String
  | .str s => .ok s
  | _ => .error .wrongType

end SolidityRepl.Json
