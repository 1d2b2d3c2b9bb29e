import SolidityRepl.Bytes
import SolidityRepl.Text.Number
import SolidityRepl.Failure

/-!
# Quantities on the wire

Nodes write numbers and bytes as texts of hexadecimal digits marked by `0x`.
-/

namespace SolidityRepl.Node

/-- A number as it is sent. A text counts as it is, but must be marked. -/
def quantity (v : Json) : Except Failure String :=
  match v with
  | .int n => .ok (Text.hexShown n)
  | .bool b => .ok (Text.hexShown (if b then 1 else 0))
  | .str s => if "0x".toList.isPrefixOf s.toList then .ok s else .error .notPrefixed
  | _ => .error .wrongType

/-- A number that was received. Nothing but the mark is zero. -/
def numberOf (v : Json) : Except Failure Int :=
  match v with
  | .str s =>
    if s = "0x" then .ok 0
    else match Text.hexNumber? s with
      | some n => .ok n
      | none => .error .invalidValue
  | _ => .error .wrongType

def bytesOfText (s : String) : Except Failure Bytes :=
  match Bytes.ofPrefixedHex? s with
  | some bytes => .ok bytes
  | none => .error .invalidValue

def bytesOf (v : Json) : Except Failure Bytes :=
  match v with
  | .str s => bytesOfText s
  | _ => .error .unsupported

end SolidityRepl.Node
