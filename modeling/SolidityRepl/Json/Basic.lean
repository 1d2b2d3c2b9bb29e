import SolidityRepl.Decimal
import SolidityRepl.Keyed

/-!
# JSON values

The compiler, the node and the saved session all speak JSON. Whole numbers have any size, other
numbers are floats, and the fields of an object keep the order in which they were first written.
-/

namespace SolidityRepl

inductive Json where
  | null
  | bool (b : Bool)
  | int (n : Int)
  | real (x : Float)
  | str (s : String)
  | arr (items : List Json)
  | obj (fields : List (String × Json))
  deriving Inhabited, Repr

namespace Json

/-- The field of an object; other values have none. -/
def get? (key : String) : Json → Option Json
  | .obj fields => Keyed.get? key fields
  | _ => none

/-- What counts as nothing: `null`, `false`, zero, and the empty text, list and object. -/
def isVoid : Json → Bool
  | .null => true
  | .bool b => !b
  | .int n => n == 0
  | .real x => x == 0.0
  | .str s => s.isEmpty
  | .arr items => items.isEmpty
  | .obj fields => fields.isEmpty

/-- The number a value stands for, as `m · 2 ^ q`; truth values are zero and one. -/
def number? : Json → Option (Int × Int)
  | .bool b => some (if b then 1 else 0, 0)
  | .int n => some (n, 0)
  | .real x => Decimal.value? x
  | _ => none

/-- Equal numbers, with both brought to the smaller power of two. -/
def sameNumber (a b : Int × Int) : Bool :=
  let q := min a.2 b.2
  a.1 * Int.pow 2 (a.2 - q).toNat == b.1 * Int.pow 2 (b.2 - q).toNat

mutual

/-- Equality of values: numbers by value, objects by their fields in any order. A float that is no
number is the same as itself. -/
def same : Json → Json → Bool
  | .null, .null => true
  | .str a, .str b => a == b
  | .arr a, .arr b => sameItems a b
  | .obj a, .obj b => a.length == b.length && sameFields a b
  | .real a, .real b => a.toBits == b.toBits || a == b
  | a, b => match a.number?, b.number? with
    | some x, some y => sameNumber x y
    | _, _ => false

def sameItems : List Json → List Json → Bool
  | [], [] => true
  | a :: as, b :: bs => same a b && sameItems as bs
  | _, _ => false

/-- Every field of the first is written in the second, with the same value. -/
def sameFields : List (String × Json) → List (String × Json) → Bool
  | [], _ => true
  | (k, v) :: rest, fields =>
    (match Keyed.get? k fields with
     | some w => same v w
     | none => false) && sameFields rest fields

end

theorem same_str {v : Json} {s : String} : v.same (.str s) = true ↔ v = .str s := by
  cases v with
  | str t => simp [Json.same]
  | _ => simp [Json.same, Json.number?]

def text? : Json → Option String
  | .str s => some s
  | _ => none

def items? : Json → Option (List Json)
  | .arr items => some items
  | _ => none

end Json

end SolidityRepl
