import SolidityRepl.Json.Access

/-!
# Calculating with given numbers

Numbers that are given as values are whole or floats. Whole numbers are calculated with exactly, and
what meets a float becomes one. A result that is beyond all floats is too large.
-/

namespace SolidityRepl

/-- A number that is calculated with. -/
inductive Number where
  | whole (n : Int)
  | real (x : Float)
  deriving Repr

namespace Number

/-- The number a value is; truth values are zero and one. -/
def ofJson : Json → Except Failure Number
  | .bool b => .ok (.whole (if b then 1 else 0))
  | .int n => .ok (.whole n)
  | .real x => .ok (.real x)
  | _ => .error .wrongType

/-- A float, unless it is beyond all floats though its sources are not. -/
def bounded (sources : Bool) (x : Float) : Except Failure Float :=
  if sources && x.isInf then .error .tooLarge else .ok x

/-- The float nearest to `n · 10 ^ power`. -/
def scaled (n power : Int) : Except Failure Float :=
  let size := Decimal.nearest n.natAbs power
  bounded true (if n < 0 then -size else size)

def toFloat : Number → Except Failure Float
  | .whole n => scaled n 0
  | .real x => .ok x

def power (a : Number) (n : Nat) : Except Failure Number :=
  match a with
  | .whole a => .ok (.whole (a.pow n))
  | .real x => (bounded x.isFinite (x.pow (Float.ofNat n))).map .real

def times (a b : Number) : Except Failure Number :=
  match a, b with
  | .whole a, .whole b => .ok (.whole (a * b))
  | a, b => do return .real ((← a.toFloat) * (← b.toFloat))

def thousandth : Number → Except Failure Float
  | .whole n => scaled n (-3)
  | .real x => .ok (x / 1000)

end Number

end SolidityRepl
