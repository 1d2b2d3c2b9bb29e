import SolidityRepl.Decimal

/-!
# Time

Times and durations are numbers of seconds. What waits and expires needs only sums, products and a
comparison of them, so that it can be followed in exact numbers and run in fast ones.
-/

namespace SolidityRepl

/-- Numbers of seconds. `ofDecimal m e` is `m · 10 ^ e`, and `fits a b` is how often `b`, if it is
more than nothing, goes into `a`. -/
class Duration (T : Type) extends Add T, Sub T, Mul T, Div T where
  ofDecimal : Int → Int → T
  power : T → Nat → T
  isBelow : T → T → Bool
  fits : T → T → Nat

namespace Duration

variable {T : Type} [Duration T]

def ofInt (n : Int) : T := ofDecimal n 0

def isAtLeast (a b : T) : Bool := !isBelow a b

end Duration

instance : Duration Rat where
  ofDecimal m e := if 0 ≤ e then .ofInt (m * Int.pow 10 e.toNat)
    else .ofInt m / .ofInt (Int.pow 10 e.natAbs)
  power a n := a.pow n
  isBelow a b := decide (a < b)
  fits a b := (a / b).floor.toNat

theorem Duration.ofInt_rat (n : Int) : (Duration.ofInt n : Rat) = n := by
  show Rat.ofInt (n * Int.pow 10 0) = n
  rw [show Int.pow 10 0 = 1 from rfl, Int.mul_one]
  rfl

theorem Duration.isBelow_rat {a b : Rat} : Duration.isBelow a b = true ↔ a < b := decide_eq_true_iff

instance : Duration Float where
  ofDecimal m e := if m < 0 then -Decimal.nearest m.natAbs e else Decimal.nearest m.natAbs e
  power a n := a.pow (Float.ofNat n)
  isBelow a b := a < b
  fits a b := if (a / b).isNaN then Nat.pow 2 64 else (a / b).toUInt64.toNat

end SolidityRepl
