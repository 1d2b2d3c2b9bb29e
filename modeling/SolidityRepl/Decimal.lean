/-!
# Decimal numbers and floats

A float that is finite is a whole number times a power of two. It is written with the fewest decimal
digits that read back as the same float, and with the nearest number of that many digits: positional
from `0.0001` on and below `10 ^ 16`, with a power of ten elsewhere.
-/

namespace SolidityRepl.Decimal

def width (n : Nat) : Nat := (Nat.toDigits 10 n).length

/-- More than the powers of ten that floats reach in either direction. -/
def reach : Int := 400

/-- The float nearest to `digits · 10 ^ power`. -/
def nearest (digits : Nat) (power : Int) : Float :=
  let size := width digits + power
  if digits = 0 || size < -reach then 0.0
  else if size > reach then 1.0 / 0.0
  else Float.ofScientific digits (decide (power < 0)) power.natAbs

/-- The size of a finite float as a whole number and the power of two that it is multiplied by. -/
def parts (x : Float) : Nat × Int :=
  let bits := x.toBits.toNat
  let power : Nat := bits / Nat.pow 2 52 % Nat.pow 2 11
  let fraction := bits % Nat.pow 2 52
  if power = 0 then (fraction, -1074) else (Nat.pow 2 52 + fraction, Int.ofNat power - 1075)

/-- The sign is written: the float is below zero, or it is the zero that is. -/
def isSigned (x : Float) : Bool := x.toBits.toNat ≥ Nat.pow 2 63

/-- The value of a finite float as a whole number and the power of two that it is multiplied by. -/
def value? (x : Float) : Option (Int × Int) :=
  if x.isFinite then
    let (m, q) := parts x
    some (if isSigned x then -(m : Int) else m, q)
  else none

/-- `m · 2 ^ q` in units of `10 ^ e`, as a fraction. -/
def ratio (m : Nat) (q e : Int) : Nat × Nat :=
  (m * Nat.pow 2 q.toNat * Nat.pow 10 (-e).toNat, Nat.pow 2 (-q).toNat * Nat.pow 10 e.toNat)

/-- A bound on the power of ten that a number reaches, at most two too high. -/
def ceiling (m : Nat) (q : Int) : Int := ((m.log2 : Int) + 1 + q) * 30103 / 100000 + 1

/-- The decimal of some number of digits that is nearest to the float and reads back as it. -/
def withDigits? (x : Float) (top : Int) (n : Nat) : Option (Nat × Int) :=
  let (m, q) := parts x
  let e := top - n
  let (a, b) := ratio m q e
  let low := a / b
  let pair := if 2 * (a % b) ≤ b then [low, low + 1] else [low + 1, low]
  (pair.find? fun d => nearest d e == x).map (·, e)

/-- The digits of a positive finite float and their power of ten. Seventeen digits always read back,
and the bound on the power may cost two more. -/
def shortest (x : Float) : Nat × Int :=
  let (m, q) := parts x
  ((List.range 20).findSome? (withDigits? x (ceiling m q))).getD (m, q)

/-- The digits of an exponent, two at least, with the sign. -/
def exponentText (e : Int) : List Char :=
  let digits := (toString e.natAbs).toList
  (if e < 0 then '-' else '+') :: (if digits.length < 2 then '0' :: digits else digits)

/-- Digits and their power of ten, positional or with a power of ten behind. -/
def layout (digits : List Char) (e : Int) : List Char :=
  let point : Int := digits.length + e
  if point > 16 || point < -3 then
    match digits with
    | [] => []
    | [d] => d :: 'e' :: exponentText (point - 1)
    | d :: more => d :: '.' :: more ++ 'e' :: exponentText (point - 1)
  else if point ≤ 0 then
    '0' :: '.' :: List.replicate (-point).toNat '0' ++ digits
  else if e ≥ 0 then
    digits ++ List.replicate e.toNat '0' ++ ['.', '0']
  else digits.take point.toNat ++ '.' :: digits.drop point.toNat

/-- The digits of a number without zeros at the end, and its power of ten. -/
def trimZeros : Nat → Nat → Int → Nat × Int
  | 0, m, e => (m, e)
  | fuel + 1, m, e => if m ≠ 0 ∧ m % 10 = 0 then trimZeros fuel (m / 10) (e + 1) else (m, e)

def text (x : Float) : List Char :=
  if x.isNaN then "nan".toList
  else
    let sign := if isSigned x then ['-'] else []
    if x.isInf then sign ++ "inf".toList
    else if x == 0.0 then sign ++ "0.0".toList
    else
      let (digits, e) := shortest x.abs
      let (digits, e) := trimZeros 20 digits e
      sign ++ layout (toString digits).toList e

end SolidityRepl.Decimal
