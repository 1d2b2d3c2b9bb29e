import SolidityRepl.Text.Blank
import SolidityRepl.Text.Digit

/-!
# Hexadecimal numbers

A number is written with digits of either case, with single underscores between digits, and perhaps
with a sign, the mark `0x` and white space around it. Decimal digits of all scripts count.
-/

namespace SolidityRepl.Text

/-- A character as it counts in a number: white space and digits of other scripts as their ASCII
forms. -/
def plain (c : Char) : Char :=
  if c.toNat < 127 then c
  else if isBlank c then ' '
  else match digitValue? c with
    | some n => Char.ofNat (48 + n)
    | none => '?'

def isAsciiBlank (c : Char) : Bool := ('\t' ≤ c && c ≤ '\r') || c == ' '

/-- The value of more digits after the number `n`, with single underscores between digits. -/
def moreDigits? (n : Nat) : List Char → Option Nat
  | [] => some n
  | '_' :: c :: rest => do moreDigits? (n * 16 + (← hexValue? c)) rest
  | c :: rest => do moreDigits? (n * 16 + (← hexValue? c)) rest

def hexDigits? : List Char → Option Nat
  | [] => none
  | c :: rest => do moreDigits? (← hexValue? c) rest

/-- The value of digits, with the mark or without. An underscore may follow the mark. -/
def hexMagnitude? (cs : List Char) : Option Nat :=
  match cs with
  | '0' :: x :: rest =>
    if x == 'x' || x == 'X' then
      match rest with
      | '_' :: digits => hexDigits? digits
      | digits => hexDigits? digits
    else hexDigits? cs
  | cs => hexDigits? cs

def hexNumber? (s : String) : Option Int :=
  let cs := (s.toList.map plain).dropWhile isAsciiBlank
  let cs := (cs.reverse.dropWhile isAsciiBlank).reverse
  match cs with
  | '-' :: rest => (hexMagnitude? rest).map fun n => -(n : Int)
  | '+' :: rest => (hexMagnitude? rest).map Int.ofNat
  | cs => (hexMagnitude? cs).map Int.ofNat

def hexShown (n : Int) : String :=
  (if n < 0 then "-0x" else "0x") ++ String.ofList (Nat.toDigits 16 n.natAbs)

end SolidityRepl.Text
