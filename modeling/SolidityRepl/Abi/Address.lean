import SolidityRepl.Bytes
import SolidityRepl.Hash.Keccak
import SolidityRepl.Failure

/-!
# Addresses and values

An address is twenty bytes. It is shown with a checksum in the case of its letters: a letter is
upper case where the hash of the digits has a large digit.

What a call gives back is such an address, a number, a truth value, a text, bytes, several of these
together, or a struct, whose fields have names.
-/

namespace SolidityRepl

structure Address where
  bytes : Bytes
  size : bytes.length = 20
  deriving DecidableEq

namespace Address

def ofBytes? (bytes : Bytes) : Option Address :=
  if h : bytes.length = 20 then some ⟨bytes, h⟩ else none

theorem ofBytes?_bytes (a : Address) : ofBytes? a.bytes = some a := by
  simp [ofBytes?, a.size]

/-- The address of a number: its lowest twenty bytes. -/
def ofNat (n : Nat) : Address := ⟨Bytes.ofNat 20 n, Bytes.length_ofNat 20 n⟩

instance : Inhabited Address := ⟨ofNat 0⟩

/-- A digit of an address, beside the digit of the hash at its place. -/
def cased (digit hash : Char) : Char := if '8' ≤ hash then digit.toUpper else digit

/-- An address with its checksum. -/
def shown (a : Address) : String :=
  let digits := Bytes.hexDigits a.bytes
  let hash := Bytes.hexDigits (Hash.keccak256 (digits.map fun c => UInt8.ofNat c.toNat))
  "0x" ++ String.ofList (List.zipWith cased digits hash)

/-- The digits of a text without a mark in front. -/
def unmarked (cs : List Char) : List Char :=
  match cs with
  | '0' :: x :: rest => if x == 'x' || x == 'X' then rest else cs
  | cs => cs

/-- The address a text writes: forty digits of either case, marked or not. -/
def ofText? (s : String) : Option Address :=
  let digits := unmarked s.toList
  if digits.all fun c => (Text.hexValue? c).isSome then
    (Bytes.ofHexDigits? digits).bind ofBytes?
  else none

/-- The address of a number that has forty digits. -/
def ofNumber? (n : Int) : Option Address :=
  if Int.pow 16 39 ≤ n && n < Int.pow 16 40 then some (ofNat n.toNat) else none

def ofJson (v : Json) : Except Failure Address :=
  let orInvalid (a : Option Address) : Except Failure Address :=
    match a with
    | some a => .ok a
    | none => .error .invalidValue
  match v with
  | .str s => orInvalid (ofText? s)
  | .int n => orInvalid (ofNumber? n)
  | .bool _ => .error .invalidValue
  | _ => .error .wrongType

end Address

inductive Value where
  | nothing
  | bool (b : Bool)
  | int (n : Int)
  /-- A number with some decimal places, without its point. -/
  | fraction (digits : Int) (places : Nat)
  | bytes (bytes : Bytes)
  | text (s : String)
  | address (a : Address)
  | list (items : List Value)
  | tuple (items : List Value)
  | struct (name : String) (fields : List (String × Value))
  deriving Inhabited

end SolidityRepl
