import SolidityRepl.Abi.Type
import SolidityRepl.Abi.Address

/-!
# Decoding

Values are encoded in words of thirty-two bytes. A value whose size is not known beforehand is
encoded apart, in a frame of its own; where it belongs there is a pointer to the frame, counted from
the start of the frame the pointer is in. Pointers are checked before anything is decoded: a pointer
leads behind the words it is among and not beyond the end.
-/

namespace SolidityRepl

namespace Abi

def wordAt (frame : Bytes) (pos : Nat) : Except Failure Bytes :=
  let word := (frame.drop pos).take 32
  if word.length < 32 then .error .tooFewBytes else .ok word

def numberAt (frame : Bytes) (pos : Nat) : Except Failure Nat := (wordAt frame pos).map Bytes.toNat

def areAll (b : UInt8) (bytes : Bytes) : Bool := bytes.all (· == b)

/-- The lowest `size` bytes of a word whose other bytes are zero. -/
def lowBytes (size : Nat) (word : Bytes) : Except Failure Bytes :=
  if areAll 0 (word.take (32 - size)) then .ok (word.drop (32 - size)) else .error .nonZeroPadding

/-- The number that bytes stand for in two's complement. -/
def signed (bytes : Bytes) : Int :=
  let n := Bytes.toNat bytes
  if 2 * n < Nat.pow 256 bytes.length then n else n - Nat.pow 256 bytes.length

/-- A number with a sign in the lowest bytes of a word. The other bytes repeat the sign. -/
def signedNumber (size : Nat) (word : Bytes) : Except Failure Int :=
  let n := signed (word.drop (32 - size))
  if areAll (if n < 0 then 255 else 0) (word.take (32 - size)) then .ok n
  else .error .nonZeroPadding

def truth (word : Bytes) : Except Failure Bool := do
  match ← lowBytes 1 word with
  | [0] => return false
  | [1] => return true
  | _ => throw .nonZeroPadding

/-- The first bytes of a word whose other bytes are zero. -/
def highBytes (size : Nat) (word : Bytes) : Except Failure Bytes :=
  if areAll 0 (word.drop size) then .ok (word.take size) else .error .nonZeroPadding

def leafOf (type : AbiType) (word : Bytes) : Except Failure Value :=
  match type with
  | .uint bits => (lowBytes (bits / 8) word).map fun bs => .int (Bytes.toNat bs)
  | .int bits => (signedNumber (bits / 8) word).map .int
  | .bool => (truth word).map .bool
  | .address => (lowBytes 20 word).map fun bs => .text (Bytes.prefixedHex bs)
  | .fixedBytes size => (highBytes size word).map .bytes
  | .fixed true bits places => (signedNumber (bits / 8) word).map fun n => .fraction n places
  | .fixed false bits places =>
    (lowBytes (bits / 8) word).map fun bs => .fraction (Bytes.toNat bs) places
  | _ => .error .unknownType

/-- A number of bytes filled up to whole words. -/
def wholeWords (n : Nat) : Nat := (n + 31) / 32 * 32

/-- Bytes of any number: the number, then the bytes, filled up with zeros. -/
def bytesAt (frame : Bytes) (pos : Nat) : Except Failure (Bytes × Nat) := do
  let size ← numberAt frame pos
  let whole := wholeWords size
  if Nat.pow 2 63 ≤ whole then throw .tooLarge
  let data := (frame.drop (pos + 32)).take whole
  if data.length < whole then throw .tooFewBytes
  if !areAll 0 (data.drop size) then throw .nonZeroPadding
  return (data.take size, pos + 32 + whole)

def textAt (frame : Bytes) (pos : Nat) : Except Failure (String × Nat) := do
  let (bytes, next) ← bytesAt frame pos
  match Text.decode? bytes with
  | some s => return (s, next)
  | none => throw .badText

/-- Reads the value at a place of a frame, and says which place is after it. -/
abbrev Reader := Bytes → Nat → Except Failure (Value × Nat)

/-- A pointer that leads behind the first `head` words of its frame and not beyond the end. -/
def pointerAt (head : Nat) (frame : Bytes) (pos : Nat) : Except Failure Nat := do
  let pointer ← numberAt frame pos
  if pointer < 32 * head || frame.length ≤ pointer then throw .badPointer
  return pointer

/-- A value that is encoded apart is read from its own frame. -/
def member (isDynamic : Bool) (read : Reader) : Reader := fun frame pos =>
  if isDynamic then do
    let pointer ← numberAt frame pos
    let (value, _) ← read (frame.drop pointer) 0
    return (value, pos + 32)
  else read frame pos

/-- Several values of one kind, one after the other. -/
def many (read : Reader) (frame : Bytes) : Nat → Nat → Except Failure (List Value × Nat)
  | 0, pos => .ok ([], pos)
  | count + 1, pos => do
    let (value, pos) ← read frame pos
    let (values, pos) ← many read frame count pos
    return (value :: values, pos)

def checkPointers (head : Nat) (frame : Bytes) : Nat → Nat → Except Failure Unit
  | 0, _ => .ok ()
  | count + 1, pos => do
    let _ ← pointerAt head frame pos
    checkPointers head frame count (pos + 32)

def items (isDynamic : Bool) (read : Reader) (count : Nat) (frame : Bytes) (pos : Nat) :
    Except Failure (List Value × Nat) := do
  if isDynamic then checkPointers count frame count pos
  many (member isDynamic read) frame count pos

/-- The words that a member of a tuple counts for: the items of an array of fixed size count, but
not what is inside them. -/
def headWords : AbiType → Nat
  | .array item (some n) => if item.isDynamic then 1 else n
  | _ => 1

/-- The words that the members of a tuple count for. -/
def headSize (types : List AbiType) : Nat := (types.map headWords).foldl (· + ·) 0

end Abi

open Abi

mutual

/-- The value of a type at a place of a frame, and the place after it. -/
def AbiType.decode : AbiType → Abi.Reader
  | .bytes => fun frame pos => (bytesAt frame pos).map fun (b, next) => (.bytes b, next)
  | .string => fun frame pos => (textAt frame pos).map fun (s, next) => (.text s, next)
  | .array item (some count) => fun frame pos => do
    let (values, next) ← items item.isDynamic item.decode count frame pos
    return (.tuple values, next)
  | .array item none => fun frame pos => do
    let count ← numberAt frame pos
    let (values, next) ← items item.isDynamic item.decode count (frame.drop (pos + 32)) 0
    return (.tuple values, pos + 32 + next)
  | .tuple types => fun frame pos => do
    AbiType.checkMembers (headSize types) types frame pos
    let (values, next) ← AbiType.decodeMembers types frame pos
    return (.tuple values, next)
  | type => fun frame pos => do
    let value ← leafOf type (← wordAt frame pos)
    return (value, pos + 32)

/-- The members of a tuple are gone through once beforehand: pointers are checked, and members that
are not encoded apart are decoded. -/
def AbiType.checkMembers (head : Nat) : List AbiType → Bytes → Nat → Except Failure Unit
  | [], _, _ => .ok ()
  | type :: rest, frame, pos => do
    if type.isDynamic then
      let _ ← pointerAt head frame pos
      AbiType.checkMembers head rest frame (pos + 32)
    else
      let (_, next) ← type.decode frame pos
      AbiType.checkMembers head rest frame next

def AbiType.decodeMembers : List AbiType → Bytes → Nat → Except Failure (List Value × Nat)
  | [], _, pos => .ok ([], pos)
  | type :: rest, frame, pos => do
    let (value, pos) ← member type.isDynamic type.decode frame pos
    let (values, pos) ← AbiType.decodeMembers rest frame pos
    return (value :: values, pos)

end

/-- The values of several types together. What is left over does not count. -/
def Abi.decodeAll (types : List AbiType) (data : Bytes) : Except Failure (List Value) := do
  AbiType.checkMembers (headSize types) types data 0
  let (values, _) ← AbiType.decodeMembers types data 0
  return values

end SolidityRepl
