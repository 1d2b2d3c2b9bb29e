import SolidityRepl.Abi.Function

/-!
# Parameters and their encodings

What a function gives back is described by its interface: single values, arrays and structs of them.
Here a parameter is a tree of these, beside the texts that describe it and the bytes that encode a
value of it. An encoding lays out parts one after the other. A part of fixed size stands in its
place; any other stands behind all places, and a pointer is in its place.
-/

namespace SolidityRepl

mutual

/-- A value before it is taken for what it is meant as: an address is a text, and arrays and structs
are several values together. -/
def Value.raw : Value → Value
  | .address a => .text (Bytes.prefixedHex a.bytes)
  | .list values => .tuple (Value.rawAll values)
  | .struct _ fields => .tuple (Value.rawFields fields)
  | v => v

def Value.rawAll : List Value → List Value
  | [] => []
  | v :: rest => v.raw :: Value.rawAll rest

def Value.rawFields : List (String × Value) → List Value
  | [] => []
  | (_, v) :: rest => v.raw :: Value.rawFields rest

end

theorem Value.rawFields_eq (fields : List (String × Value)) :
    Value.rawFields fields = Value.rawAll (fields.map (·.2)) := by
  induction fields with
  | nil => rfl
  | cons field rest ih => rw [Value.rawFields, List.map_cons, Value.rawAll, ih]

end SolidityRepl

namespace SolidityRepl.Abi

inductive Leaf where
  | uint (bits : Nat)
  | int (bits : Nat)
  | bool
  | address
  | fixedBytes (size : Nat)
  | bytes
  | string
  deriving Inhabited

/-- A single value, an array of some size or of any, or a struct. -/
inductive Param where
  | leaf (leaf : Leaf)
  | array (item : Param) (size : Option Nat)
  | struct (name : String) (names : List String) (fields : List Param)
  deriving Inhabited

/-! ## Values -/

def IsWidth (bits : Nat) : Prop := bits % 8 = 0 ∧ 8 ≤ bits ∧ bits ≤ 256

namespace Leaf

/-- The type that a single value is encoded by. -/
def type : Leaf → AbiType
  | uint bits => .uint bits
  | int bits => .int bits
  | bool => .bool
  | address => .address
  | fixedBytes size => .fixedBytes size
  | bytes => .bytes
  | string => .string

def IsSized : Leaf → Prop
  | uint bits | int bits => IsWidth bits
  | fixedBytes size => 1 ≤ size ∧ size ≤ 32
  | _ => True

def Fits : Leaf → Value → Prop
  | uint bits, .int n => 0 ≤ n ∧ n < Nat.pow 2 bits
  | int bits, .int n => -Nat.pow 2 (bits - 1) ≤ n ∧ n < Nat.pow 2 (bits - 1)
  | bool, .bool _ => True
  | address, .address _ => True
  | fixedBytes size, .bytes data => data.length = size
  | bytes, .bytes _ => True
  | string, .text _ => True
  | _, _ => False

end Leaf

namespace Param

mutual

def type : Param → AbiType
  | leaf l => l.type
  | array item size => .array item.type size
  | struct _ _ fields => .tuple (types fields)

def types : List Param → List AbiType
  | [] => []
  | p :: rest => p.type :: types rest

end

mutual

/-- The sizes are those that can be written: an array of some size has an item at least, and its
size no more digits than a number is read from; a struct has a field at least. -/
def IsSized : Param → Prop
  | leaf l => l.IsSized
  | array item size => item.IsSized ∧ ∀ n ∈ size, 1 ≤ n ∧ n < Nat.pow 10 Text.mostDigits
  | struct _ _ fields => fields ≠ [] ∧ AreSized fields

def AreSized : List Param → Prop
  | [] => True
  | p :: rest => p.IsSized ∧ AreSized rest

end

mutual

/-- The values that there are: lists for arrays, structs of the same name with the same fields for
structs. -/
def Fits : Param → Value → Prop
  | leaf l, v => l.Fits v
  | array item size, .list values =>
    (∀ n ∈ size, values.length = n) ∧ ∀ v ∈ values, item.Fits v
  | struct name names fields, .struct itsName values =>
    itsName = name ∧ values.map (·.1) = fieldNames names ∧ FitAll fields (values.map (·.2))
  | _, _ => False

def FitAll : List Param → List Value → Prop
  | [], [] => True
  | p :: rest, v :: values => p.Fits v ∧ FitAll rest values
  | _, _ => False

end

end Param

/-! ## Encodings -/

/-- A part of an encoding. One that is dynamic stands behind the places of all parts. -/
structure Part where
  isDynamic : Bool
  bytes : Bytes

namespace Part

/-- The bytes that the places of parts take up. -/
def headLength : List Part → Nat
  | [] => 0
  | part :: rest => (if part.isDynamic then 32 else part.bytes.length) + headLength rest

/-- The places of parts, the first dynamic one of which stands at `offset`. -/
def heads (offset : Nat) : List Part → Bytes
  | [] => []
  | part :: rest =>
    if part.isDynamic then Bytes.ofNat 32 offset ++ heads (offset + part.bytes.length) rest
    else part.bytes ++ heads offset rest

def tails : List Part → Bytes
  | [] => []
  | part :: rest => (if part.isDynamic then part.bytes else []) ++ tails rest

/-- Parts as they are laid out: their places, then the dynamic ones. -/
def layout (parts : List Part) : Bytes := heads (headLength parts) parts ++ tails parts

end Part

/-- Bytes of any number: the number, then the bytes, filled up with zeros. -/
def counted (data : Bytes) : Bytes :=
  Bytes.ofNat 32 data.length ++
    (data ++ List.replicate (wholeWords data.length - data.length) 0)

/-- A number of either sign as the number of a word, in two's complement. -/
def complement (n : Int) : Nat := (n % Nat.pow 256 32).toNat

def Leaf.encode : Leaf → Value → Bytes
  | uint _, .int n => Bytes.ofNat 32 n.toNat
  | int _, .int n => Bytes.ofNat 32 (complement n)
  | bool, .bool b => Bytes.ofNat 32 b.toNat
  | address, .address a => List.replicate 12 0 ++ a.bytes
  | fixedBytes size, .bytes data => data ++ List.replicate (32 - size) 0
  | bytes, .bytes data => counted data
  | string, .text s => counted (Text.encode s)
  | _, _ => []

namespace Param

mutual

def encode : Param → Value → Bytes
  | leaf l, v => l.encode v
  | array item none, .list values =>
    Bytes.ofNat 32 values.length ++
      Part.layout (values.map fun v => ⟨item.type.isDynamic, item.encode v⟩)
  | array item (some _), .list values =>
    Part.layout (values.map fun v => ⟨item.type.isDynamic, item.encode v⟩)
  | struct _ _ fields, .struct _ values => Part.layout (parts fields (values.map (·.2)))
  | _, _ => []

def parts : List Param → List Value → List Part
  | p :: rest, v :: values => ⟨p.type.isDynamic, p.encode v⟩ :: parts rest values
  | _, _ => []

end

end Param

/-- The encoding of the values of several parameters together. -/
def encodeAll (params : List Param) (values : List Value) : Bytes :=
  Part.layout (Param.parts params values)

/-! ## Descriptions -/

def Leaf.text : Leaf → List Char
  | uint bits => "uint".toList ++ Nat.toDigits 10 bits
  | int bits => "int".toList ++ Nat.toDigits 10 bits
  | bool => "bool".toList
  | address => "address".toList
  | fixedBytes size => "bytes".toList ++ Nat.toDigits 10 size
  | bytes => "bytes".toList
  | string => "string".toList

/-- The size of an array as it is written. -/
def dimensionText : Option Nat → List Char
  | none => ['[', ']']
  | some n => '[' :: (Nat.toDigits 10 n ++ [']'])

def dimensionTexts (sizes : List (Option Nat)) : List Char := sizes.flatMap dimensionText

/-- What an interface must say about a struct: the compiler's words for its type, its name, the
names of its components, and the sizes of the arrays it is in, the innermost first. -/
abbrev Wording := Option Json → String → List String → List (Option Nat) → Prop

namespace Param

mutual

/-- A description of a parameter inside of arrays of the sizes `around`. They are written behind the
type of what is in the arrays. -/
def Described (wording : Wording) (around : List (Option Nat)) : Param → Json → Prop
  | leaf l, d =>
    d.get? "type" = some (.str (String.ofList (l.text ++ dimensionTexts around))) ∧
      d.get? "components" = none
  | array item size, d => item.Described wording (size :: around) d
  | struct name names fields, d =>
    d.get? "type" = some (.str (String.ofList ("tuple".toList ++ dimensionTexts around))) ∧
      wording (d.get? "internalType") name names around ∧
      ∃ components, d.get? "components" = some (.arr components) ∧
        components.map (·.get? "name") = names.map (fun name => some (.str name)) ∧
        AllDescribed wording fields components

def AllDescribed (wording : Wording) : List Param → List Json → Prop
  | [], [] => True
  | p :: rest, d :: descriptions =>
    p.Described wording [] d ∧ AllDescribed wording rest descriptions
  | _, _ => False

end

end Param

/-- A function that gives back the values of some parameters. -/
def Returns (wording : Wording) (function : Json) (params : List Param) : Prop :=
  ∃ outputs, function.get? "outputs" = some (.arr outputs) ∧
    Param.AllDescribed wording params outputs

end SolidityRepl.Abi
