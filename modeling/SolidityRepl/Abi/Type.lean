import SolidityRepl.Failure
import SolidityRepl.Text.Search

/-!
# Types of encoded values

A written type is a base with a size, or types between brackets, with array dimensions behind it.
Some bases stand for others: `uint` is `uint256`. Of what can be written only some is a type.
-/

namespace SolidityRepl

/-- The type of an encoded value. An array without a size can have any number of items. -/
inductive AbiType where
  | uint (bits : Nat)
  | int (bits : Nat)
  | bool
  | address
  | fixedBytes (size : Nat)
  /-- A number with some decimal places, with a sign or without. -/
  | fixed (signed : Bool) (bits places : Nat)
  | bytes
  | string
  | array (item : AbiType) (size : Option Nat)
  | tuple (items : List AbiType)
  deriving Inhabited, Repr

mutual

/-- Whether a value's size depends on the value. -/
def AbiType.isDynamic : AbiType → Bool
  | .bytes | .string => true
  | .array _ none => true
  | .array item (some _) => item.isDynamic
  | .tuple items => AbiType.anyDynamic items
  | _ => false

def AbiType.anyDynamic : List AbiType → Bool
  | [] => false
  | t :: rest => t.isDynamic || AbiType.anyDynamic rest

end

namespace Abi

/-- What stands behind a base: nothing, a number, or two numbers with an `x` between them. -/
inductive Suffix where
  | none
  | size (n : Nat)
  | pair (m n : Nat)
  deriving DecidableEq, Repr

/-- A type as it is written. The dimensions of an array stand in order, the outermost last. -/
inductive Written where
  | basic (base : String) (suffix : Suffix) (dimensions : List (Option Nat))
  | tuple (items : List Written) (dimensions : List (Option Nat))
  deriving Inhabited, Repr

namespace Written

/-- A number that does not begin with zero, and the rest. -/
def number? (cs : List Char) : Option (Nat × List Char) :=
  match cs.takeWhile Char.isDigit with
  | [] => none
  | '0' :: _ => none
  | ds => some (Text.decimalValue ds, cs.dropWhile Char.isDigit)

theorem length_number? {cs rest : List Char} {n : Nat} (h : number? cs = some (n, rest)) :
    rest.length < cs.length := by
  unfold number? at h
  split at h
  · cases h
  · cases h
  · rename_i hne _
    simp only [Option.some.injEq, Prod.mk.injEq] at h
    rw [← h.2]
    cases cs with
    | nil => simp at hne
    | cons c cs =>
      cases hc : c.isDigit with
      | false => simp [hc] at hne
      | true =>
        rw [List.dropWhile_cons_of_pos hc, List.length_cons]
        have := (List.dropWhile_sublist Char.isDigit (l := cs)).length_le
        omega

/-- A dimension: brackets with a number or with nothing between them. -/
def dimension? (cs : List Char) : Option (Option Nat × List Char) :=
  match cs with
  | '[' :: ']' :: rest => some (none, rest)
  | '[' :: rest =>
    match number? rest with
    | some (n, ']' :: rest) => some (some n, rest)
    | _ => none
  | _ => none

theorem length_dimension? {cs rest : List Char} {n : Option Nat}
    (h : dimension? cs = some (n, rest)) : rest.length < cs.length := by
  unfold dimension? at h
  split at h
  · cases h; simp only [List.length_cons]; omega
  · split at h
    · rename_i hn
      cases h
      have := length_number? hn
      simp only [List.length_cons] at this ⊢
      omega
    · cases h
  · cases h

def dimensions (cs : List Char) : List (Option Nat) × List Char :=
  match _h : dimension? cs with
  | some (n, rest) =>
    let (more, rest) := dimensions rest
    (n :: more, rest)
  | none => ([], cs)
  termination_by cs.length
  decreasing_by exact length_dimension? _h

def suffix (cs : List Char) : Suffix × List Char :=
  match number? cs with
  | none => (.none, cs)
  | some (m, 'x' :: rest) =>
    match number? rest with
    | some (n, rest) => (.pair m n, rest)
    | none => (.size m, 'x' :: rest)
  | some (m, rest) => (.size m, rest)

/-- A base with what stands behind it, and the rest. -/
def basic? (cs : List Char) : Option (Written × List Char) :=
  match cs.takeWhile Char.isAlpha with
  | [] => none
  | base =>
    let (suffix, rest) := suffix (cs.dropWhile Char.isAlpha)
    let (dimensions, rest) := dimensions rest
    some (.basic (String.ofList base) suffix dimensions, rest)

mutual

/-- A type that stands here, and the rest. The last argument bounds how deep brackets are nested and
how many types stand beside each other. -/
def type? (cs : List Char) : Nat → Option (Written × List Char)
  | 0 => none
  | depth + 1 =>
    match cs with
    | '(' :: rest =>
      match items? rest depth with
      | some (items, rest) =>
        let (dimensions, rest) := dimensions rest
        some (.tuple items dimensions, rest)
      | none => none
    | cs => basic? cs

/-- Types with commas between them and a bracket behind them, and the rest. -/
def items? (cs : List Char) : Nat → Option (List Written × List Char)
  | 0 => none
  | depth + 1 =>
    match type? cs depth with
    | some (item, ',' :: rest) =>
      (items? rest depth).map fun (items, rest) => (item :: items, rest)
    | some (item, ')' :: rest) => some ([item], rest)
    | _ => none

end

def ofText? (s : String) : Option Written :=
  let cs := s.toList
  match type? cs (2 * cs.length + 2) with
  | some (type, []) => some type
  | _ => none

/-- What bases stand for that have nothing behind them. -/
def aliases : List (String × (String × Suffix)) :=
  [("int", ("int", .size 256)), ("uint", ("uint", .size 256)), ("byte", ("bytes", .size 1)),
   ("fixed", ("fixed", .pair 128 18)), ("ufixed", ("ufixed", .pair 128 18)),
   ("function", ("bytes", .size 24))]

mutual

/-- The type with every base replaced by what it stands for. -/
def expanded : Written → Written
  | .basic base suffix dimensions =>
    match suffix, Keyed.get? base aliases with
    | .none, some (base, suffix) => .basic base suffix dimensions
    | suffix, _ => .basic base suffix dimensions
  | .tuple items dimensions => .tuple (expandedAll items) dimensions

def expandedAll : List Written → List Written
  | [] => []
  | item :: rest => item.expanded :: expandedAll rest

end

/-- The sizes that a number can have in bits. -/
def isNumberSize (n : Nat) : Bool := 8 ≤ n && n ≤ 256 && n % 8 == 0

/-- Whether a known base can have this behind it. -/
def fits (base : String) (suffix : Suffix) : Bool :=
  if base = "string" || base = "address" then suffix == .none
  else if base = "bytes" then match suffix with
    | .none => true
    | .size n => n ≤ 32
    | .pair _ _ => false
  else if base = "int" || base = "uint" then match suffix with
    | .size n => isNumberSize n
    | _ => false
  else if base = "fixed" || base = "ufixed" then match suffix with
    | .pair m n => isNumberSize m && 1 ≤ n && n ≤ 80
    | _ => false
  else if base = "hash" then match suffix with
    | .size _ => true
    | _ => false
  else true

mutual

/-- Whether every base has behind it what it can have. -/
def isFitting : Written → Bool
  | .basic base suffix _ => fits base suffix
  | .tuple items _ => areFitting items

def areFitting : List Written → Bool
  | [] => true
  | item :: rest => item.isFitting && areFitting rest

end

/-- The type of a base with what stands behind it, if the base is known. Truth values have any size,
and functions none. -/
def leaf (base : String) (suffix : Suffix) : Except Failure AbiType :=
  match base, suffix with
  | "uint", .size n => .ok (.uint n)
  | "int", .size n => .ok (.int n)
  | "fixed", .pair m n => .ok (.fixed true m n)
  | "ufixed", .pair m n => .ok (.fixed false m n)
  | "function", _ => .error .invalidValue
  | "bool", _ => .ok .bool
  | "address", .none => .ok .address
  | "bytes", .size n => .ok (.fixedBytes n)
  | "bytes", .none => .ok .bytes
  | "string", .none => .ok .string
  | _, _ => .error .unknownType

/-- Arrays of a type, the innermost dimension first. -/
def arrays (item : AbiType) (dimensions : List (Option Nat)) : AbiType :=
  dimensions.foldl AbiType.array item

mutual

def toType : Written → Except Failure AbiType
  | .basic base suffix dimensions => (leaf base suffix).map fun t => arrays t dimensions
  | .tuple items dimensions => (toTypes items).map fun ts => arrays (.tuple ts) dimensions

def toTypes : List Written → Except Failure (List AbiType)
  | [] => .ok []
  | item :: rest => do
    let t ← item.toType
    return t :: (← toTypes rest)

end

def knownBases : List String :=
  ["uint", "int", "ufixed", "fixed", "bytes", "address", "bool", "function", "string"]

/-- The type that is meant. A base alone must be known before its size counts; in arrays and tuples
all sizes count first. -/
def resolve (w : Written) : Except Failure AbiType :=
  match w with
  | .basic base _ [] =>
    if !knownBases.contains base then .error .unknownType
    else if !w.expanded.isFitting then .error .badTypeSize
    else w.expanded.toType
  | w => if !w.expanded.isFitting then .error .badTypeSize else w.expanded.toType

end Written

end Abi

/-- A type with a number of too many digits. -/
def Abi.hasOverlong (cs : List Char) : Bool :=
  (cs.splitOnP fun c => !c.isDigit).any Text.isOverlong

def AbiType.ofText (s : String) : Except Failure AbiType :=
  match Abi.Written.ofText? s with
  | some w => if Abi.hasOverlong s.toList then .error .overlongType else w.resolve
  | none =>
    .error (if Text.occurs "()".toList s.toList then .invalidValue else .unparsableType)

end SolidityRepl
