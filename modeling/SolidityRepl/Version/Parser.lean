import SolidityRepl.Version.Basic
import SolidityRepl.Text.Digit
import SolidityRepl.Failure

/-!
# Reading versions

A version may have a `v` in front, any of several names for its marks, a point, a hyphen or an
underscore around them or nothing, and letters of either case. A mark without a number has zero.
-/

namespace SolidityRepl.Version

/-- Digits, at least one, as a number, and the rest. -/
def number? (cs : List Char) : Option (Nat × List Char) :=
  match cs.takeWhile Char.isDigit with
  | [] => none
  | ds => some (Text.decimalValue ds, cs.dropWhile Char.isDigit)

/-- The rest of a number's text, without the mark between it and its name. -/
def isMark (c : Char) : Bool := c == '-' || c == '_' || c == '.'

/-- The rest after one mark, if there is one. -/
def skipMark : List Char → List Char
  | c :: rest => if isMark c then rest else c :: rest
  | [] => []

def moreNumbers : Nat → List Char → List Nat × List Char
  | 0, cs => ([], cs)
  | fuel + 1, cs =>
    match cs with
    | '.' :: rest =>
      match number? rest with
      | some (n, rest) =>
        let (ns, rest) := moreNumbers fuel rest
        (n :: ns, rest)
      | none => ([], cs)
    | _ => ([], cs)

def release? (cs : List Char) : Option (List Nat × List Char) := do
  let (n, rest) ← number? cs
  let (ns, rest) := moreNumbers rest.length rest
  some (n :: ns, rest)

/-- The number of an epoch and the rest, or zero if none is written. -/
def epochFrom (cs : List Char) : Nat × List Char :=
  match number? cs with
  | some (n, '!' :: rest) => (n, rest)
  | _ => (0, cs)

/-- The value of the first of some names that stands here, and the rest after it. -/
def named? {α : Type} (names : List (String × α)) (cs : List Char) : Option (α × List Char) :=
  names.findSome? fun (name, value) => (name.toList.isPrefixOf? cs).map fun rest => (value, rest)

/-- The number after a name, zero if there is none. -/
def numberAfter (cs : List Char) : Nat × List Char :=
  let rest := skipMark cs
  (number? rest).getD (0, rest)

/-- The names of the stages, longer ones before those they begin with. -/
def stageNames : List (String × Stage) :=
  [("alpha", .alpha), ("a", .alpha), ("beta", .beta), ("b", .beta), ("preview", .candidate),
   ("pre", .candidate), ("c", .candidate), ("rc", .candidate)]

def postNames : List (String × Unit) := [("post", ()), ("rev", ()), ("r", ())]

def devNames : List (String × Unit) := [("dev", ())]

/-- A mark with one of some names, if there is one here. -/
def markFrom {α : Type} (names : List (String × α)) (cs : List Char) :
    Option (α × Nat) × List Char :=
  match named? names (skipMark cs) with
  | some (value, rest) =>
    let (n, rest) := numberAfter rest
    (some (value, n), rest)
  | none => (none, cs)

/-- A post-release, which may be a hyphen and a number alone. -/
def postFrom (cs : List Char) : Option Nat × List Char :=
  let (mark, rest) := markFrom postNames cs
  let named := (mark.map (·.2), rest)
  match cs with
  | '-' :: more =>
    match number? more with
    | some (n, rest) => (some n, rest)
    | none => named
  | _ => named

/-- A version without a local part, and the rest after it. -/
def core? (cs : List Char) : Option (Version × List Char) := do
  let cs := match cs with
    | 'v' :: rest => rest
    | cs => cs
  let (epoch, cs) := epochFrom cs
  let (release, cs) ← release? cs
  let (stage, cs) := markFrom stageNames cs
  let (post, cs) := postFrom cs
  let (dev, cs) := markFrom devNames cs
  some ({ epoch, release, stage, post, dev := dev.map (·.2) }, cs)

def segmentOf (cs : List Char) : Segment :=
  match number? cs with
  | some (n, []) => .number n
  | _ => .word (String.ofList cs)

def isPiece (c : Char) : Bool := c.isDigit || c.isLower

/-- The pieces of a local part, if it is one. -/
def vendor? (cs : List Char) : Option (List Segment) :=
  let pieces := cs.splitOnP isMark
  if pieces.all fun p => !p.isEmpty && p.all isPiece then some (pieces.map segmentOf) else none

/-- The version a text writes, with a local part or without. -/
def ofChars? (cs : List Char) : Option Version := do
  let (v, rest) ← core? (cs.map Char.toLower)
  match rest with
  | [] => some v
  | '+' :: rest => (vendor? rest).map fun vendor => { v with vendor }
  | _ => none

/-- The version a text writes, with white space around it. -/
def parse? (s : String) : Option Version := ofChars? (Text.strip s.toList)

/-- A version's text that has a number with too many digits. In a local part only pieces of nothing
but digits are numbers. -/
def hasOverlong (cs : List Char) : Bool :=
  let core := cs.takeWhile (· != '+')
  let pieces := (cs.drop core.length).splitOnP fun c => c == '+' || isMark c
  ((core.splitOnP fun c => !c.isDigit) ++ pieces.filter fun p => p.all Char.isDigit).any
    Text.isOverlong

/-- The version a text writes, if it writes one that can be read. -/
def ofChars (cs : List Char) : Except Failure Version :=
  match ofChars? cs with
  | none => .error .badVersion
  | some v => if hasOverlong cs then .error .overlong else .ok v

/-- The version a text writes, with white space around it, if it writes one that can be read. -/
def read (s : String) : Except Failure Version := ofChars (Text.strip s.toList)

end SolidityRepl.Version
