import SolidityRepl.Json.Basic
import SolidityRepl.Json.Fault
import SolidityRepl.Text.Digit

/-!
# Reading JSON

One value with white space around it. Lists and objects take no trailing comma and lie in each other
1024 deep at most. Texts stand between double quotes and may hold any character but the quote, the
backslash and NUL. Of two fields with one name the later value counts, at the earlier place. Numbers
may have zeros in front and a sign without digits, and a number with a point or a power of ten is a
float; what does not belong to it is left.
-/

namespace SolidityRepl.Json

def isSpace (c : Char) : Bool := c == ' ' || c == '\t' || c == '\n' || c == '\r'

def skipSpace (cs : List Char) : List Char := cs.dropWhile isSpace

/-- The UTF-16 unit that four hexadecimal digits name. -/
def unit? (a b c d : Char) : Option Nat := do
  let a ← Text.hexValue? a
  let b ← Text.hexValue? b
  let c ← Text.hexValue? c
  let d ← Text.hexValue? d
  some (((a * 16 + b) * 16 + c) * 16 + d)

/-- The first unit of a pair. -/
def isHighUnit (n : Nat) : Bool := 0xd800 ≤ n && n < 0xdc00

/-- The second unit of a pair. -/
def isLowUnit (n : Nat) : Bool := 0xdc00 ≤ n && n < 0xe000

def ofUnits (high low : Nat) : Char :=
  Char.ofNat (0x10000 + (high - 0xd800) * 0x400 + (low - 0xdc00))

/-- The character of a single unit; half of a pair stands for no character. -/
def ofUnit (n : Nat) : Char :=
  if isHighUnit n || isLowUnit n then '\ufffd' else Char.ofNat n

/-- The character that a backslash and a letter stand for. -/
def simpleEscape? : Char → Option Char
  | '"' => some '"'
  | '\\' => some '\\'
  | '/' => some '/'
  | 'b' => some '\x08'
  | 'f' => some '\x0c'
  | 'n' => some '\n'
  | 'r' => some '\r'
  | 't' => some '\t'
  | _ => none

/-- Characters by their numbers, with the two units of a pair joined. -/
def joinUnits : List Nat → List Char
  | [] => []
  | [n] => [ofUnit n]
  | high :: low :: rest =>
    if isHighUnit high && isLowUnit low then ofUnits high low :: joinUnits rest
    else ofUnit high :: joinUnits (low :: rest)

/-- What reading some characters yields: a result and the rest after it, or what is wrong. -/
abbrev Reading (α : Type) := Except Fault (α × List Char)

/-- The number that four hexadecimal digits write, and the rest after them. -/
def unitFrom (cs : List Char) : Reading Nat :=
  let digits := cs.take 4
  match digits.find? fun c => (Text.hexValue? c).isNone with
  | some c => .error (if c == '\x00' then .openUnit else .badUnit)
  | none =>
    if digits.length < 4 then .error .openUnit
    else .ok (digits.foldl (fun n c => n * 16 + (Text.hexValue? c).getD 0) 0, cs.drop 4)

/-- The numbers of the characters up to the closing quote, and the rest after it. `read` holds the
numbers before, the last one first, and the fuel is the number of characters. -/
def unitsFrom : Nat → List Nat → List Char → Reading (List Nat)
  | fuel + 1, read, c :: rest =>
    if c == '"' then .ok (read.reverse, rest)
    else if c == '\x00' then .error .openText
    else if c != '\\' then unitsFrom fuel (c.toNat :: read) rest
    else match rest with
      | [] => .error .openEscape
      | 'u' :: rest =>
        match unitFrom rest with
        | .ok (n, rest) => unitsFrom fuel (n :: read) rest
        | .error e => .error e
      | e :: rest =>
        match simpleEscape? e with
        | some c => unitsFrom fuel (c.toNat :: read) rest
        | none => .error (if e == '\x00' then .openEscape else .unknownEscape)
  | _, _, _ => .error .openText

def textFrom (cs : List Char) : Reading String :=
  (unitsFrom cs.length [] cs).map fun (ns, rest) => (String.ofList (joinUnits ns), rest)

/-- The power of ten behind the digits, if one is written, and the rest. -/
def powerFrom (cs : List Char) : Int × List Char :=
  let signed (sign : Int) (more : List Char) :=
    match more.takeWhile Char.isDigit with
    | [] => (0, cs)
    | ds => (sign * Text.decimalValue ds, more.dropWhile Char.isDigit)
  match cs with
  | c :: rest =>
    if c == 'e' || c == 'E' then
      match rest with
      | '+' :: more => signed 1 more
      | '-' :: more => signed (-1) more
      | more => signed 1 more
    else (0, cs)
  | [] => (0, cs)

/-- A number with a point or a power of ten, without its sign, and the rest; without a digit it is
zero and nothing is read. -/
def realFrom? (cs : List Char) : Option (Float × List Char) :=
  let whole := cs.takeWhile Char.isDigit
  let rest := cs.dropWhile Char.isDigit
  let (places, rest) := match rest with
    | '.' :: more => (more.takeWhile Char.isDigit, more.dropWhile Char.isDigit)
    | rest => ([], rest)
  if whole.isEmpty && places.isEmpty then none
  else
    let (power, rest) := powerFrom rest
    some (Decimal.nearest (Text.decimalValue (whole ++ places)) (power - places.length), rest)

/-- A float as a value, with its sign changed or not. -/
def realOf (negative : Bool) (x : Float) : Json := .real (if negative then -x else x)

/-- A name for a float that is no number. -/
def namedReal (negative : Bool) (name : String) (x : Float) (cs : List Char) : Reading Json :=
  match name.toList.isPrefixOf? cs with
  | some rest => .ok (realOf negative x, rest)
  | none => .error (.misspelled (if negative then "-" ++ name else name))

/-- The whole numbers that are read however many digits they have. -/
def isShort (negative : Bool) (size : Nat) : Bool :=
  size < Nat.pow 2 63 || (negative && size == Nat.pow 2 63)

def wholeOf (negative : Bool) (digits : List Char) : Except Fault Json :=
  let size := Text.decimalValue digits
  if Text.isOverlong digits && !isShort negative size then .error (.longNumber digits.length)
  else .ok (.int (if negative then -(size : Int) else size))

/-- A number. Behind a sign no digits at all are zero. -/
def numberFrom (cs : List Char) : Reading Json :=
  let negative := cs.head? == some '-'
  let size := if negative then cs.drop 1 else cs
  match size.takeWhile Char.isDigit, size.dropWhile Char.isDigit with
  | [], 'I' :: _ => namedReal negative "Infinity" (1.0 / 0.0) size
  | digits, rest =>
    if digits.isEmpty && !negative then namedReal false "NaN" (0.0 / 0.0) cs
    else match rest with
      | c :: _ =>
        if c == '.' || c == 'e' || c == 'E' then
          .ok <| match realFrom? size with
            | some (x, rest) => (realOf negative x, rest)
            | none => (.real 0.0, cs)
        else (wholeOf negative digits).map (·, rest)
      | [] => (wholeOf negative digits).map (·, [])

def startsNumber (c : Char) : Bool := c.isDigit || c == '-' || c == 'I' || c == 'N'

def named (name : String) (v : Json) (cs : List Char) : Reading Json :=
  match name.toList.isPrefixOf? cs with
  | some rest => .ok (v, rest)
  | none => .error (.misspelled name)

/-- The lists and objects that may lie in each other. -/
def mostNested : Nat := 1024

mutual

/-- A value, after white space. `room` is how deep lists and objects may still go. -/
def valueFrom : Nat → Nat → List Char → Reading Json
  | 0, _, _ => .error .noValue
  | fuel + 1, room, cs =>
    match skipSpace cs with
    | [] => .error .noValue
    | c :: rest =>
      if c == '"' then (textFrom rest).map fun (s, r) => (.str s, r)
      else if startsNumber c then numberFrom (c :: rest)
      else if c == 't' then named "true" (.bool true) (c :: rest)
      else if c == 'f' then named "false" (.bool false) (c :: rest)
      else if c == 'n' then named "null" .null (c :: rest)
      else if c == '[' || c == '{' then
        match room with
        | 0 => .error .tooDeep
        | room + 1 =>
          if c == '[' then
            match skipSpace rest with
            | ']' :: r => .ok (.arr [], r)
            | _ => itemsFrom fuel room [] rest
          else
            match skipSpace rest with
            | '}' :: r => .ok (.obj [], r)
            | _ => fieldsFrom fuel room [] rest
      else .error .noValue

/-- A list from after its bracket or a comma. `read` holds the items before, the last one first. -/
def itemsFrom : Nat → Nat → List Json → List Char → Reading Json
  | 0, _, _, _ => .error .noValue
  | fuel + 1, room, read, cs =>
    match skipSpace cs with
    | ']' :: _ => .error .emptyItem
    | _ =>
      match valueFrom fuel room cs with
      | .error e => .error e
      | .ok (v, rest) =>
        match skipSpace rest with
        | ',' :: more => itemsFrom fuel room (v :: read) more
        | ']' :: r => .ok (.arr (v :: read).reverse, r)
        | _ => .error .badItemEnd

/-- An object from after its brace or a comma. `read` holds the fields before, the last one first.
-/
def fieldsFrom : Nat → Nat → List (String × Json) → List Char → Reading Json
  | 0, _, _, _ => .error .noValue
  | fuel + 1, room, read, cs =>
    match skipSpace cs with
    | '}' :: _ => .error .badFieldEnd
    | _ =>
      match valueFrom fuel room cs with
      | .error e => .error e
      | .ok (.str k, rest) =>
        match skipSpace rest with
        | ':' :: rest =>
          match valueFrom fuel room rest with
          | .error e => .error e
          | .ok (v, rest) =>
            match skipSpace rest with
            | ',' :: more => fieldsFrom fuel room ((k, v) :: read) more
            | '}' :: r =>
              let fields := ((k, v) :: read).reverse
              .ok (.obj (fields.foldl (fun acc f => Keyed.put f.1 f.2 acc) []), r)
            | _ => .error .badFieldEnd
        | _ => .error .noColon
      | .ok _ => .error .badKey

end

/-- The value that a text writes, with white space around it. -/
def read (s : String) : Except Fault Json :=
  let cs := s.toList
  match valueFrom (2 * cs.length + 2) mostNested cs with
  | .ok (v, rest) => if (skipSpace rest).isEmpty then .ok v else .error .leftOver
  | .error e => .error e

end SolidityRepl.Json
