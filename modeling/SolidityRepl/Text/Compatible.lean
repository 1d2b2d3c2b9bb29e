import SolidityRepl.Text.Blank
import SolidityRepl.Text.Decomposition
import SolidityRepl.Text.Digit

/-!
# Compatible texts

Texts are compatible if they are the same once every character is taken apart into simpler ones,
such as the ligature `ﬁ` into two letters, and the marks behind a letter are put in the order of
their classes. Texts of ASCII characters are compatible only with themselves among such texts.
-/

namespace SolidityRepl.Text

structure Run where
  start : Nat
  size : Nat
  values : List Nat
  deriving Repr

def hexNumber (cs : List Char) : Nat := cs.foldl (fun n c => n * 16 + (hexValue? c).getD 0) 0

/-- The run that a word of a table gives. -/
def Run.ofWord (cs : List Char) : Run :=
  match cs.splitOn '=' with
  | [place, values] =>
    let values := (values.splitOn '.').map hexNumber
    match place.splitOn '+' with
    | [start, size] => ⟨hexNumber start, hexNumber size, values⟩
    | _ => ⟨hexNumber place, 1, values⟩
  | _ => ⟨0, 0, []⟩

def runsOf (table : String) : List Run := (words table.toList).map Run.ofWord

/-- The run that a character is in, and its place in the run. -/
def findRun? (runs : List Run) (n : Nat) : Option (Nat × Run) :=
  (runs.find? fun r => r.start ≤ n && n < r.start + r.size).map fun r => (n - r.start, r)

def syllable (n : Nat) : List Nat :=
  let place := n - 0xac00
  let last := place % 28
  [0x1100 + place / 588, 0x1161 + place % 588 / 28] ++ if last = 0 then [] else [0x11a7 + last]

/-- The simplest characters that a character is taken apart into. -/
def simplest (c : Char) : List Nat :=
  let n := c.toNat
  if n < 0x80 then [n]
  else if 0xac00 ≤ n && n < 0xd7a4 then syllable n
  else match findRun? (runsOf simplerForms) n with
    | some (place, run) => run.values.map (· + place)
    | none => [n]

/-- The class of a mark; zero for other characters. -/
def markClass (n : Nat) : Nat :=
  if n < 0x80 then 0
  else match findRun? (runsOf markClasses) n with
    | some (_, run) => run.values.headD 0
    | none => 0

/-- A character in front of others, behind the marks there that come before it. -/
def insertMark (n : Nat) : List Nat → List Nat
  | [] => [n]
  | m :: rest =>
    if markClass m != 0 && markClass m < markClass n then m :: insertMark n rest
    else n :: m :: rest

/-- The simplest characters of a text, with its marks in order. -/
def takenApart (s : String) : List Nat := (s.toList.flatMap simplest).foldr insertMark []

end SolidityRepl.Text
