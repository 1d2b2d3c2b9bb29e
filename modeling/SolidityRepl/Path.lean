import SolidityRepl.Text.Search

/-!
# Paths

A path is a text with slashes. Empty steps and steps to `.` lead nowhere, and a step to `..` leads
back.
-/

namespace SolidityRepl.Path

open Text

def segments (path : List Char) : List (List Char) := path.splitOn '/'

def isStep (segment : List Char) : Bool := !segment.isEmpty && segment != ['.']

def back : List Char := ['.', '.']

def steps (path : String) : List String :=
  ((segments path.toList).filter isStep).map String.ofList

/-- A path with a NUL in it leads nowhere. -/
def isNowhere (steps : List String) : Bool := steps.any fun s => s.toList.contains '\x00'

/-- A path that is too long to be followed. -/
def isEndless (steps : List String) : Bool := 4096 ≤ ("/".intercalate steps).utf8ByteSize

/-- One more step, the last one first. A step back takes away the last step, unless that one goes
back itself; where there is nothing to take away it is kept, but not at the root. -/
def advance (rooted : Bool) (taken : List (List Char)) (step : List Char) : List (List Char) :=
  if step != back then step :: taken
  else match taken with
    | [] => if rooted then [] else [back]
    | last :: before => if last == back then back :: taken else before

/-- The slashes a normal path starts with: one, or two if there are exactly two. -/
def root (path : List Char) : List Char :=
  match (path.takeWhile (· == '/')).length with
  | 0 => []
  | 2 => ['/', '/']
  | _ => ['/']

/-- The shortest path that is read the same way. -/
def normalizedChars (path : List Char) : List Char :=
  let root := root path
  let steps := ((segments path).filter isStep).foldl (advance !root.isEmpty) []
  match root ++ ['/'].intercalate steps.reverse with
  | [] => ['.']
  | cs => cs

/-- The path up to the last slash, without the slashes at its end unless there is nothing else. -/
def directory (path : List Char) : List Char :=
  match splitAtLast? '/' path with
  | none => []
  | some (front, _) =>
    match front.reverse.dropWhile (· == '/') with
    | [] => front ++ ['/']
    | cs => cs.reverse

def under (directory path : List Char) : List Char :=
  if directory.isEmpty || directory.getLast? == some '/' then directory ++ path
  else directory ++ '/' :: path

end SolidityRepl.Path
