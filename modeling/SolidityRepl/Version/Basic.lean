import SolidityRepl.Text.Blank

/-!
# Versions

A version has an epoch, a release (numbers with points between them), and marks for what comes
before or after that release: a stage with a number, a post-release, a development build, and a
local part. Numbers missing at the end of a release are zeros.
-/

namespace SolidityRepl

/-- What a release goes through before it is out. -/
inductive Stage where
  | alpha
  | beta
  | candidate
  deriving DecidableEq, Repr

def Stage.rank : Stage → Nat
  | .alpha => 0
  | .beta => 1
  | .candidate => 2

def Stage.label : Stage → String
  | .alpha => "a"
  | .beta => "b"
  | .candidate => "rc"

/-- A piece of a version: a number, or a word. -/
inductive Segment where
  | number (n : Nat)
  | word (s : String)
  deriving DecidableEq, Repr

def Segment.shown : Segment → String
  | .number n => toString n
  | .word s => s

/-- A version. `vendor` is the local part. -/
structure Version where
  epoch : Nat := 0
  release : List Nat
  stage : Option (Stage × Nat) := none
  post : Option Nat := none
  dev : Option Nat := none
  vendor : List Segment := []
  deriving DecidableEq, Repr, Inhabited

namespace Version

/-- Lists in the order of their first difference, a list before what it begins. -/
def compareLists {α : Type} (cmp : α → α → Ordering) : List α → List α → Ordering
  | [], [] => .eq
  | [], _ :: _ => .lt
  | _ :: _, [] => .gt
  | a :: as, b :: bs => (cmp a b).then (compareLists cmp as bs)

/-- A release without the zeros at its end. -/
def trimmed (release : List Nat) : List Nat := (release.reverse.dropWhile (· == 0)).reverse

/-- A version that is not out yet. -/
def isPrerelease (v : Version) : Bool := v.stage.isSome || v.dev.isSome

/-- A version that mends one that is out. -/
def isPostrelease (v : Version) : Bool := v.post.isSome

/-- A version with an epoch and a release and nothing else. -/
def isPlain (v : Version) : Bool := !v.isPrerelease && !v.isPostrelease && v.vendor.isEmpty

/-- The place of a version among those of its release: a development build of nothing else comes
first, then the stages, then the release. -/
def stageKey (v : Version) : List Nat :=
  match v.stage with
  | some (s, n) => [1, s.rank, n]
  | none => if v.post.isNone && v.dev.isSome then [0] else [2]

/-- The place of a post-release: after what it mends. -/
def postKey (v : Version) : Nat :=
  match v.post with
  | none => 0
  | some n => n + 1

/-- The place of a development build: before what it leads to. -/
def devKey (v : Version) : List Nat :=
  match v.dev with
  | some n => [0, n]
  | none => [1]

/-- Pieces of a local part: words before numbers. -/
def compareSegments : Segment → Segment → Ordering
  | .word a, .word b => compareOfLessAndEq a b
  | .word _, .number _ => .lt
  | .number _, .word _ => .gt
  | .number a, .number b => compareOfLessAndEq a b

def compareNumbers (a b : Nat) : Ordering := compareOfLessAndEq a b

def compare (a b : Version) : Ordering :=
  (compareNumbers a.epoch b.epoch).then <|
  (compareLists compareNumbers (trimmed a.release) (trimmed b.release)).then <|
  (compareLists compareNumbers a.stageKey b.stageKey).then <|
  (compareNumbers a.postKey b.postKey).then <|
  (compareLists compareNumbers a.devKey b.devKey).then <|
  compareLists compareSegments a.vendor b.vendor

/-- Two ways to write one version. -/
def same (a b : Version) : Bool := a.compare b == .eq

def before (a b : Version) : Bool := a.compare b == .lt

def withoutVendor (v : Version) : Version := { v with vendor := [] }

/-- The version that a post-release mends, with its stage. -/
def mended (v : Version) : Version := { v with post := none, dev := none, vendor := [] }

/-- The first development build of a version. -/
def firstBuild (v : Version) : Version := { v with dev := some 0, vendor := [] }

def shown (v : Version) : String :=
  (if v.epoch = 0 then "" else toString v.epoch ++ "!") ++
  ".".intercalate (v.release.map toString) ++
  (match v.stage with | some (s, n) => s.label ++ toString n | none => "") ++
  (match v.post with | some n => ".post" ++ toString n | none => "") ++
  (match v.dev with | some n => ".dev" ++ toString n | none => "") ++
  (if v.vendor.isEmpty then "" else "+" ++ ".".intercalate (v.vendor.map Segment.shown))

/-- The first numbers of a release, as many as wanted, with zeros behind its end. -/
def leading (n : Nat) (release : List Nat) : List Nat :=
  (release ++ List.replicate n 0).take n

/-- The version is of the epoch of a series, and its release begins with that of the series. -/
def isOfSeries (v series : Version) : Bool :=
  v.epoch == series.epoch && leading series.release.length v.release == series.release

/-- The newest of some versions, the first of equal ones. -/
def newest? : List Version → Option Version
  | [] => none
  | v :: rest => match newest? rest with
    | none => some v
    | some w => if v.before w then some w else some v

end Version

end SolidityRepl
