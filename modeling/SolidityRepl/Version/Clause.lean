import SolidityRepl.Version.Parser

/-!
# Clauses

A clause compares versions with one: `==`, `!=`, `<`, `<=`, `>`, `>=`, the compatible `~=`, and the
literal `===`. After `==` and `!=` a series may stand for its versions (`0.8.*`); after `~=` the
release has two numbers at least; local parts are compared by `==` and `!=` alone.
-/

namespace SolidityRepl

inductive Comparator where
  | literal
  | compatible
  | equal
  | unequal
  | atMost
  | atLeast
  | below
  | above
  deriving DecidableEq, Repr

namespace Comparator

def sign : Comparator → String
  | .literal => "==="
  | .compatible => "~="
  | .equal => "=="
  | .unequal => "!="
  | .atMost => "<="
  | .atLeast => ">="
  | .below => "<"
  | .above => ">"

/-- All comparators, those of two signs before those of one, and the literal one last. -/
def all : List Comparator :=
  [.compatible, .equal, .unequal, .atMost, .atLeast, .below, .above, .literal]

end Comparator

/-- A comparison with a version, which is kept as it was written. -/
structure Clause where
  comparator : Comparator
  text : String
  deriving DecidableEq, Repr

namespace Clause

open Version (core? ofChars?)

def shown (c : Clause) : String := c.comparator.sign ++ c.text

/-- A text that `.*` ends, without it. -/
def series? (cs : List Char) : Option (List Char) :=
  if ".*".toList.isSuffixOf cs then some (cs.take (cs.length - 2)) else none

/-- A version that has an epoch and a release, and nothing after them. -/
def isPlainRelease (cs : List Char) : Bool :=
  match core? (cs.map Char.toLower) with
  | some (v, []) => v.isPlain
  | _ => false

def isOperand (op : Comparator) (cs : List Char) : Bool :=
  match op with
  | .literal => cs.all fun c => !(Text.isBlank c || c == ';' || c == ')')
  | .equal | .unequal =>
    match series? cs with
    | some front => isPlainRelease front
    | none => (ofChars? cs).isSome
  | _ =>
    match core? (cs.map Char.toLower) with
    | some (v, []) => op != .compatible || v.release.length > 1
    | _ => false

def parse? (cs : List Char) : Option Clause :=
  let cs := Text.strip cs
  Comparator.all.findSome? fun op => do
    let operand ← op.sign.toList.isPrefixOf? cs
    let operand := Text.stripStart operand
    if isOperand op operand then some ⟨op, String.ofList operand⟩ else none

/-- The series of the versions that are compatible with one: all numbers of its release but the
last. -/
def compatibleSeries (w : Version) : Version :=
  { epoch := w.epoch, release := w.release.dropLast }

/-- Equal versions; a local part counts only if the clause has one. -/
def equalTo (v w : Version) : Bool :=
  (if w.vendor.isEmpty then v.withoutVendor else v).same w

/-- Strictly older; the prereleases of a release do not count as older than it. -/
def olderThan (v w : Version) : Bool :=
  v.before w && !(!w.isPrerelease && v.isPrerelease && !v.before w.firstBuild)

/-- Strictly newer; what only mends or repackages a version does not count as newer than it. -/
def newerThan (v w : Version) : Bool :=
  w.before v && !(!w.isPostrelease && v.isPostrelease && v.mended.same w) &&
    !(!v.vendor.isEmpty && v.withoutVendor.same w)

/-- Whether a version fits a clause, as far as the comparison goes. -/
def fits (c : Clause) (v : Version) : Bool :=
  let cs := c.text.toList
  match c.comparator with
  | .literal => v.shown.map Char.toLower == c.text.map Char.toLower
  | .equal | .unequal =>
    let equal := match series? cs with
      | some front => match ofChars? front with
        | some w => v.isOfSeries w
        | none => false
      | none => match ofChars? cs with
        | some w => equalTo v w
        | none => false
    if c.comparator == .equal then equal else !equal
  | op =>
    match ofChars? cs with
    | none => false
    | some w =>
      match op with
      | .atMost => !w.before v.withoutVendor
      | .atLeast => !v.withoutVendor.before w
      | .below => olderThan v w
      | .above => newerThan v w
      | _ => !v.withoutVendor.before w && v.isOfSeries (compatibleSeries w)

/-- A clause about a version that is not out asks for such versions, unless it only excludes it. -/
def asksForPrereleases (c : Clause) : Bool :=
  c.comparator != .unequal && (ofChars? c.text.toList).any Version.isPrerelease

/-- A clause on a number with too many digits. -/
def isOverlong (c : Clause) : Bool :=
  let cs := c.text.toList
  let operand := (series? cs).getD cs
  (ofChars? operand).isSome && Version.hasOverlong operand

def acceptAll (clauses : List Clause) (v : Version) : Bool := clauses.all fun c => c.fits v

/-- The versions that fit. Those that are not out count only if a clause asks for such or nothing
else fits. -/
def filter (clauses : List Clause) (versions : List Version) : List Version :=
  let fitting := versions.filter (acceptAll clauses)
  if clauses.any asksForPrereleases then fitting
  else match fitting.filter fun v => !v.isPrerelease with
    | [] => fitting
    | out => out

end Clause

end SolidityRepl
