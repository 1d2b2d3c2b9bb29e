import SolidityRepl.Fragment.Assignment
import SolidityRepl.Fragment.Declaration

/-!
# Where a fragment belongs

A fragment is placed by the shape of its text alone. Five rules are tried in order, the last of
which takes everything; each has a scope in the program and says whether a missing semicolon is
added.
-/

namespace SolidityRepl

/-- The parts of a program that fragments go into. -/
inductive Scope where
  | sourceUnit
  | contract
  | main
  | versionPragma
  deriving DecidableEq, Repr, Inhabited

def Scope.code : Scope → String
  | .sourceUnit => "sourceUnit"
  | .contract => "contract"
  | .main => "main"
  | .versionPragma => "versionPragma"

def Scope.ofCode? (code : String) : Option Scope :=
  [Scope.sourceUnit, .contract, .main, .versionPragma].find? (fun s => s.code == code)

theorem Scope.ofCode?_code (s : Scope) : Scope.ofCode? s.code = some s := by
  cases s <;> decide

namespace Fragment

def startsWith (start : String) (cs : List Char) : Bool := start.toList.isPrefixOf cs

/-- The rest of a text that begins with a word. -/
def after? (start : String) (cs : List Char) : Option (List Char) :=
  start.toList.isPrefixOf? cs

/-- What a member of the contract may begin with, before white space or a bracket. -/
def memberKeywords : List String :=
  ["function", "modifier", "mapping", "event", "error", "constructor", "receive", "fallback",
   "using"]

def definitionStarts : List String :=
  ["contract ", "interface ", "struct ", "library ", "abstract contract ", "enum "]

def silentStarts : List String := ["delete ", "assembly", "revert", "unchecked ", "\x7b"]

def controlKeywords : List String := ["if", "for", "while", "do", "try", "emit", "return"]

/-- A member of the contract: a keyword, then white space or a bracket. -/
def isMember (cs : List Char) : Bool :=
  memberKeywords.any fun k =>
    match after? k cs with
    | some (c :: _) => Text.isBlank c || c == '('
    | _ => false

/-- A keyword that opens a statement, as a whole word. -/
def isControl (cs : List Char) : Bool :=
  controlKeywords.any fun k =>
    match after? k cs with
    | some (c :: _) => !Text.isWord c
    | some [] => true
    | none => false

def endsIn (c : Char) (cs : List Char) : Bool := cs.getLast? == some c

/-- A fragment that cannot be the last expression of the entry function. -/
def yieldsNothing (cs : List Char) : Bool :=
  cs == [';'] || hasAssignment cs || silentStarts.any (startsWith · cs) || isControl cs ||
    endsIn '}' cs || looksLikeDeclaration cs

/-- The text with a semicolon at its end, unless it ends in one or in a brace. -/
def terminate (cs : List Char) : List Char :=
  if endsIn ';' cs || endsIn '}' cs then cs else cs ++ [';']

inductive Rule where
  | member
  | versionPragma
  | directive
  | definition
  | body
  deriving DecidableEq, Repr

namespace Rule

def label : Rule → String
  | .member => "declaration"
  | .versionPragma => "version_pragma"
  | .directive => "source_unit_directive"
  | .definition => "source_unit_definition"
  | .body => "main"

def takes : Rule → List Char → Bool
  | .member, cs => isMember cs
  | .versionPragma, cs => startsWith "pragma solidity " cs
  | .directive, cs => startsWith "pragma " cs || startsWith "import " cs
  | .definition, cs => definitionStarts.any (startsWith · cs)
  | .body, _ => true

def scope : Rule → Scope
  | .member => .contract
  | .versionPragma => .versionPragma
  | .directive | .definition => .sourceUnit
  | .body => .main

/-- The text as it stands in the program. Definitions are taken as they are. -/
def finish : Rule → List Char → List Char
  | .definition, cs => cs
  | _, cs => terminate cs

def first (cs : List Char) : Rule :=
  if takes .member cs then .member
  else if takes .versionPragma cs then .versionPragma
  else if takes .directive cs then .directive
  else if takes .definition cs then .definition
  else .body

def of : Scope → Rule
  | .contract => .member
  | .versionPragma => .versionPragma
  | .sourceUnit => .directive
  | .main => .body

theorem takes_first (cs : List Char) : (first cs).takes cs = true := by
  unfold first
  repeat' split
  all_goals first | assumption | rfl

theorem scope_of (s : Scope) : (of s).scope = s := by cases s <;> rfl

end Rule

end Fragment

end SolidityRepl
