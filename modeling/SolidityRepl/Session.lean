import SolidityRepl.Statement
import SolidityRepl.Json.Access
import SolidityRepl.Json.Printer
import SolidityRepl.Json.Parser

/-!
# Sessions

The accepted statements in the order of their input. Statements are added and taken away at the end
only. A session is saved as a list of texts with the codes of their scopes; reading it back places
every text again, so types start over.
-/

namespace SolidityRepl

/-- The accepted statements, oldest first. -/
abbrev Session := List Statement

namespace Session

def push (session : Session) (s : Statement) : Session := session ++ [s]

def last? (session : Session) : Option Statement := session.getLast?

def pop (session : Session) : Session := session.dropLast

theorem pop_push (session : Session) (s : Statement) : (session.push s).pop = session := by
  simp [push, pop]

theorem last?_push (session : Session) (s : Statement) : (session.push s).last? = some s := by
  simp [push, last?]

def inScope (session : Session) (scope : Scope) : List Statement :=
  session.filter (fun s => s.scope == scope)

/-- The version pragma in force: the most recent one. -/
def governingPragma? (session : Session) : Option Statement :=
  (session.inScope .versionPragma).getLast?

def shown (session : Session) : String :=
  "Session([" ++ ", ".intercalate (session.map Statement.shown) ++ "])"

/-- The text and the scope code of every statement. -/
def pairs (session : Session) : List (String × String) :=
  session.map fun s => (s.text, s.scope.code)

def toJson (session : Session) : Json :=
  .arr (session.pairs.map fun p => .arr [.str p.1, .str p.2])

def record (session : Session) : String := session.toJson.render

/-- A statement from a value with two parts, its text and its scope code. -/
def statementOf (pair : Json) : Except Failure Statement := do
  match ← pair.parts with
  | [text, code] => Statement.ofValues text code
  | _ => .error .invalidValue

def ofJson (value : Json) : Except Failure Session := do
  (← value.parts).mapM statementOf

def ofRecord (record : String) : Except Failure Session :=
  match Json.read record with
  | .ok value => ofJson value
  | .error fault => .error (.badJson fault)

end Session

end SolidityRepl
