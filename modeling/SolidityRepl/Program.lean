import SolidityRepl.Session
import SolidityRepl.Settings
import SolidityRepl.Text.Lines

/-!
# Programs

A session as one program: a licence line and a version pragma, the statements of the source unit,
and one contract with the contract's statements and the entry function. If the last statement of
the session yields a value, the entry function returns it and declares its type; all other
statements stand in the order of the session.
-/

namespace SolidityRepl

/-- What is around the statements: the names of the contract and of the entry function, and the
compiler to ask for if the session does not ask for one. -/
structure Frame where
  contract : String
  entry : String
  version : Option String
  deriving DecidableEq, Repr, Inhabited

namespace Frame

def ofSettings (s : Settings) : Frame where
  contract := (s.read .contractName).shown
  entry := (s.read .entryName).shown
  version := match s.read .installedVersion with
    | .null => none
    | v => some v.shown

def unitName (frame : Frame) : String := frame.contract ++ ".sol"

/-- The first line of every program. -/
def licence : String := "// SPDX-License-Identifier: GPL-2.0-or-later"

def pragma? (frame : Frame) (session : Session) : Option String :=
  match session.governingPragma? with
  | some s => some s.text
  | none => frame.version.map fun v => "pragma solidity " ++ v ++ ";"

def tail? (session : Session) : Option Statement :=
  match session.last? with
  | some s => if s.scope == .main && !s.yieldsNothing then some s else none
  | none => none

/-- The statements of the entry function without the one whose value is returned. -/
def body (session : Session) : List Statement :=
  let all := session.inScope .main
  if (tail? session).isSome then all.dropLast else all

/-- The last line of the entry function. The text of no statement is no expression. -/
def returnLine (session : Session) : List Char :=
  let expression := match tail? session with
    | some s => s.returned
    | none => Statement.silent
  if expression == Statement.silent then "return;".toList
  else "return ".toList ++ expression.toList

/-- The returns clause of the entry function, with a space in front. -/
def returnsClause (session : Session) : List Char :=
  match tail? session with
  | some s =>
    if s.returnType.isEmpty then [] else " returns (".toList ++ s.returnType.toList ++ [')']
  | none => []

def texts (statements : List Statement) : List (List Char) := statements.map fun s => s.text.toList

/-- A line feed and an empty line: what stands between the parts of a program. -/
def gap : List Char := ['\n', '\n']

def header (frame : Frame) (session : Session) : List Char :=
  match frame.pragma? session with
  | some p => licence.toList ++ '\n' :: p.toList
  | none => licence.toList

/-- The members of the contract, indented, with an empty line after them. -/
def members (session : Session) : List (List Char) :=
  match session.inScope .contract with
  | [] => []
  | statements => [Text.indent 4 (gap.intercalate (texts statements)), []]

def contractLines (frame : Frame) (session : Session) : List (List Char) :=
  ("contract ".toList ++ frame.contract.toList ++ " \x7b".toList) ::
    members session ++
    [ "    function ".toList ++ frame.entry.toList ++ "() public".toList ++
        returnsClause session ++ " \x7b".toList,
      Text.indent 8 (['\n'].intercalate (texts (body session) ++ [returnLine session])),
      "    \x7d".toList,
      "\x7d".toList ]

def parts (frame : Frame) (session : Session) : List (List Char) :=
  let prologue := match session.inScope .sourceUnit with
    | [] => []
    | statements => [gap.intercalate (texts statements)]
  frame.header session :: prologue ++ [['\n'].intercalate (frame.contractLines session)]

def render (frame : Frame) (session : Session) : String :=
  String.ofList (gap.intercalate (frame.parts session) ++ ['\n'])

end Frame

end SolidityRepl
