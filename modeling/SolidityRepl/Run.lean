import SolidityRepl.Program
import SolidityRepl.ReturnType
import SolidityRepl.Compiler.Basic
import SolidityRepl.Backend.Deployment
import SolidityRepl.Version.Range

/-!
# Running a statement

A statement is put at the end of the session, and the program of the whole session is compiled and
deployed. A value is first returned under a placeholder type; if the compiler complains about the
type, the complaint says which one it is, and the program is compiled once more. If anything fails,
the statement is taken away again, so that the programs of a session are those that ran.
-/

namespace SolidityRepl

/-- What a run needs from others: compilers, the chain, and somebody to tell. `interjected` are
statements that others have put in meanwhile. -/
structure Tools (W : Type) where
  compilerFor : String → Act W Compiler
  compile : Compiler → Keyed Json → Json → Act W CompileResult
  deploy : Keyed Contract → Act W (Keyed Deployed)
  warn : Diagnostic → Act W Unit
  note : Notice → Act W Unit
  interjected : W → List Statement × W

/-- The session, the last program and the last warnings, and the world they are in. -/
structure Desk (W : Type) where
  session : Session := []
  lastSource : Option String := none
  lastWarnings : List Diagnostic := []
  world : W

namespace Desk

variable {W : Type}

def inWorld {α : Type} (act : Act W α) : Act (Desk W) α :=
  Act.zoom Desk.world (fun w d => { d with world := w }) act

def render (tools : Tools W) (s : Settings) : Act (Desk W) String := do
  let source := (Frame.ofSettings s).render (← get).session
  if s.isOn .showContract then inWorld (tools.note (.program source))
  modify fun d => { d with lastSource := some source }
  return source

/-- The range of the compiler: that of the session, or else the version that is set. -/
def range (s : Settings) (session : Session) : Except Failure String :=
  match session.governingPragma?.bind fun p => Range.ofSource? p.text with
  | some spec => .ok spec
  | none =>
    match s.read .installedVersion with
    | .null => .error .noCompilerVersion
    | .str spec => .ok spec
    | _ => .error .unsupported

def compile (tools : Tools W) (s : Settings) (source : String) : Act (Desk W) CompileResult := do
  let spec ← Act.ofExcept (range s (← get).session)
  let compiler ← inWorld (tools.compilerFor spec)
  let sources := [((Frame.ofSettings s).unitName, Import.sourceOf source)]
  inWorld (tools.compile compiler sources (s.read .evmVersion))

/-- What is learnt from a refused program. -/
inductive Lesson where
  /-- The type of the returned value is this, or there is no value if it is empty. -/
  | type (type : String)
  /-- The program is wrong in another way. -/
  | wrong
  /-- The complaint is about the type, but does not say it. -/
  | unclear (message : Json)
  deriving Inhabited

/-- What a complaint about types says about the type of a statement's value. -/
def lessonOf (statement : Statement) (source : String) (message : Json) :
    Except Failure Lesson := do
  let text := (← message.asText).toList
  match ReturnType.ofMessage? text with
  | some type => return .type (String.ofList (ReturnType.declaredChars type))
  | none =>
    if ReturnType.isCountMessage text then
      match ReturnType.lookUp? statement.text source with
      | some values => return .type values
      | none => return .wrong
    else return .unclear message

/-- What a refused program says about the type of a statement's value: its last complaint about
types counts. -/
def lesson (statement : Statement) (source : String) (remarks : List Diagnostic) :
    Except Failure Lesson :=
  match (remarks.filter Diagnostic.isTypeError).getLast? with
  | none => .ok .wrong
  | some complaint =>
    if statement.yieldsNothing || statement.inferred then .ok .wrong
    else lessonOf statement source complaint.message

def inferType (tools : Tools W) (statement : Statement) (source : String)
    (remarks : List Diagnostic) : Act (Desk W) String := do
  match ← Act.ofExcept (lesson statement source remarks) with
  | .type type => return type
  | .wrong => throw (.compileFailed remarks)
  | .unclear message =>
    inWorld (tools.note (.unclearType statement.text message))
    throw (.inconsistent remarks)

/-- Whether a warning says one of the texts of warnings that are not passed on. -/
def isIgnored (warning : Diagnostic) : List Json → Except Failure Bool
  | [] => .ok false
  | part :: rest => do
    if ← warning.message.mentions (← part.asText) then return true
    isIgnored warning rest

def passedOn (ignored : List Json) : List Diagnostic → Except Failure (List Diagnostic)
  | [] => .ok []
  | warning :: rest => do
    let ignore ← isIgnored warning ignored
    let more ← passedOn ignored rest
    return if ignore then more else warning :: more

def warnAll (tools : Tools W) : List Diagnostic → Act W Unit
  | [] => return
  | warning :: rest => do
    tools.warn warning
    warnAll tools rest

/-- The warnings of a program are kept and passed on. -/
def report (tools : Tools W) (s : Settings) (warnings : List Diagnostic) : Act (Desk W) Unit := do
  if warnings.isEmpty then modify fun d => { d with lastWarnings := [] }
  else
    let ignored ← Act.ofExcept (s.read .ignoredWarnings).parts
    let kept ← Act.ofExcept (passedOn ignored warnings)
    modify fun d => { d with lastWarnings := kept }
    inWorld (warnAll tools kept)

/-- The name of the session's own contract. Only a text is the name of one. -/
def ownName (s : Settings) : Except Failure String :=
  match s.read .contractName with
  | .str name => .ok name
  | .arr _ | .obj _ => .error .wrongType
  | v => .error (.missingField v.shown)

/-- The name of the function to call, if one is set. -/
def entryName (s : Settings) : Option String :=
  match s.read .entryName with
  | .null => none
  | v => some v.shown

/-- The contracts of a program, with the function to call marked in the session's own contract. -/
def marked (own : String) (entry : Option String) (contracts : Keyed Contract) :
    Except Failure (Keyed Contract) :=
  match Keyed.get? own contracts with
  | none => .error (.missingField own)
  | some contract => .ok (Keyed.put own (contract.withEntry entry) contracts)

/-- Statements that others have put in meanwhile come to the end of the session. -/
def takeIn (tools : Tools W) : Act (Desk W) Unit :=
  modify fun d =>
    let (statements, world) := tools.interjected d.world
    { d with session := d.session ++ statements, world }

/-- The value of the entry function, unless something went wrong with a contract. -/
def valueIn (own : String) (results : Keyed Deployed) : Except Failure Value :=
  match results.findSome? fun r => r.2.error with
  | some e => .error (.deployFailed e)
  | none =>
    match Keyed.get? own results with
    | some d => .ok d.value
    | none => .error (.missingField own)

/-- A compiled program is deployed and its entry function called. -/
def deploy (tools : Tools W) (s : Settings) (contracts : Keyed Contract)
    (warnings : List Diagnostic) : Act (Desk W) Value := do
  report tools s warnings
  let own ← Act.ofExcept (ownName s)
  let contracts ← Act.ofExcept (marked own (entryName s) contracts)
  let results ← Act.attempt (inWorld (tools.deploy contracts))
  takeIn tools
  Act.ofExcept (results >>= valueIn own)

def retypeLast (statement : Statement) (type : String) : Act (Desk W) Unit := do
  let typed ← Act.ofExcept (statement.retype type)
  modify fun d => { d with session := d.session.pop.push typed }

/-- The value of the session's last statement, with its type given if it was not right. -/
def evaluate (tools : Tools W) (s : Settings) (statement : Statement) : Act (Desk W) Value := do
  let source ← render tools s
  match ← compile tools s source with
  | .ok contracts warnings => deploy tools s contracts warnings
  | .failed remarks =>
    retypeLast statement (← inferType tools statement source remarks)
    match ← compile tools s (← render tools s) with
    | .ok contracts warnings => deploy tools s contracts warnings
    | .failed remarks => throw (.compileFailed remarks)

/-- How a statement that may be missing is shown. -/
def shownLast (session : Session) : String :=
  match session.last? with
  | some s => s.shown
  | none => "None"

/-- The value of a statement that is put at the end of the session. If it fails, the last statement
is taken away again; that must be the one that was put there. -/
def run (tools : Tools W) (s : Settings) (statement : Statement) : Act (Desk W) Value :=
  Act.ofRun fun d =>
    let (r, after) :=
      (evaluate tools s statement).run { d with session := d.session.push statement }
    match r with
    | .ok value => (.ok value, after)
    | .error e =>
      let isOwn := after.session.length == d.session.length + 1
      (.error (if isOwn then e else .sessionChanged (shownLast after.session) statement.shown),
       { after with session := after.session.pop })

end Desk

end SolidityRepl
