import SolidityRepl.Diagnostic
import SolidityRepl.Json.Fault

/-!
# Failures

Everything that can go wrong, by cause. The wording of a cause is in `Failure.message`, and what a
caller may catch is said by predicates on causes.
-/

namespace SolidityRepl

/-- A fault that comes from outside: from the file system, the network, a process or the user. -/
inductive Fault where
  | system
  | fileNotFound
  | permission
  | systemTimeout
  | request
  | connection
  | httpStatus
  | requestTimeout
  | value
  | key
  | runtime
  | interrupt
  deriving DecidableEq, Repr

def Fault.parent? : Fault → Option Fault
  | .fileNotFound | .permission | .systemTimeout | .request => some .system
  | .connection | .httpStatus | .requestTimeout => some .request
  | _ => none

/-- A fault is of its own kind and of every more general one. -/
def Fault.isA (f kind : Fault) : Bool :=
  f == kind || match f.parent? with
    | none => false
    | some g => g == kind || g.parent? == some kind

/-- A contract that could not be deployed or called. -/
structure DeployFailure where
  message : String
  contract : Option String := none
  reason : Option String := none
  details : List (String × Json) := []
  deriving Inhabited, Repr

/-- The message, with the contract in front and the reason behind. -/
def DeployFailure.shown (e : DeployFailure) : String :=
  let text := match e.contract with
    | none => e.message
    | some name => name ++ ": " ++ e.message
  match e.reason with
  | none => text
  | some reason => text ++ " (reason: " ++ reason ++ ")"

inductive Failure where
  /-- The compiler refused the program. -/
  | compileFailed (diagnostics : List Diagnostic)
  /-- The compiler complained about a type in words that say no type. -/
  | inconsistent (diagnostics : List Diagnostic)
  | deployFailed (e : DeployFailure)
  | unknownSettings (names : List String)
  | noCompilerVersion
  | unresolvedVersion (spec : String)
  /-- The node answered a call with an error. -/
  | refusedCall (code message : Json) (data : Option String)
  /-- The type of a statement is given once, and only to a statement that has one. -/
  | typeIsFixed (statement : String)
  /-- The last statement of a session is another than the one that was run. -/
  | sessionChanged (last own : String)
  | unknownScope (code : Json)
  /-- A transaction that the node knows nothing of for too long. -/
  | unanswered (transaction : Json)
  | componentsOutsideTuple (type : String)
  | invalidValue
  | wrongType
  | missingField (name : String)
  | unsupported
  | noSuchItem
  /-- A number that no word of the simulated machine holds. -/
  | noWord
  /-- The code that should make a contract is too long. -/
  | longMaker
  | notPrefixed
  | tooLarge
  | badJson (fault : Json.Fault)
  | badText
  /-- A number with too many digits. -/
  | overlong
  | badVersion
  | badSpecifier
  | tooFewBytes
  | nonZeroPadding
  | badPointer
  | badTypeSize
  | unknownType
  | unparsableType
  /-- A type with a number of too many digits. -/
  | overlongType
  /-- Fields of a struct whose names are different ways to write one name. -/
  | clashingFields
  | unreadablePath
  /-- A path below the home of somebody who is not known. -/
  | homeless
  | fileInTheWay
  | blockedPath
  | badEntry
  /-- The compiler broke down, with the remarks it left behind. -/
  | compilerBroke (remarks : List Json)
  | outside (fault : Fault) (message : String)
  deriving Inhabited

namespace Failure

/-- The wording of a cause, where it has one. A cause that a library words has none. -/
def message : Failure → Option String
  | .compileFailed ds | .inconsistent ds => (ds.mapM Diagnostic.headline?).map ("\n".intercalate ·)
  | .deployFailed e => some e.shown
  | .unknownSettings names => some ("Unknown settings: " ++ ", ".intercalate names)
  | .noCompilerVersion =>
    some "no `pragma solidity` in the session and no default compiler version configured"
  | .unresolvedVersion spec => some ("No compiler found for version " ++ spec)
  | .refusedCall code message _ => some (code.shown ++ ": " ++ message.shown)
  | .typeIsFixed statement => some ("return type of " ++ statement ++ " cannot be changed")
  | .sessionChanged last own => some ("session changed during run: " ++ last ++ " != " ++ own)
  | .unknownScope (.str code) => some (Text.quoted code ++ " is not a valid Scope")
  | .unanswered transaction => some ("Timed out waiting for (" ++ transaction.shown ++ ")")
  | .componentsOutsideTuple type => some ("Components found in non-tuple type " ++ type)
  | .badJson fault => some fault.message
  | .homeless => some "Could not determine home directory."
  | .outside _ message => some message
  | _ => none

def isFault (kind : Fault) : Failure → Bool
  | .outside f _ => f.isA kind
  | _ => false

/-- A value of the right kind that says nothing valid. -/
def isInvalidValue : Failure → Bool
  | .unknownSettings _ | .unknownScope _ | .unanswered _ | .componentsOutsideTuple _
  | .invalidValue | .badJson _ | .badText | .overlong | .badVersion | .badSpecifier | .badTypeSize
  | .unknownType => true
  | f => f.isFault .value

/-- Bytes that are no encoding of the declared types. -/
def isUndecodable : Failure → Bool
  | .tooFewBytes | .nonZeroPadding | .badPointer => true
  | _ => false

/-- What is wrong with an encoding is worded by the library that decodes. -/
theorem message_of_isUndecodable {e : Failure} (undecodable : e.isUndecodable = true) :
    e.message = none := by
  cases e <;> first | rfl | cases undecodable

/-- A node that does not answer, or not yet. -/
def isUnreachable (f : Failure) : Bool :=
  f.isFault .connection || f.isFault .httpStatus || f.isFault .requestTimeout

/-- A fault of the operating system or the network. -/
def isSystem : Failure → Bool
  | .unreadablePath | .fileInTheWay | .blockedPath => true
  | f => f.isFault .system

end Failure

/-- A computation with a state of type `σ` that is kept when it fails. -/
abbrev Act (σ : Type) := ExceptT Failure (StateM σ)

namespace Act

variable {σ τ α : Type}

def run (act : Act σ α) (s : σ) : Except Failure α × σ := StateT.run (ExceptT.run act) s

/-- A computation given by what it does to the state. -/
def ofRun (f : σ → Except Failure α × σ) : Act σ α := ExceptT.mk f

/-- A computation on a part of the state. -/
def zoom (part : σ → τ) (put : τ → σ → σ) (act : Act τ α) : Act σ α :=
  ofRun fun s => let (r, t) := act.run (part s); (r, put t s)

/-- The answer of a computation, failed or not; its changes to the state stay. -/
def attempt (act : Act σ α) : Act σ (Except Failure α) :=
  ofRun fun s => let (r, s') := act.run s; (.ok r, s')

def ofExcept (r : Except Failure α) : Act σ α := ofRun fun s => (r, s)

@[simp] theorem run_ofRun (f : σ → Except Failure α × σ) (s : σ) : (ofRun f).run s = f s := rfl

@[simp] theorem run_pure (a : α) (s : σ) : (pure a : Act σ α).run s = (.ok a, s) := rfl

@[simp] theorem run_throw (e : Failure) (s : σ) : (throw e : Act σ α).run s = (.error e, s) := rfl

theorem run_bind {β : Type} (act : Act σ α) (next : α → Act σ β) (s : σ) :
    (act >>= next).run s =
      match act.run s with
      | (.ok a, t) => (next a).run t
      | (.error e, t) => (.error e, t) := by
  show StateT.run (ExceptT.run (act >>= next)) s = _
  simp only [ExceptT.run_bind, StateT.run_bind, Act.run]
  cases h : StateT.run (ExceptT.run act) s with
  | mk r t => cases r <;> rfl

end Act

end SolidityRepl
