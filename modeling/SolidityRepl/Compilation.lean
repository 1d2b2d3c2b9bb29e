import SolidityRepl.Json.Access

/-!
# What a compilation gives

Either contracts and warnings, or remarks with an error among them. The contracts are those of the
asked-for source units; of two with one name the later counts.
-/

namespace SolidityRepl

/-- A compiled contract. Its parts are kept as the compiler wrote them; `entry` is the function to
call once it is deployed. -/
structure Contract where
  name : String
  abi : Json
  bytecode : Json
  opcodes : Json := .str ""
  layout : Json := .null
  entry : Option String := none
  deriving Inhabited, Repr

namespace Contract

def ofJson (name : String) (data : Json) : Except Failure Contract := do
  let evm ← data.optional "evm" (.obj [])
  let code ← evm.optional "bytecode" (.obj [])
  return {
    name
    abi := ← data.optional "abi" (.arr [])
    bytecode := ← code.optional "object" (.str "")
    opcodes := ← code.optional "opcodes" (.str "")
    layout := ← data.optional "storageLayout" .null }

/-- A contract with code: interfaces and abstract contracts have none. -/
def isDeployable (c : Contract) : Except Failure Bool := c.bytecode.count.map (0 < ·)

def withEntry (c : Contract) (entry : Option String) : Contract := { c with entry }

end Contract

inductive CompileResult where
  | ok (contracts : Keyed Contract) (warnings : List Diagnostic)
  | failed (diagnostics : List Diagnostic)
  deriving Inhabited

namespace CompileResult

def remarks (errors : Json) : Except Failure (List Diagnostic) := do
  (← errors.parts).mapM fun e => e.asFields.map Diagnostic.ofFields

def contractsOf (all : Json) (unit : String) : Except Failure (Keyed Contract) := do
  let unit ← all.optional unit (.obj [])
  (← unit.asFields).mapM fun (name, data) => (Contract.ofJson name data).map (name, ·)

/-- The result of an output, with the contracts of the given units. -/
def ofOutput (output : Json) (units : List String) : Except Failure CompileResult := do
  let diagnostics ← remarks (← output.optional "errors" (.arr []))
  if diagnostics.any Diagnostic.isError then return .failed diagnostics
  let all ← output.optional "contracts" (.obj [])
  let contracts ← units.mapM (contractsOf all)
  return .ok (Keyed.putAll contracts.flatten []) (diagnostics.filter Diagnostic.isWarning)

/-- The errors among the remarks of a failed compilation. -/
def errors : CompileResult → List Diagnostic
  | .ok _ _ => []
  | .failed ds => ds.filter Diagnostic.isError

end CompileResult

end SolidityRepl
