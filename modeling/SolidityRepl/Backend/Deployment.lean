import SolidityRepl.Abi.Function
import SolidityRepl.Compilation
import SolidityRepl.Node.Quantity

/-!
# Deployments

Compiled contracts are put on a chain, one after the other, from the chain's first account. The
contract with an entry function comes last, and its function is called. What fails for one contract
is written down beside it; the others go on.
-/

namespace SolidityRepl

structure Deployed where
  contract : Contract
  address : Option Address := none
  value : Value := .nothing
  error : Option DeployFailure := none
  deriving Inhabited

def Deployed.isOk (d : Deployed) : Bool := d.error.isNone

/-- What a chain is asked for: its accounts, a new contract for some code, and the answer of a
contract to some data. The last argument of both is the gas they may take. -/
structure Chain (W : Type) where
  accounts : Act W (List Address)
  create : Address → Bytes → Json → Act W Address
  call : Address → Address → Bytes → Json → Act W Bytes

/-- The gas that a deployment and a call may take. -/
structure GasLimits where
  deploy : Json
  call : Json
  deriving Inhabited, Repr

namespace Chain

variable {W : Type}

/-- A failure to deploy belongs to a contract; every other failure passes. -/
def blame {α : Type} (contract : Contract) (fail : DeployFailure → α) (e : Failure) : Act W α :=
  match e with
  | .deployFailed e => return fail { e with contract := some (e.contract.getD contract.name) }
  | e => throw e

def failed (contract : Contract) (message : String) : Failure :=
  .deployFailed { message, contract := some contract.name }

def codeOf (contract : Contract) : Except Failure Bytes :=
  match Node.bytesOf contract.bytecode with
  | .ok code => .ok code
  | .error e =>
    if e.isInvalidValue then .error (failed contract "bytecode is not linked") else .error e

/-- What is said of bytes that are no encoding, with the words of their fault where it has any. -/
def undecodable (e : Failure) : String :=
  match e.message with
  | some words => "cannot decode return value: " ++ words
  | none => "cannot decode return value"

def valueOf (contract : Contract) (function : Json) (output : Bytes) : Except Failure Value :=
  match Abi.outputsOf function output with
  | .ok value => .ok value
  | .error e =>
    if e.isUndecodable then .error (failed contract (undecodable e)) else .error e

def callEntry (chain : Chain W) (gas : GasLimits) (sender : Address) (contract : Contract)
    (entry : String) (address : Address) : Act W Value := do
  match ← Act.ofExcept (Abi.findFunction? contract.abi (some entry)) with
  | none => throw (failed contract ("no function `" ++ entry ++ "`"))
  | some function =>
    let data ← Act.ofExcept (Abi.selectorOf function)
    let output ← chain.call sender address data gas.call
    Act.ofExcept (valueOf contract function output)

/-- What becomes of a contract that has an address. -/
def finish (chain : Chain W) (gas : GasLimits) (sender : Address) (contract : Contract)
    (address : Address) : Act W Deployed :=
  match contract.entry with
  | none => return { contract, address := some address }
  | some entry => do
    match ← Act.attempt (chain.callEntry gas sender contract entry address) with
    | .ok value => return { contract, address := some address, value }
    | .error e =>
      blame contract (fun error => { contract, address := some address, error := some error }) e

def deployOne (chain : Chain W) (gas : GasLimits) (sender : Address) (contract : Contract) :
    Act W Deployed := do
  let create : Act W Address := do
    chain.create sender (← Act.ofExcept (codeOf contract)) gas.deploy
  match ← Act.attempt create with
  | .ok address => chain.finish gas sender contract address
  | .error e => blame contract (fun error => { contract, error := some error }) e

/-- Contracts without an entry function, then those with one. -/
def ordered (contracts : List Contract) : List Contract :=
  contracts.filter (·.entry.isNone) ++ contracts.filter (·.entry.isSome)

/-- The contracts that have code, one after the other. -/
def deployAll (chain : Chain W) (gas : GasLimits) (sender : Address) :
    List Contract → Act W (List Deployed)
  | [] => return []
  | contract :: rest => do
    if ← Act.ofExcept contract.isDeployable then
      let deployed ← chain.deployOne gas sender contract
      return deployed :: (← deployAll chain gas sender rest)
    else deployAll chain gas sender rest

/-- What became of contracts, under their names. -/
def byName (results : List Deployed) : Keyed Deployed :=
  Keyed.putAll (results.map fun d => (d.contract.name, d)) []

def deploy (chain : Chain W) (gas : GasLimits) (contracts : Keyed Contract) :
    Act W (Keyed Deployed) := do
  match ← chain.accounts with
  | [] => throw (.deployFailed { message := "no accounts available on the blockchain backend" })
  | sender :: _ =>
    return byName (← chain.deployAll gas sender (ordered (contracts.map (·.2))))

end Chain

/-- What became of all contracts so far, and the name of the last one with an entry function. -/
structure Ledger where
  deployed : Keyed Deployed := []
  entry : Option String := none
  deriving Inhabited

namespace Ledger

/-- The name of the last contract with an entry function. -/
def entryAmong (results : Keyed Deployed) : Option String :=
  (results.filter fun d => d.2.contract.entry.isSome).getLast?.map fun d => d.2.contract.name

def record (ledger : Ledger) (results : Keyed Deployed) : Ledger where
  deployed := Keyed.putAll results ledger.deployed
  entry := (entryAmong results).or ledger.entry

def latest? (ledger : Ledger) : Option Deployed :=
  ledger.entry.bind fun name => Keyed.get? name ledger.deployed

end Ledger

end SolidityRepl
