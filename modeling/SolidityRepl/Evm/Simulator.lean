import SolidityRepl.Evm.Machine
import SolidityRepl.Backend.Deployment
import SolidityRepl.Abi.Revert

/-!
# The simulated chain

A chain in memory, with ten accounts that are the same every time it is started. A new contract's
address follows from its creator and the number of contracts the creator has made; that number
counts failed ones too. Calls leave no trace. Code is run by an engine, which is another one only
where something is said of all of them.
-/

namespace SolidityRepl

namespace Evm

structure Account where
  nonce : Nat := 0
  code : Bytes := []
  storage : Storage := []

/-- All accounts that are not empty. -/
abbrev Accounts := List (Address × Account)

def Accounts.at (accounts : Accounts) (a : Address) : Account := (accounts.lookup a).getD {}

def Accounts.set (accounts : Accounts) (a : Address) (account : Account) : Accounts :=
  (a, account) :: accounts.filter fun e => e.1 != a

def blockGas : Int := 100000000

/-- The gas that something may take: a whole number, at most what a block has. -/
def gasOf (limit : Json) : Except Failure Nat :=
  match limit with
  | .int n => if n < 0 then .error .noWord else .ok (min n blockGas).toNat
  | .real x => if Float.ofInt blockGas < x then .ok blockGas.toNat else .error .noWord
  | .bool _ => .error .noWord
  | _ => .error .wrongType

def hashedNumber (n : Nat) : Bytes :=
  if n = 0 then [0x80]
  else if n < 128 then [UInt8.ofNat n]
  else UInt8.ofNat (0x80 + (Bytes.shortest n).length) :: Bytes.shortest n

/-- The address of the contract that an account makes after `nonce` others. -/
def contractAddress (creator : Address) (nonce : Nat) : Address :=
  let content := 0x94 :: creator.bytes ++ hashedNumber nonce
  let hash := Hash.keccak256 (UInt8.ofNat (0xc0 + content.length) :: content)
  Address.ofNat (Bytes.toNat (hash.drop 12))

/-- Why code failed: the reason it says itself, or else the bytes it left, or its trap. -/
def reasonOf (outcome : Outcome) : Except Failure (Option String) :=
  match outcome with
  | .returned _ => .ok none
  | .trapped trap => .ok (some trap.message)
  | .reverted data => (Abi.revertReason data).map fun reason =>
    match reason with
    | some s => some (if s.isEmpty then Text.quotedBytes data else s)
    | none => some (Text.quotedBytes data)

/-- The gas that a new contract takes before its code is run. -/
def codeCost (code : Bytes) : Nat := 2 * Machine.wordsOf code.length

/-- The longest code that a new contract may be made by. -/
def longestMaker : Nat := 49152

/-- The gas that the code of a contract takes when it is kept. -/
def keepingCost (code : Bytes) : Nat := 200 * code.length

def longestCode : Nat := 24576

/-- Why code that was returned for a new contract is not kept. -/
def refusal? (code : Bytes) (gas : Nat) : Option Trap :=
  if code.length > longestCode then some (.longCode code.length)
  else if code.head? == some 0xef then some .reservedCode
  else if gas < keepingCost code then
    some (.outOfGas (keepingCost code) gas "Write contract code for CREATE")
  else none

/-- The code of a new contract is run, and what it returns becomes the contract's code. -/
def construct (accounts : Accounts) (msg : Message) (target : Address) (gas : Nat) :
    Outcome × Accounts :=
  if gas < codeCost msg.code then
    (.trapped (.outOfGas (codeCost msg.code) gas "EIP-3860 initcode cost"), accounts)
  else
    match Machine.run msg [] (gas - codeCost msg.code) with
    | (.returned code, last) =>
      match refusal? code last.gas with
      | some trap => (.trapped trap, accounts)
      | none =>
        (.returned code, accounts.set target { nonce := 1, code, storage := last.storage })
    | (outcome, _) => (outcome, accounts)

/-- What runs the code of a message on the accounts of a chain, to make a contract at an address or
to call the one that is there, with some gas. It may fail beyond what code can come to. -/
structure Engine where
  construct : Message → Address → Nat → Act Accounts Outcome
  execute : Message → Address → Nat → Act Accounts Outcome

/-- The code of a contract is run, and what it wrote is kept unless it failed. -/
def execute (accounts : Accounts) (msg : Message) (target : Address) (gas : Nat) :
    Outcome × Accounts :=
  let account := accounts.at target
  match Machine.run msg account.storage gas with
  | (.returned data, last) =>
    (.returned data, accounts.set target { account with storage := last.storage })
  | (outcome, _) => (outcome, accounts)

def machine : Engine where
  construct msg target gas := do
    if longestMaker < msg.code.length then throw .longMaker
    let (outcome, after) := construct (← get) msg target gas
    set after
    return outcome
  execute msg target gas := do
    let (outcome, after) := execute (← get) msg target gas
    set after
    return outcome

end Evm

open Evm

/-- A chain in memory, if it is started, and what runs its code. -/
structure Simulator where
  chain : Option Accounts := none
  engine : Engine := machine

namespace Simulator

def name : String := "py-evm built-in"

def owners : List Address :=
  [0x792E0C3c2Ff020c96b48C994ED8024Ae3e5cCD6a, 0xe541D6017DFC5C19dBC12d117510e647D12C725C,
   0xD99d0430ac2789f118F0B2321eD1858102f3aA69, 0x3aCCc56F0d2C548bB007C62248626D0f02dD003F,
   0xA0b570D946B20Af0Cf9A4c48dEe5d503eb6c188b, 0xFa1182e72bDF3913f0cfCD39ed79384D5472cfe7,
   0xaA20c19487bf42780f5f81DA7A77D2E3f32c6Dd9, 0x762D3270bD65A335e60cD64a3c55Db3871d3d0AC,
   0x0b78F92859900C8Cb6cE2Ea75F3Da66c6F268c14, 0x02a4Bf6254f262C362a189C42b2f05cB2bf0E7Bd].map
    Address.ofNat

def startingBalance : Nat := 1000 * Nat.pow 10 18

/-- A chain with nothing on it, unless there is one. -/
def start (s : Simulator) : Simulator := { s with chain := some (s.chain.getD []) }

def stop (s : Simulator) : Simulator := { s with chain := none }

def running : Act Simulator Accounts := do
  match (← get).chain with
  | some accounts => return accounts
  | none =>
    throw (.deployFailed { message := "'" ++ name ++ "' blockchain is not started" })

/-- Something that must not have failed. -/
def unlessFailed (what : String) (outcome : Outcome) : Act Simulator Bytes := do
  match outcome with
  | .returned data => return data
  | outcome =>
    let reason ← Act.ofExcept (reasonOf outcome)
    throw (.deployFailed { message := what ++ " reverted", reason })

/-- The address of the next contract of an account, which it has made from now on, whatever comes
of it. -/
def reserve (sender : Address) : Act Simulator Address := do
  let accounts ← running
  let creator := accounts.at sender
  let accounts := accounts.set sender { creator with nonce := creator.nonce + 1 }
  modify fun s => { s with chain := some accounts }
  return contractAddress sender creator.nonce

/-- Something done by the engine to the accounts, which are as it leaves them, failed or not. -/
def byEngine (act : Engine → Act Accounts Outcome) : Act Simulator Outcome := do
  let accounts ← running
  Act.zoom (fun _ => accounts) (fun after s => { s with chain := some after })
    (act (← get).engine)

def make (sender : Address) (code : Bytes) (gas : Json) (target : Address) :
    Act Simulator Address := do
  let gas ← Act.ofExcept (gasOf gas)
  let outcome ← byEngine fun engine => engine.construct { sender, code, data := [] } target gas
  let _ ← unlessFailed "deployment" outcome
  return target

def create (sender : Address) (code : Bytes) (gas : Json) : Act Simulator Address := do
  make sender code gas (← reserve sender)

/-- Something whose changes to the chain are taken back, failed or not. -/
def undone {α : Type} (act : Act Simulator α) : Act Simulator α := do
  let before := (← get).chain
  let r ← Act.attempt act
  modify fun s => { s with chain := before }
  Act.ofExcept r

def call (sender target : Address) (data : Bytes) (gas : Json) : Act Simulator Bytes := do
  let accounts ← running
  let gas ← Act.ofExcept (gasOf gas)
  let code := (accounts.at target).code
  let outcome ← undone (byEngine fun engine => engine.execute { sender, code, data } target gas)
  unlessFailed "call" outcome

def primitives : Chain Simulator where
  accounts := do
    let _ ← running
    return owners
  create := create
  call := call

def param (params : Json) (place : Nat) : Except Failure Json :=
  match params with
  | .arr items => match items[place]? with
    | some v => .ok v
    | none => .error .noSuchItem
  | .str s => match s.toList[place]? with
    | some c => .ok (.str (String.singleton c))
    | none => .error .noSuchItem
  | .obj _ => .error (.missingField (toString place))
  | v => if v.isVoid then .error .noSuchItem else .error .wrongType

def slotOf (v : Json) : Except Failure Nat :=
  match v with
  | .int n => if 0 ≤ n && n < modulus then .ok n.toNat else .error .noWord
  | _ => .error .noWord

/-- What is known of an account, as it is sent. -/
def answerAbout (accounts : Accounts) (method : String) (params : Json) : Except Failure Json := do
  let owner := do Address.ofJson (← param params 0)
  match method with
  | "eth_getBalance" =>
    let a ← owner
    return .str (Text.hexShown (if owners.contains a then startingBalance else 0))
  | "eth_getCode" => return .str (Bytes.prefixedHex (accounts.at (← owner)).code)
  | "eth_getTransactionCount" => return .str (Text.hexShown (accounts.at (← owner)).nonce)
  | "eth_getStorageAt" =>
    let slot ← param params 1
    let written ← match slot with
      | .str _ => (Node.numberOf slot).map Json.int
      | v => .ok v
    let a ← owner
    let value := (accounts.at a).storage.read (← slotOf written)
    return .str (Bytes.prefixedHex (Bytes.ofNat 32 value))
  | method =>
    throw (.refusedCall (.int (-32601))
      (.str ("the method " ++ method ++ " does not exist/is not available")) none)

def answer (method : String) (params : Json) : Act Simulator Json := do
  let accounts ← running
  match method with
  | "eth_accounts" => return .arr (owners.map fun a => .str a.shown)
  | "eth_chainId" | "eth_blockNumber" => return .str "0x1"
  | method => Act.ofExcept (answerAbout accounts method params)

end Simulator

end SolidityRepl
