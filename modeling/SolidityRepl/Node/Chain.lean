import SolidityRepl.Node.Basic
import SolidityRepl.Backend.Deployment
import SolidityRepl.Abi.Revert

/-!
# Chains behind a node

A contract is made by a transaction that the node signs, and is there once the transaction has a
receipt. What the node refuses is a failure to deploy; what it answers beyond understanding is not.
-/

namespace SolidityRepl.Node

variable {O T : Type}

def isListening (host : Host O) : Act (At O T) Bool := do
  match ← Act.attempt (call host "eth_accounts" (.arr [])) with
  | .ok _ => return true
  | .error e => if e.isUnreachable then return false else throw e

def notReady (name : String) (e : Failure) : Failure :=
  .deployFailed
    { message := "'" ++ name ++ "' not yet ready. Please try again. (" ++ e.message.getD "" ++ ")" }

def accounts (host : Host O) (name : String) : Act (At O T) (List Address) := do
  match ← Act.attempt (call host "eth_accounts" (.arr [])) with
  | .ok answer => Act.ofExcept do (← answer.parts).mapM Address.ofJson
  | .error e => throw (if e.isUnreachable then notReady name e else e)

/-- The reason in the data of an error, if there are data. -/
def reasonIn (data : Option String) : Except Failure (Option String) :=
  match data with
  | none => .ok none
  | some s => if s.isEmpty then .ok none else bytesOfText s >>= Abi.revertReason

def refused (what : String) (e : Failure) (data : Option String) : Except Failure Failure := do
  return .deployFailed
    { message := what ++ " failed: " ++ e.message.getD "", reason := ← reasonIn data }

/-- The receipt of the transaction that makes a contract. -/
def receiptOf [Duration T] (host : Host O) (transaction : Json) (timeout : T) :
    Act (At O T) Json := do
  let hash ← call host "eth_sendTransaction" (.arr [transaction])
  receipt host hash timeout usualLatency

/-- The address of a contract by the receipt of its transaction. -/
def addressIn (receipt : Json) : Except Failure Address := do
  let status ← receipt.optional "status" (.str "0x1")
  if (← numberOf status) = 0 then
    throw (.deployFailed { message := "deployment reverted", details := [("receipt", receipt)] })
  Address.ofJson (← receipt.required "contractAddress")

def create [Duration T] (host : Host O) (timeout : T) (sender : Address) (code : Bytes)
    (gas : Json) : Act (At O T) Address := do
  let gas ← Act.ofExcept (quantity gas)
  let transaction : Json :=
    .obj [("from", .str sender.shown), ("data", .str (Bytes.prefixedHex code)), ("gas", .str gas)]
  match ← Act.attempt (receiptOf host transaction timeout) with
  | .ok receipt => Act.ofExcept (addressIn receipt)
  | .error e =>
    match e with
    | .refusedCall _ _ data => throw (← Act.ofExcept (refused "deployment" e data))
    | e => throw (if e.isInvalidValue then .deployFailed { message := e.message.getD "" } else e)

def callContract (host : Host O) (sender target : Address) (data : Bytes) (gas : Json) :
    Act (At O T) Bytes := do
  let gas ← Act.ofExcept (quantity gas)
  let transaction : Json :=
    .obj [("from", .str sender.shown), ("to", .str target.shown),
      ("data", .str (Bytes.prefixedHex data)), ("gas", .str gas)]
  match ← Act.attempt (call host "eth_call" (.arr [transaction, .str "latest"])) with
  | .ok answer => Act.ofExcept (bytesOf answer)
  | .error e =>
    match e with
    | .refusedCall _ _ data => throw (← Act.ofExcept (refused "call" e data))
    | e => throw e

def chain [Duration T] (host : Host O) (name : String) (timeout : T) : Chain (At O T) where
  accounts := accounts host name
  create := create host timeout
  call := callContract host

end SolidityRepl.Node
