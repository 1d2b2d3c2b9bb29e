import SolidityRepl.Import.Roots
import SolidityRepl.Json.Parser
import SolidityRepl.Url

/-!
# Nodes

A node of a chain answers calls over the web. Every call has a number, counted from one; the answer
is a result or an error.
-/

namespace SolidityRepl

/-- A node, and how many calls were made to it. -/
structure Node where
  url : String
  calls : Nat := 0
  deriving Inhabited, Repr

namespace Node

variable {O T : Type}

/-- A node and the world that it is in. -/
abbrev At (O T : Type) := Node × World O T

/-- The node's address without what may be secret in it. -/
def name (node : Node) : Except Failure String :=
  match Url.parse? node.url.toList with
  | some url => .ok (String.ofList url.origin)
  | none => .error .invalidValue

def bodyOf (method : String) (params : Json) (number : Nat) : Json :=
  .obj [("jsonrpc", .str "2.0"), ("method", .str method), ("params", params), ("id", .int number)]

/-- The data of an error. Some nodes put it into an object. -/
def dataOf (data : Json) : Option String :=
  let data := match data with
    | .obj fields =>
      let inner (key : String) := (Keyed.get? key fields).getD .null
      if (inner "result").isVoid then inner "data" else inner "result"
    | data => data
  data.text?

def refusal (error : Json) : Failure :=
  let read : Except Failure Failure := do
    let data := dataOf (← error.optional "data" .null)
    let message ← error.required "message"
    return .refusedCall (← error.required "code") message data
  match read with
  | .ok f => f
  | .error f => f

def resultOf (text : String) : Except Failure Json :=
  match Json.read text with
  | .error fault => .error (.badJson fault)
  | .ok (.obj fields) =>
    match Keyed.get? "error" fields with
    | some error => .error (refusal error)
    | none => (Json.obj fields).required "result"
  | .ok _ => .error .wrongType

def inWorld {α : Type} (act : Act (World O T) α) : Act (At O T) α :=
  Act.zoom Prod.snd (fun w s => (s.1, w)) act

def call (host : Host O) (method : String) (params : Json) : Act (At O T) Json := do
  modify fun s => ({ s.1 with calls := s.1.calls + 1 }, s.2)
  let node := (← get).1
  let text ← inWorld (World.send host node.url (.post node.url (bodyOf method params node.calls)))
  Act.ofExcept (resultOf text)

/-- More polls than anybody waits for. -/
def endless : Nat := Nat.pow 2 64

/-- More polls than there is time for. Without a pause between them there is time for any number. -/
def enoughPolls [Duration T] (timeout latency : T) : Nat :=
  if Duration.isBelow (Duration.ofInt 0) latency then Duration.fits timeout latency + 2 else endless

/-- The receipt of a transaction, polled until the deadline, `polls` times at most. -/
def poll [Duration T] (host : Host O) (transaction : Json) (deadline latency : T) :
    Nat → Act (At O T) Json
  | 0 => throw (.unanswered transaction)
  | polls + 1 => do
    match ← call host "eth_getTransactionReceipt" (.arr [transaction]) with
    | .null =>
      if Duration.isBelow deadline ((← get).2.now + latency) then throw (.unanswered transaction)
      inWorld (World.sleep latency)
      poll host transaction deadline latency polls
    | receipt => return receipt

def usualLatency [Duration T] : T := Duration.ofDecimal 25 (-2)

/-- The receipt of a transaction, asked for until it is there or the time is over. -/
def receipt [Duration T] (host : Host O) (transaction : Json) (timeout latency : T) :
    Act (At O T) Json := do
  poll host transaction ((← get).2.now + timeout) latency (enoughPolls timeout latency)

end Node

end SolidityRepl
