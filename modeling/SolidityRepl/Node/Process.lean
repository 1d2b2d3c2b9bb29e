import SolidityRepl.Node.Chain
import SolidityRepl.Retry
import SolidityRepl.Text.ShellWords

/-!
# Nodes of one's own

A node that does not answer may be started as a process. It is waited for until it answers, and it
is stopped by an interrupt, or killed if it does not end in time.
-/

namespace SolidityRepl

/-- A node that may be started. `process` is the number of its process while it has one. -/
structure OwnNode where
  node : Node
  command : String
  arguments : List Json
  autostart : Json
  tries : Json := .int 20
  process : Option Nat := none
  deriving Inhabited

namespace OwnNode

variable {O T : Type}

/-- A node of one's own and the world that it is in. -/
abbrev At (O T : Type) := OwnNode × World O T

def name : String := "ext-proc"

def byNode {α : Type} (act : Act (Node.At O T) α) : Act (At O T) α :=
  Act.zoom (fun s => (s.1.node, s.2)) (fun t s => ({ s.1 with node := t.1 }, t.2)) act

def inWorld {α : Type} (act : Act (World O T) α) : Act (At O T) α :=
  Act.zoom Prod.snd (fun w s => (s.1, w)) act

/-- The words of the command, with the other arguments behind them. -/
def argumentsOf (own : OwnNode) : Except Failure (List Json) :=
  match Text.shellWords? own.command with
  | none => .error .invalidValue
  | some words => .ok (words.map .str ++ own.arguments)

def setProcess (process : Option Nat) : Act (At O T) Unit :=
  modify fun s => ({ s.1 with process }, s.2)

def launch (host : Host O) : Act (At O T) Unit := do
  let own := (← get).1
  let arguments ← Act.ofExcept do (← own.argumentsOf).mapM Json.asText
  inWorld (World.note (.starting arguments))
  inWorld (World.record (.spawned arguments))
  match ← Act.attempt (inWorld (World.ask (host.spawn arguments))) with
  | .ok process => setProcess (some process)
  | .error e =>
    if e.isSystem then
      throw (.deployFailed { message := "Unable to launch blockchain service `" ++ own.command ++
        "`: " ++ e.message.getD "" ++ ". Verify that it is installed and available in your PATH." })
    else throw e

/-- The node is asked for something, unless its process has ended. -/
def probe (host : Host O) : Act (At O T) Unit := do
  let own := (← get).1
  if own.process.isSome then
    match ← inWorld (World.ask host.poll) with
    | some code =>
      throw (.deployFailed
        { message := "`" ++ own.command ++ "` exited with code " ++ toString code })
    | none => pure ()
  let _ ← byNode (Node.call host "eth_accounts" (.arr []))

def awaitAnswer [Duration T] (host : Host O) : Act (At O T) Unit := do
  let patience : Patience T := .usual (← Act.ofExcept (Patience.triesOf (← get).1.tries))
  let pause (n : Nat) := do inWorld (World.sleep (← Act.ofExcept (patience.pause n)))
  match ← Act.attempt (retryFrom Failure.isUnreachable pause (probe host) patience.tries 0) with
  | .ok _ => return
  | .error e => throw (if e.isUnreachable then Node.notReady name e else e)

/-- A process, unless there is one or the node answers anyway. -/
def start [Duration T] (host : Host O) : Act (At O T) Unit := do
  if (← get).1.process.isSome then return
  if ← byNode (Node.isListening host) then return
  let own := (← get).1
  if own.autostart.isVoid then inWorld (World.note (.autostartIsOff own.node.url))
  else
    launch host
    awaitAnswer host

/-- The seconds that a process has to end. -/
def grace : Nat := 10

def stop (host : Host O) : Act (At O T) Unit := do
  match (← get).1.process with
  | none => return
  | some process =>
    inWorld (World.note (.stopping process))
    inWorld (World.record .interrupted)
    inWorld (World.record (.awaited (some grace)))
    if !(← inWorld (World.ask (host.wait (some grace)))) then
      inWorld (World.record .killed)
      inWorld (World.record (.awaited none))
      let _ ← inWorld (World.ask (host.wait none))
    setProcess none

end OwnNode

end SolidityRepl
