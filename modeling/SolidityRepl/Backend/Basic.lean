import SolidityRepl.Evm.Simulator
import SolidityRepl.Node.Process
import SolidityRepl.Session
import SolidityRepl.Settings

/-!
# Backends

Contracts run on a chain in memory, on a node somewhere, on a node of one's own, or on whatever a
host plugs in. A backend remembers what became of the contracts that were deployed on it.
-/

namespace SolidityRepl

/-- A chain that a host plugs in. `interjected` are statements that it has put in meanwhile. -/
structure Plugin (O : Type) where
  chain : Chain O
  answer : String → Json → Act O Json
  start : Act O Unit
  stop : Act O Unit
  interjected : O → List Statement × O := fun o => ([], o)

inductive Venue (O T : Type) where
  | simulated (simulator : Simulator)
  | remote (node : Node) (timeout : T)
  | own (node : OwnNode) (timeout : T)
  | plugged (plugin : Plugin O)

/-- Where contracts run, and what became of those that were deployed. -/
structure Backend (O T : Type) where
  venue : Venue O T
  gas : GasLimits
  ledger : Ledger := {}

namespace Backend

variable {O T : Type} [Duration T]

/-- A backend and the world that it is in. -/
abbrev At (O T : Type) := Backend O T × World O T

def nodeName : String := "url-provider"

def usualTimeout : T := Duration.ofInt 60

def gasOf (s : Settings) : GasLimits := { deploy := s.read .deployGas, call := s.read .callGas }

/-- A provider that is an address on the web. -/
def isUrl (provider : String) : Bool :=
  "http://".toList.isPrefixOf provider.toList || "https://".toList.isPrefixOf provider.toList

def argumentsOf (v : Json) : Except Failure (List Json) := if v.isVoid then .ok [] else v.parts

/-- The venue that is set: the chain in memory, a node on the web, or the command of a node. -/
def venueOf (s : Settings) : Except Failure (Venue O T) := do
  let provider ← s.text .provider
  if provider = "internal" then return .simulated {}
  if isUrl provider then return .remote { url := provider } usualTimeout
  let arguments ← argumentsOf (s.read .nodeArgs)
  let url ← s.text .providerUrl
  return .own
    { node := { url }, command := provider, arguments, autostart := s.read .autostart } usualTimeout

def ofSettings (s : Settings) : Except Failure (Backend O T) := do
  return { venue := ← venueOf s, gas := gasOf s }

/-- Something done at a venue that has a state of its own beside the world. -/
def atVenue {τ α : Type} (state : τ) (put : τ → Venue O T) (act : Act (τ × World O T) α) :
    Act (At O T) α :=
  Act.ofRun fun s =>
    let (r, t) := act.run (state, s.2)
    (r, ({ s.1 with venue := put t.1 }, t.2))

/-- Something done at a venue that has nothing to do with the world. -/
def alone {τ W α : Type} (act : Act τ α) : Act (τ × W) α :=
  Act.zoom Prod.fst (fun t s => (t, s.2)) act

def byHost {α : Type} (act : Act O α) : Act (At O T) α :=
  Act.zoom Prod.snd (fun w s => (s.1, w)) (World.ask act)

def start (host : Host O) : Act (At O T) Unit := do
  match (← get).1.venue with
  | .simulated s => modify fun b => ({ b.1 with venue := .simulated s.start }, b.2)
  | .remote _ _ => return
  | .own node timeout => atVenue node (.own · timeout) (OwnNode.start host)
  | .plugged plugin => byHost plugin.start

/-- The backend is put away. A chain in memory is forgotten, with all that was deployed on it. -/
def stop (host : Host O) : Act (At O T) Unit := do
  match (← get).1.venue with
  | .simulated s =>
    modify fun b => ({ b.1 with venue := .simulated s.stop,
                                ledger := { b.1.ledger with deployed := [] } }, b.2)
  | .remote _ _ => return
  | .own node timeout => atVenue node (.own · timeout) (OwnNode.stop host)
  | .plugged plugin => byHost plugin.stop

def restart (host : Host O) : Act (At O T) Unit := do
  stop host
  start host

def deployAt (host : Host O) (gas : GasLimits) (contracts : Keyed Contract) :
    Venue O T → Act (At O T) (Keyed Deployed)
  | .simulated s => atVenue s .simulated (alone (Simulator.primitives.deploy gas contracts))
  | .remote node timeout =>
    atVenue node (.remote · timeout) ((Node.chain host nodeName timeout).deploy gas contracts)
  | .own node timeout =>
    atVenue node (.own · timeout)
      (OwnNode.byNode ((Node.chain host OwnNode.name timeout).deploy gas contracts))
  | .plugged plugin => byHost (plugin.chain.deploy gas contracts)

/-- Contracts deployed, and what became of them remembered. -/
def deploy (host : Host O) (contracts : Keyed Contract) : Act (At O T) (Keyed Deployed) := do
  let b := (← get).1
  let results ← deployAt host b.gas contracts b.venue
  modify fun s => ({ s.1 with ledger := s.1.ledger.record results }, s.2)
  return results

def accounts (host : Host O) : Act (At O T) (List Address) := do
  match (← get).1.venue with
  | .simulated s => atVenue s .simulated (alone Simulator.primitives.accounts)
  | .remote node timeout => atVenue node (.remote · timeout) (Node.accounts host nodeName)
  | .own node timeout =>
    atVenue node (.own · timeout) (OwnNode.byNode (Node.accounts host OwnNode.name))
  | .plugged plugin => byHost plugin.chain.accounts

/-- Parameters as they are sent: nothing is an empty list. -/
def sent (params : Json) : Json := if params.isVoid then .arr [] else params

/-- The answer to a call as a node gets it. -/
def answer (host : Host O) (method : String) (params : Json) : Act (At O T) Json := do
  match (← get).1.venue with
  | .simulated s => atVenue s .simulated (alone (Simulator.answer method (sent params)))
  | .remote node timeout => atVenue node (.remote · timeout) (Node.call host method (sent params))
  | .own node timeout =>
    atVenue node (.own · timeout) (OwnNode.byNode (Node.call host method (sent params)))
  | .plugged plugin => byHost (plugin.answer method params)

def isListening (host : Host O) : Act (At O T) Bool := do
  match (← get).1.venue with
  | .remote node timeout => atVenue node (.remote · timeout) (Node.isListening host)
  | .own node timeout => atVenue node (.own · timeout) (OwnNode.byNode (Node.isListening host))
  | _ => throw .unsupported

end Backend

end SolidityRepl
