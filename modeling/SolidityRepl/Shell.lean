import SolidityRepl.Run
import SolidityRepl.Compiler.Shelf
import SolidityRepl.Backend.Basic

/-!
# The shell

A shell holds the settings, a session, and what is made from the settings: compilers, the places
where imports are looked for, and a backend. A setting that is changed takes effect at once, except
that a new backend has to be asked for.
-/

namespace SolidityRepl

/-- What is made from the settings, and the world it is in. `listens` tells whether somebody takes
the remarks of the compiler. -/
structure Bench (O T : Type) where
  registry : Registry
  shelf : Shelf
  roots : Import.Roots
  backend : Backend O T
  listens : Bool := false
  world : World O T

namespace Bench

variable {O T : Type} [Duration T]

def byShelf {α : Type} (act : Act (Shelf × Registry.At O T) α) : Act (Bench O T) α :=
  Act.zoom (fun b => (b.shelf, b.registry, b.world))
    (fun s b => { b with shelf := s.1, registry := s.2.1, world := s.2.2 }) act

def byBackend {α : Type} (act : Act (Backend.At O T) α) : Act (Bench O T) α :=
  Act.zoom (fun b => (b.backend, b.world)) (fun s b => { b with backend := s.1, world := s.2 }) act

def inWorld {α : Type} (act : Act (World O T) α) : Act (Bench O T) α :=
  Act.zoom Bench.world (fun w b => { b with world := w }) act

/-- Statements that a plugged backend has put in. -/
def interjected (b : Bench O T) : List Statement × Bench O T :=
  match b.backend.venue with
  | .plugged plugin =>
    let (statements, outside) := plugin.interjected b.world.outside
    (statements, { b with world := { b.world with outside } })
  | _ => ([], b)

/-- A warning is passed on to whoever takes remarks, or else shown to the user. -/
def warn (remark : Diagnostic) : Act (Bench O T) Unit := do
  if (← get).listens then inWorld (World.record (.reported remark))
  else match remark.shown? with
    | some text => inWorld (World.record (.warned text))
    | none => throw .wrongType

def tools (host : Host O) : Tools (Bench O T) where
  compilerFor spec := byShelf (Shelf.resolve (Registry.builds host) spec)
  compile compiler sources machine := do
    let roots := (← get).roots
    inWorld (compiler.compile host (some (roots.lookUp host)) sources machine)
  deploy contracts := byBackend (Backend.deploy host contracts)
  warn := warn
  note notice := inWorld (World.note notice)
  interjected := interjected

end Bench

structure Shell (O T : Type) where
  settings : Settings
  desk : Desk (Bench O T)

namespace Shell

variable {O T : Type} [Duration T]

def shelfOf (s : Settings) : Except Failure Shelf := Shelf.ofInstalled (s.read .installedVersion)

def atDesk {α : Type} (act : Act (Desk (Bench O T)) α) : Act (Shell O T) α :=
  Act.zoom Shell.desk (fun d s => { s with desk := d }) act

def atBench {α : Type} (act : Act (Bench O T) α) : Act (Shell O T) α := atDesk (Desk.inWorld act)

def byBackend {α : Type} (act : Act (Backend.At O T) α) : Act (Shell O T) α :=
  atBench (Bench.byBackend act)

/-- The backend that is given, or else the one that is set. -/
def backendOr (s : Settings) (given : Option (Backend O T)) : Except Failure (Backend O T) :=
  match given with
  | some b => .ok b
  | none => Backend.ofSettings s

def benchOf (s : Settings) (given : Option (Backend O T)) (listens : Bool) (world : World O T) :
    Except Failure (Bench O T) := do
  let shelf ← shelfOf s
  let backend ← backendOr s given
  let roots ← Import.Roots.ofSettings s
  return { registry := { store := s.read .cacheDir }, shelf, roots, backend, listens, world }

/-- A shell with a backend that is ready, or why there is none, and the world after that. -/
def open? (host : Host O) (s : Settings) (given : Option (Backend O T)) (listens : Bool)
    (world : World O T) : Except Failure (Shell O T) × World O T :=
  match benchOf s given listens world with
  | .error e => (.error e, world)
  | .ok bench =>
    let (r, bench) := (Bench.byBackend (Backend.start host)).run bench
    (r.map fun _ => { settings := s, desk := { world := bench } }, bench.world)

def runStatement (host : Host O) (statement : Statement) : Act (Shell O T) Value := do
  atDesk (Desk.run (Bench.tools host) (← get).settings statement)

def run (host : Host O) (text : String) : Act (Shell O T) Value :=
  runStatement host (Statement.ofText text none)

def template (shell : Shell O T) : String :=
  (Frame.ofSettings shell.settings).render shell.desk.session

def setSession (session : Session) : Act (Shell O T) Unit :=
  modify fun s => { s with desk := { s.desk with session } }

def undo : Act (Shell O T) (Option Statement) := do
  let session := (← get).desk.session
  setSession session.pop
  return session.last?

def reset : Act (Shell O T) Unit := setSession []

def load (record : String) : Act (Shell O T) Unit := do
  setSession (← Act.ofExcept (Session.ofRecord record))

def setGas (change : GasLimits → GasLimits) : Act (Backend.At O T) Unit :=
  modify fun b => ({ b.1 with gas := change b.1.gas }, b.2)

def apply (key : Setting) : Act (Shell O T) Unit := do
  let s := (← get).settings
  match key with
  | .installedVersion | .cacheDir =>
    atBench (modify fun b => { b with registry := { b.registry with store := s.read .cacheDir } })
    let shelf ← Act.ofExcept (shelfOf s)
    atBench (modify fun b => { b with shelf })
  | .basePath | .includePaths | .allowHttp =>
    let roots ← Act.ofExcept (Import.Roots.ofSettings s)
    atBench (modify fun b => { b with roots })
  | .deployGas => byBackend (setGas fun g => { g with deploy := s.read .deployGas })
  | .callGas => byBackend (setGas fun g => { g with call := s.read .callGas })
  | .provider | .providerUrl | .autostart | .nodeArgs =>
    atBench (Bench.inWorld (World.note (.takesEffectLater key.name)))
  | _ => return

/-- A setting is given a value and takes effect. -/
def put (key : Setting) (value : Json) : Act (Shell O T) Unit := do
  modify fun s => { s with settings := s.settings.put key value }
  apply key

def set (name : String) (value : Json) : Act (Shell O T) Unit := do
  put (← Act.ofExcept (Settings.key name)) value

/-- A setting by name goes back to its default and takes effect. -/
def unset (name : String) : Act (Shell O T) Unit := do
  let key ← Act.ofExcept (Settings.key name)
  put key key.default

/-- The backend is put away, and another one is made ready: the one that is given, or else the one
that is set. -/
def renew (host : Host O) (given : Option (Backend O T)) : Act (Shell O T) Unit := do
  byBackend (Backend.stop host)
  let backend ← Act.ofExcept (backendOr (← get).settings given)
  atBench (modify fun b => { b with backend })
  byBackend (Backend.start host)

def close (host : Host O) : Act (Shell O T) Unit := byBackend (Backend.stop host)

def answer (host : Host O) (method : String) (params : Json) : Act (Shell O T) Json :=
  byBackend (Backend.answer host method params)

end Shell

end SolidityRepl
