import SolidityRepl.Compiler.Basic
import SolidityRepl.Version.Range

/-!
# Registries

A registry knows which compilers are installed and which could be, and finds the one for a range:
the version itself if the range names one, or else the newest installed version in the range, or
else the newest that can be installed. What can be installed is listed once at most.
-/

namespace SolidityRepl

/-- The folder that new compilers keep their outputs in, and whether the versions that can be
installed have been listed. -/
structure Registry where
  store : Json
  listed : Bool := false
  deriving Inhabited, Repr

namespace Registry

variable {O T : Type}

/-- A registry and the world that it is in. -/
abbrev At (O T : Type) := Registry × World O T

def inWorld {α : Type} (act : Act (World O T) α) : Act (At O T) α :=
  Act.zoom Prod.snd (fun w s => (s.1, w)) act

def installable (host : Host O) : Act (At O T) (List Version) := do
  let (registry, _) ← get
  if !registry.listed then
    inWorld (World.record .listed)
    modify fun s => ({ s.1 with listed := true }, s.2)
  return host.installable

def offers (versions : List Version) (v : Version) : Bool := versions.any v.same

def resolve (host : Host O) (spec : String) : Act (At O T) (Option Version) := do
  let installed := (← get).2.installed
  if Range.isOverlong spec then throw .overlong
  match Range.pinned? spec with
  | some v =>
    if offers installed v then return some v
    if offers (← installable host) v then return some v
    return none
  | none =>
    match Range.clauses? spec with
    | none =>
      inWorld (World.note (.unclearRange spec))
      return none
    | some clauses =>
      match Version.newest? (Clause.filter clauses installed) with
      | some v => return some v
      | none => return Version.newest? (Clause.filter clauses (← installable host))

/-- The compiler of a version, which is installed if need be. -/
def load (v : Version) : Act (At O T) Compiler := do
  let (registry, world) ← get
  if !offers world.installed v then
    inWorld (World.note (.installing v))
    inWorld (World.record (.installed v))
    modify fun s => (s.1, { s.2 with installed := s.2.installed ++ [v] })
  return { version := v, store := registry.store }

end Registry

end SolidityRepl
