import SolidityRepl.Compiler.Registry

/-!
# Compilers at hand

Compilers that were loaded stay at hand for the range they were loaded for, and a range that has
been resolved is not resolved again. Ranges that differ only in a caret and white space are the
same.
-/

namespace SolidityRepl

/-- How versions are found and compilers loaded. -/
structure Builds (W : Type) where
  resolve : String → Act W (Option Version)
  load : Version → Act W Compiler

/-- Loaded compilers and resolved versions by range. -/
structure Shelf where
  loaded : Keyed Compiler := []
  resolved : Keyed Version := []
  deriving Inhabited, Repr

namespace Shelf

variable {W : Type}

/-- Nothing loaded. A version that is known to be there is taken as resolved. -/
def ofInstalled (version : Json) : Except Failure Shelf :=
  match version with
  | .null => .ok {}
  | .str spec =>
    let key := Range.normalized spec
    (Version.read key).map fun v => { resolved := [(key, v)] }
  | _ => .error .unsupported

def holds (shelf : Shelf) (spec : String) : Bool :=
  (Keyed.get? (Range.normalized spec) shelf.loaded).isSome

def byBuilds {α : Type} (act : Act W α) : Act (Shelf × W) α :=
  Act.zoom Prod.snd (fun w s => (s.1, w)) act

def versionFor (builds : Builds W) (spec key : String) : Act (Shelf × W) Version := do
  match Keyed.get? key (← get).1.resolved with
  | some v => return v
  | none =>
    match ← byBuilds (builds.resolve key) with
    | some v =>
      modify fun s => ({ s.1 with resolved := Keyed.put key v s.1.resolved }, s.2)
      return v
    | none => throw (.unresolvedVersion spec)

def resolve (builds : Builds W) (spec : String) : Act (Shelf × W) Compiler := do
  let key := Range.normalized spec
  match Keyed.get? key (← get).1.loaded with
  | some compiler => return compiler
  | none =>
    let compiler ← byBuilds (builds.load (← versionFor builds spec key))
    modify fun s => ({ s.1 with loaded := Keyed.put key compiler s.1.loaded }, s.2)
    return compiler

end Shelf

def Registry.builds {O T : Type} (host : Host O) : Builds (Registry.At O T) where
  resolve := Registry.resolve host
  load := Registry.load

end SolidityRepl
