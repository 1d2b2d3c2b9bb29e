import SolidityRepl.Import.Directive
import SolidityRepl.Json.Access
import SolidityRepl.Url
import SolidityRepl.Failure

/-!
# Sources with their imports

A program is compiled from the given source units and from every unit they import, directly or
through others, that can be found. An import that cannot be found is left for the compiler to
complain about.

An import is either the name of a unit by itself, or a path from the unit that imports it. A path
from a unit that was fetched from the web is read as links on a page are; all others are read as
paths of files.
-/

namespace SolidityRepl.Import

def isRemote (name : String) : Bool := "https://".toList.isPrefixOf name.toList

def isRelative (path : List Char) : Bool :=
  "./".toList.isPrefixOf path || "../".toList.isPrefixOf path

/-- The name of a unit that is imported by a path from another unit. -/
def unitName (importer path : String) : Except Failure String :=
  if !isRelative path.toList then .ok path
  else if isRemote importer then
    match Url.parse? importer.toList with
    | some page => .ok (String.ofList (page.resolve path.toList).shown)
    | none => .error .invalidValue
  else
    let directory := Path.directory importer.toList
    .ok (String.ofList (Path.normalizedChars (Path.under directory path.toList)))

/-- What is said about a unit that is looked for. -/
inductive Answer where
  | found (text : String)
  | refused (why : String)
  deriving DecidableEq, Repr, Inhabited

variable {W : Type}

/-- Units found so far, and those among them that have not been looked through, last one first. -/
structure Gathering where
  sources : Keyed Json
  pending : List (String × Json)
  deriving Inhabited

/-- The text of a source unit. A unit that is given without a text imports nothing. -/
def textOf (source : Json) : Except Failure String := do
  (← source.optional "content" (.str "")).asText

def sourceOf (text : String) : Json := .obj [("content", .str text)]

namespace Gathering

def add (g : Gathering) (name text : String) : Gathering :=
  { sources := g.sources ++ [(name, sourceOf text)], pending := (name, sourceOf text) :: g.pending }

/-- A unit is looked for unless it is there already. -/
def want (lookUp : String → Act W Answer) (g : Gathering) (name : String) : Act W Gathering :=
  if name ∈ Keyed.keys g.sources then pure g
  else do
    match ← lookUp name with
    | .found text => return g.add name text
    | .refused _ => return g

def wantAll (lookUp : String → Act W Answer) (importer : String) :
    Gathering → List String → Act W Gathering
  | g, [] => pure g
  | g, path :: more => do
    let name ← Act.ofExcept (unitName importer path)
    wantAll lookUp importer (← want lookUp g name) more

def visit (lookUp : String → Act W Answer) (g : Gathering) (unit : String × Json) :
    Act W Gathering := do
  let text ← Act.ofExcept (textOf unit.2)
  wantAll lookUp unit.1 g (pathsOf text)

/-- The given units, none of which has been looked through. -/
def start (sources : Keyed Json) : Gathering := ⟨sources, sources.reverse⟩

/-- What is there after the next unit, and what was there before it. -/
def Follows (lookUp : String → Act W Answer) (next now : Gathering × W) : Prop :=
  ∃ unit pending, now.1.pending = unit :: pending ∧
    (visit lookUp { now.1 with pending } unit).run now.2 = (.ok next.1, next.2)

/-- The next unit, and after it the rest of the run. -/
def step (lookUp : String → Act W Answer) (now : Gathering × W)
    (run : (next : Gathering × W) → Follows lookUp next now → Except Failure Gathering × W) :
    Except Failure Gathering × W :=
  match waiting : now.1.pending with
  | [] => (.ok now.1, now.2)
  | unit :: pending =>
    match visited : (visit lookUp { now.1 with pending } unit).run now.2 with
    | (.ok g, w) => run (g, w) ⟨unit, pending, waiting, visited⟩
    | (.error e, w) => (.error e, w)

/-- Unit after unit, until none is left. No bound is set on their number: whether there is always
one more depends on who is asked. -/
def run (lookUp : String → Act W Answer) (g : Gathering) (w : W) : Except Failure Gathering × W :=
  @WellFounded.partialExtrinsicFix (Gathering × W) (fun _ => Except Failure Gathering × W)
    (fun now => ⟨(.ok now.1, now.2)⟩) (Follows lookUp) (step lookUp) (g, w)

/-- As long as the steps do not go on for ever, a run is its first step and another run. -/
theorem run_eq {lookUp : String → Act W Answer} {g : Gathering} {w : W}
    (ends : Acc (Follows lookUp) (g, w)) :
    run lookUp g w = step lookUp (g, w) fun next _ => run lookUp next.1 next.2 :=
  @WellFounded.partialExtrinsicFix_eq_apply_of_acc _ _ (fun now => ⟨(.ok now.1, now.2)⟩) _ _ _ ends

section

variable {lookUp : String → Act W Answer} {g g' : Gathering} {w w' : W}
  {unit : String × Json} {pending : List (String × Json)}

theorem run_done (ends : Acc (Follows lookUp) (g, w)) (done : g.pending = []) :
    run lookUp g w = (.ok g, w) := by
  rw [run_eq ends, step]
  split
  · rfl
  · rename_i waiting
    rw [done] at waiting
    cases waiting

theorem run_visited (ends : Acc (Follows lookUp) (g, w)) (waiting : g.pending = unit :: pending)
    (visited : (visit lookUp { g with pending } unit).run w = (.ok g', w')) :
    run lookUp g w = run lookUp g' w' := by
  rw [run_eq ends, step]
  split
  · rename_i done
    rw [done] at waiting
    cases waiting
  · rename_i waiting'
    obtain ⟨rfl, rfl⟩ := List.cons.inj (waiting'.symm.trans waiting)
    split
    · rename_i visited'
      obtain ⟨same, rfl⟩ := Prod.mk.inj (visited'.symm.trans visited)
      rw [Except.ok.inj same]
    · rename_i failed
      rw [failed] at visited
      cases visited

theorem run_failed (ends : Acc (Follows lookUp) (g, w)) (waiting : g.pending = unit :: pending)
    {e : Failure} (failed : (visit lookUp { g with pending } unit).run w = (.error e, w')) :
    run lookUp g w = (.error e, w') := by
  rw [run_eq ends, step]
  split
  · rename_i done
    rw [done] at waiting
    cases waiting
  · rename_i waiting'
    obtain ⟨rfl, rfl⟩ := List.cons.inj (waiting'.symm.trans waiting)
    split
    · rename_i visited
      rw [failed] at visited
      cases visited
    · rename_i failed'
      obtain ⟨same, rfl⟩ := Prod.mk.inj (failed'.symm.trans failed)
      rw [Except.error.inj same]

end

end Gathering

/-- The given units and all their imports; the given units alone if nobody can be asked. -/
def gather (lookUp : Option (String → Act W Answer)) (sources : Keyed Json) :
    Act W (Keyed Json) :=
  match lookUp with
  | none => pure sources
  | some lookUp => do
    let g ← Act.ofRun (Gathering.run lookUp (.start sources))
    return g.sources

end SolidityRepl.Import
