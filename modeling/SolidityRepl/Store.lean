import SolidityRepl.World.Basic
import SolidityRepl.Hash.Sha256

/-!
# Stores

A store keeps values in files of a folder, each under the hash of its key. Values that nobody has
asked for during the store's time to live are thrown away when the store is swept, which happens
before a look-up if a tenth of that time has passed since the last sweep.
-/

namespace SolidityRepl

/-- A store of values. `salt` tells the values of one kind from others in the same folder. -/
structure Store where
  folder : List String
  salt : String
  ttl : Int
  name : String
  deriving DecidableEq, Repr, Inhabited

namespace Store

variable {O T : Type} [Duration T]

def week : Int := 604800

/-- The steps to a folder. A `~` at its start is the folder that everything is in; a name behind it
is that of nobody. -/
def stepsTo (folder : String) : Except Failure (List String) :=
  match Path.steps folder with
  | "~" :: rest => .ok rest
  | first :: rest =>
    if first.toList.head? == some '~' then .error .homeless else .ok (first :: rest)
  | [] => .ok []

def ofFolder (folder salt : String) : Except Failure Store := do
  return { folder := ← stepsTo folder, salt, ttl := week, name := folder ++ ":" ++ salt }

def fileName (store : Store) (key : String) : String :=
  Bytes.hex (Hash.sha256 (Text.encode (store.salt ++ key))) ++ ".pickle"

/-- The folder of all files. -/
def steps (store : Store) : List String := store.folder ++ Path.steps store.salt

def location (store : Store) (key : String) : List String := store.steps ++ [store.fileName key]

def lastSweep (store : Store) (w : World O T) : T :=
  (Keyed.get? store.name w.swept).getD (Duration.ofInt 0)

def isExpired (store : Store) (now readAt : T) : Bool :=
  Duration.isBelow (Duration.ofInt store.ttl) (now - readAt)

/-- The files that have expired are thrown away, or all files. -/
def sweep (store : Store) (all : Bool) : Act (World O T) Unit := do
  if Path.isNowhere store.folder then throw .invalidValue
  modify fun w =>
    let swept := Folder.sweep fun readAt => all || store.isExpired w.now readAt
    let disk := match w.disk.place [] [] store.folder with
      | .ok (spot, _) => w.disk.updateIn swept spot
      | .error _ => w.disk
    { w with disk, swept := Keyed.put store.name w.now w.swept }

def isDue (store : Store) (w : World O T) : Bool :=
  Duration.isAtLeast (w.now - store.lastSweep w) (Duration.ofInt (store.ttl / 10))

def contentOf (store : Store) (key : String) (w : World O T) : Option Content :=
  match w.disk.walk [] (store.location key) with
  | .ok (some (.file content _)) => some content
  | _ => none

def keep (store : Store) (key : String) (content : Content) : Act (World O T) Unit :=
  Act.ofRun fun w =>
    if Path.isEndless (store.location key) then (.error .unreadablePath, w)
    else match w.disk.putFile content w.now (store.fileName key) store.steps with
      | .ok disk => (.ok (), { w with disk })
      | .error _ => (.error .unreadablePath, w)

/-- The folder of all files is there from now on. -/
def prepare (store : Store) : Act (World O T) Unit := do
  if Path.isNowhere store.steps then throw .invalidValue
  if Path.isEndless store.steps then throw .unreadablePath
  Act.ofRun fun w =>
    let (disk, made) := w.disk.makeAll store.steps.reverse
    (made, { w with disk })

/-- The value of a key. A value that is not there is made and kept, unless making it fails. -/
def lookUp (store : Store) (key : String) (make : Act (World O T) Json) :
    Act (World O T) Json := do
  if store.isDue (← get) then store.sweep false
  store.prepare
  match store.contentOf key (← get) with
  | some (.value value) =>
    store.keep key (.value value)
    return value
  | some (.bytes _) => throw .badEntry
  | none =>
    let value ← make
    store.keep key (.value value)
    return value

end Store

end SolidityRepl
