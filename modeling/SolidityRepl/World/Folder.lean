import SolidityRepl.Json.Basic
import SolidityRepl.Failure
import SolidityRepl.Text.Utf8
import SolidityRepl.Path

/-!
# Folders

A folder holds files and folders by name. A file holds bytes, or a value that was put by, and the
time it was last read at.
-/

namespace SolidityRepl

inductive Content where
  | bytes (bytes : Bytes)
  | value (value : Json)
  deriving Inhabited, Repr

inductive Folder (T : Type) where
  | empty
  | file (name : String) (content : Content) (readAt : T) (rest : Folder T)
  | folder (name : String) (inner rest : Folder T)
  deriving Inhabited

inductive Entry (T : Type) where
  | file (content : Content) (readAt : T)
  | folder (inner : Folder T)

def Entry.content? {T : Type} : Entry T → Option Content
  | file content _ => some content
  | folder _ => none

namespace Folder

variable {T : Type}

def find? (name : String) : Folder T → Option (Entry T)
  | empty => none
  | file n content readAt rest => if n = name then some (.file content readAt) else find? name rest
  | folder n inner rest => if n = name then some (.folder inner) else find? name rest

def erase (name : String) : Folder T → Folder T
  | empty => empty
  | file n content readAt rest =>
    if n = name then erase name rest else file n content readAt (erase name rest)
  | folder n inner rest => if n = name then erase name rest else folder n inner (erase name rest)

def put (name : String) (entry : Entry T) (f : Folder T) : Folder T :=
  match entry with
  | .file content readAt => file name content readAt (f.erase name)
  | .folder inner => folder name inner (f.erase name)

/-- A name that no file system keeps. -/
def isTooLong (name : String) : Bool := 255 < name.utf8ByteSize

/-- What a path leads to from a folder, with the folders above it. -/
def walk (above : List (Folder T)) (here : Folder T) :
    List String → Except Failure (Option (Entry T))
  | [] => .ok (some (.folder here))
  | step :: rest =>
    if step == ".." then
      match above with
      | [] => .ok none
      | up :: above => walk above up rest
    else if isTooLong step then .error .unreadablePath
    else match here.find? step with
      | none => .ok none
      | some (.folder inner) => walk (here :: above) inner rest
      | some (.file content readAt) =>
        .ok (if rest.isEmpty then some (.file content readAt) else none)

/-- A folder whose files do not say when they were read. -/
def timeless : Folder T → Folder Unit
  | empty => empty
  | file name content _ rest => file name content () rest.timeless
  | folder name inner rest => folder name inner.timeless rest.timeless

/-- Why a path leads to no folder. -/
inductive Lost where
  | missing
  /-- A file stands in the way. -/
  | blocked
  | unreadable
  deriving DecidableEq, Repr

/-- The folder that a path leads to, with the steps to it from the first one, none of them back.
`taken` are the steps so far, the last one first, and `above` the folders above this one. -/
def place (above : List (Folder T)) (taken : List String) (here : Folder T) :
    List String → Except Lost (List String × Folder T)
  | [] => .ok (taken.reverse, here)
  | step :: rest =>
    if step == ".." then
      match above with
      | [] => place [] taken here rest
      | up :: above => place above taken.tail up rest
    else if isTooLong step then .error .unreadable
    else match here.find? step with
      | none => .error .missing
      | some (.folder inner) => place (here :: above) (step :: taken) inner rest
      | some (.file _ _) => .error .blocked

/-- A change of the folder at a path without steps back, if there is one. -/
def updateIn (change : Folder T → Folder T) (here : Folder T) : List String → Folder T
  | [] => change here
  | step :: rest =>
    match here.find? step with
    | some (.folder inner) => here.put step (.folder (updateIn change inner rest))
    | _ => here

/-- The last step of a path is a folder from now on, if the steps before it are. -/
def make (root : Folder T) (step : String) (before : List String) :
    Except Lost (Folder T × Except Failure Unit) :=
  (place [] [] root before).map fun (spot, here) =>
    if step == ".." then (root, .ok ())
    else if isTooLong step then (root, .error .unreadablePath)
    else match here.find? step with
      | none => (root.updateIn (fun f => f.put step (.folder empty)) spot, .ok ())
      | some (.folder _) => (root, .ok ())
      | some (.file _ _) => (root, .error .fileInTheWay)

/-- The cause of failure when a folder cannot be made for want of the one before. -/
def Lost.failure : Lost → Failure
  | .blocked => .blockedPath
  | _ => .unreadablePath

/-- A folder with the folders of a path, its last step first. Those that were made stay if one
cannot be made. -/
def makeAll (root : Folder T) : List String → Folder T × Except Failure Unit
  | [] => (root, .ok ())
  | step :: before =>
    match make root step before.reverse with
    | .ok made => made
    | .error .missing =>
      match makeAll root before with
      | (root, .ok ()) =>
        match make root step before.reverse with
        | .ok made => made
        | .error lost => (root, .error lost.failure)
      | failed => failed
    | .error lost => (root, .error lost.failure)

/-- A file put into the folder at a path, if there is one. -/
def putFile (content : Content) (readAt : T) (name : String) (root : Folder T)
    (steps : List String) : Except Lost (Folder T) :=
  (place [] [] root steps).map fun (spot, _) =>
    root.updateIn (fun f => f.put name (.file content readAt)) spot

/-- A folder without the files that have expired. Folders that were empty before go too. -/
def sweep (isExpired : T → Bool) : Folder T → Folder T
  | empty => empty
  | file name content readAt rest =>
    if isExpired readAt then sweep isExpired rest
    else file name content readAt (sweep isExpired rest)
  | folder _ empty rest => sweep isExpired rest
  | folder name inner rest => folder name (sweep isExpired inner) (sweep isExpired rest)

def paths (front : String) : Folder T → List String
  | empty => []
  | file name _ _ rest => (front ++ name) :: paths front rest
  | folder name inner rest =>
    (front ++ name) :: paths (front ++ name ++ "/") inner ++ paths front rest

end Folder

end SolidityRepl
