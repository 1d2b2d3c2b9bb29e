import SolidityRepl.Import.Closure
import SolidityRepl.Settings
import SolidityRepl.World.Basic

/-!
# Where imports are looked for

An import is a file below the base folder, or else below one of the other folders, in their order.
A unit on the web is fetched only if that is allowed.
-/

namespace SolidityRepl

/-- A reply that says that a request went wrong. -/
def Reply.fault? (reply : Reply) (url : String) : Option Failure :=
  let fault (side : String) : Option Failure :=
    some (.outside .httpStatus
      (toString reply.status ++ " " ++ side ++ " Error: " ++ reply.reason ++ " for url: " ++ url))
  if 400 ≤ reply.status && reply.status < 500 then fault "Client"
  else if 500 ≤ reply.status && reply.status < 600 then fault "Server"
  else none

def World.send {O T : Type} (host : Host O) (url : String) (request : Request) :
    Act (World O T) String := do
  record (.requested request)
  let reply ← ask (host.request request)
  match reply.fault? url with
  | some fault => throw fault
  | none => return reply.text

namespace Import

structure Route where
  /-- The slashes it starts with. Without any it starts in the working folder. -/
  root : String
  steps : List String
  deriving DecidableEq, Inhabited, Repr

namespace Route

variable {O T : Type}

def of (path : String) : Route :=
  { root := String.ofList (Path.root path.toList), steps := Path.steps path }

/-- One path after another. A path from the root is followed by itself. -/
def join (front route : Route) : Route :=
  if route.root.isEmpty then { front with steps := front.steps ++ route.steps } else route

def shown (route : Route) : String :=
  if route.root.isEmpty && route.steps.isEmpty then "."
  else route.root ++ "/".intercalate route.steps

/-- Where a path starts, with the folders above: in the working folder, which is below others, or in
the root. Above the root there is the root again. -/
def start (route : Route) (above : List (Folder Unit)) (here : Folder Unit) :
    List (Folder Unit) × Folder Unit :=
  let top := above.getLast?.getD here
  let tops := List.replicate route.steps.length top
  if route.root.isEmpty then (above ++ tops, here) else (tops, top)

/-- The file at the end of a path, if there is one. -/
def file? (route : Route) (host : Host O) (disk : Folder T) : Except Failure (Option Content) :=
  if Path.isNowhere route.steps then .ok none
  else if 4096 ≤ route.shown.utf8ByteSize then .error .unreadablePath
  else match host.barred route.shown with
    | some e => .error e
    | none =>
      let (above, here) := route.start host.above disk.timeless
      (here.walk above route.steps).map fun entry => entry.bind Entry.content?

end Route

/-- Where imports are looked for. The values are those of the settings. -/
structure Roots where
  base : Json
  others : List Json
  web : Json
  deriving Inhabited, Repr

namespace Roots

variable {O T : Type}

def ofSettings (s : Settings) : Except Failure Roots := do
  return { base := s.read .basePath, others := ← (s.read .includePaths).parts,
           web := s.read .allowHttp }

def folders (roots : Roots) : List Json := roots.base :: roots.others

def routeTo (folder : Json) (name : String) : Except Failure Route :=
  if folder.isVoid then .ok (.of name)
  else folder.asText.map fun folder => (Route.of folder).join (.of name)

/-- The text of what is in a file, every line ended by a line feed. -/
def textOf (content : Content) : Except Failure String :=
  match content with
  | .bytes bytes => match Text.decode? bytes with
    | some text => .ok (String.ofList (Text.unifyBreaks text.toList))
    | none => .error .badText
  | .value _ => .error .badText

def read (host : Host O) (route : Route) (content : Content) : Except Failure String :=
  match host.sealed route.shown with
  | some e => .error e
  | none => textOf content

/-- What is said about an import that is nowhere. -/
def notFound : String := "File not found inside the base path or any of the include paths."

/-- What is said about a file that is there. -/
def answer (host : Host O) (route : Route) (content : Content) : Except Failure Answer :=
  match read host route content with
  | .ok text => .ok (.found text)
  | .error e =>
    if e.isSystem then
      .ok (.refused ("Error reading " ++ route.shown ++ ": " ++ e.message.getD ""))
    else .error e

/-- The first file of a name below some folders. -/
def findIn (host : Host O) (disk : Folder T) (name : String) :
    List Json → Except Failure Answer
  | [] => .ok (.refused notFound)
  | folder :: more => do
    let route ← routeTo folder name
    match ← route.file? host disk with
    | some content => answer host route content
    | none => findIn host disk name more

def find (roots : Roots) (host : Host O) (disk : Folder T) (name : String) : Except Failure Answer :=
  findIn host disk name roots.folders

def fetch (host : Host O) (url : String) : Act (World O T) Answer := do
  World.note (.fetching url)
  match ← Act.attempt (World.send host url (.get url)) with
  | .ok text => return .found text
  | .error e =>
    if e.isFault .request then
      return .refused ("Error fetching " ++ url ++ ": " ++ e.message.getD "")
    else throw e

def lookUp (roots : Roots) (host : Host O) (name : String) : Act (World O T) Answer :=
  if isRemote name then
    if roots.web.isVoid then pure (.refused ("https imports are disabled: " ++ name))
    else fetch host name
  else Act.ofRun fun w => (roots.find host w.disk name, w)

end Roots

end Import

end SolidityRepl
