import SolidityRepl.World.Duration
import SolidityRepl.Version.Basic
import SolidityRepl.Diagnostic

/-!
# Events

What is done in the outside world, and what is said about it.
-/

namespace SolidityRepl

/-- How much a remark matters. -/
inductive Level where
  | info
  | warning
  | error
  deriving DecidableEq, Repr

def Level.name : Level → String
  | .info => "INFO"
  | .warning => "WARNING"
  | .error => "ERROR"

inductive Notice where
  | unclearRange (spec : String)
  | installing (version : Version)
  | fetching (url : String)
  | program (source : String)
  | unclearType (text : String) (message : Json)
  | autostartIsOff (url : String)
  | starting (arguments : List String)
  | stopping (process : Nat)
  | takesEffectLater (setting : String)
  deriving Inhabited

namespace Notice

def level : Notice → Level
  | .unclearRange _ | .autostartIsOff _ => .warning
  | .unclearType _ _ => .error
  | _ => .info

def text : Notice → String
  | .unclearRange spec => "cannot interpret version spec " ++ Text.quoted spec
  | .installing version => "installing solc " ++ version.shown
  | .fetching url => "fetching remote import " ++ url
  | .program source => "synthesized contract:\n" ++ source
  | .unclearType text message =>
    "cannot resolve the type of " ++ Text.quoted text ++ " from: " ++ message.shown
  | .autostartIsOff url => "node autostart is disabled, nothing listens on " ++ url
  | .starting arguments => "starting temp. node instance: " ++ " ".intercalate arguments
  | .stopping process => "stopping temp. node instance (pid " ++ toString process ++ ")"
  | .takesEffectLater setting =>
    "`" ++ setting ++ "` takes effect with the next `init_blockchain()`"

end Notice

/-- A request to a web server: to post a body, or to get a page. -/
inductive Request where
  | post (url : String) (body : Json)
  | get (url : String)
  deriving Inhabited

/-- The seconds after which a request is given up. -/
def Request.timeout : Nat := 60

inductive Event (T : Type) where
  | compiled (version : Version) (input : Json)
  /-- The compilers that can be installed were listed. -/
  | listed
  | installed (version : Version)
  | requested (request : Request)
  | spawned (arguments : List String)
  | interrupted
  | awaited (seconds : Option Nat)
  | killed
  | slept (time : T)
  | noted (notice : Notice)
  /-- A remark of the compiler was passed on to somebody who takes remarks. -/
  | reported (remark : Diagnostic)
  /-- The user was warned. -/
  | warned (text : String)

end SolidityRepl
