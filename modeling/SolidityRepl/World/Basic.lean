import SolidityRepl.World.Event
import SolidityRepl.World.Folder

/-!
# The world outside

What the program reaches beyond its own memory: compilers, web servers, processes, files and the
clock. A `Host` answers for all of them but the files and the clock, with a memory of its own that
nothing else looks into; a `World` is that memory with the files, the clock, and a journal of what
was done.
-/

namespace SolidityRepl

/-- The answer of a web server. -/
structure Reply where
  status : Nat
  reason : String
  text : String
  deriving Inhabited

/-- Whoever answers from outside, with a memory of type `O`. -/
structure Host (O : Type) where
  /-- A compiler's output for an input. -/
  compile : Version → Json → Act O Json
  request : Request → Act O Reply
  /-- A new process, known by a number. -/
  spawn : List String → Act O Nat
  /-- The exit code of the process, if it has ended. -/
  poll : Act O (Option Int)
  /-- Whether the process ends within some seconds, if there is a limit. -/
  wait : Option Nat → Act O Bool
  /-- The compilers that can be installed. -/
  installable : List Version
  /-- The folders above the working folder, the nearest one first and the root last. When their files
  were read is no matter. -/
  above : List (Folder Unit) := [.empty]
  /-- Why a path cannot be followed, where its names are not to blame. -/
  barred : String → Option Failure := fun _ => none
  /-- Why the file at the end of a path cannot be read. -/
  sealed : String → Option Failure := fun _ => none

structure World (O T : Type) where
  outside : O
  /-- The working folder. -/
  disk : Folder T
  now : T
  installed : List Version
  /-- When the files of a store were last looked through. -/
  swept : Keyed T
  journal : List (Event T)

namespace World

variable {O T α : Type}

def record (event : Event T) : Act (World O T) Unit :=
  Act.ofRun fun w => (.ok (), { w with journal := w.journal ++ [event] })

def note (notice : Notice) : Act (World O T) Unit := record (.noted notice)

def ask (act : Act O α) : Act (World O T) α :=
  Act.zoom World.outside (fun o w => { w with outside := o }) act

def sleep [Duration T] (time : T) : Act (World O T) Unit :=
  Act.ofRun fun w =>
    (.ok (), { w with now := w.now + time, journal := w.journal ++ [.slept time] })

def clock : Act (World O T) T := Act.ofRun fun w => (.ok w.now, w)

end World

end SolidityRepl
