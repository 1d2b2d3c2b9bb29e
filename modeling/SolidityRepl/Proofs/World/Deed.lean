import SolidityRepl.World.Basic
import SolidityRepl.Proofs.Act

/-!
# Deeds

What is done in the world is a list of deeds. To some of them the host has an answer, which it gives
by what it remembers; most of them are written down in the journal.
-/

namespace SolidityRepl

/-- One thing done in the world, and what came of it. -/
inductive Deed (T : Type) where
  | requested (request : Request) (answer : Except Failure Reply)
  /-- A process was started. -/
  | spawned (arguments : List String) (answer : Except Failure Nat)
  /-- The process was asked for its exit code. -/
  | polled (answer : Except Failure (Option Int))
  /-- The process got an interrupt. -/
  | interrupted
  /-- The process was waited for. The answer is whether it ended in time. -/
  | awaited (seconds : Option Nat) (answer : Except Failure Bool)
  | killed
  | slept (time : T)
  | noted (notice : Notice)

namespace Deed

variable {O T : Type}

def event? : Deed T → Option (Event T)
  | requested request _ => some (.requested request)
  | spawned arguments _ => some (.spawned arguments)
  | polled _ => none
  | interrupted => some .interrupted
  | awaited seconds _ => some (.awaited seconds)
  | killed => some .killed
  | slept time => some (.slept time)
  | noted notice => some (.noted notice)

/-- The host gives the answer to a deed, if there is one to give. -/
def Asks (host : Host O) (deed : Deed T) (outside outside' : O) : Prop :=
  match deed with
  | requested request answer => (host.request request).run outside = (answer, outside')
  | spawned arguments answer => (host.spawn arguments).run outside = (answer, outside')
  | polled answer => host.poll.run outside = (answer, outside')
  | awaited seconds answer => (host.wait seconds).run outside = (answer, outside')
  | interrupted | killed | slept _ | noted _ => outside' = outside

def clock [Duration T] (deed : Deed T) (now : T) : T :=
  match deed with
  | slept time => now + time
  | _ => now

/-- What is done when a node is talked to. -/
def isTalk : Deed T → Bool
  | requested _ _ | slept _ => true
  | _ => false

/-- What is done when a process is waited for until its node answers. -/
def isWatch : Deed T → Bool
  | requested _ _ | slept _ | polled _ => true
  | _ => false

def isSpawn : Deed T → Bool
  | spawned _ _ => true
  | _ => false

/-- What is meant to end a process. -/
def isEnd : Deed T → Bool
  | interrupted | awaited _ _ | killed => true
  | _ => false

/-- A process could not be waited for: it is not known whether it has ended. -/
def isLoss : Deed T → Bool
  | awaited _ (.error _) => true
  | _ => false

/-- What makes a process or is meant to end it. -/
def isOfProcess : Deed T → Bool
  | spawned _ _ | interrupted | awaited _ _ | killed | noted (.stopping _) => true
  | _ => false

/-- The processes that run after a deed, the newest last. It is the newest one that is waited for. A
process that is waited for without a limit has ended by then. -/
def passes (processes : List Nat) : Deed T → List Nat
  | spawned _ (.ok process) => processes ++ [process]
  | awaited (some _) (.ok true) | awaited none (.ok _) => processes.dropLast
  | _ => processes

theorem isWatch_of_isTalk {deed : Deed T} (talk : deed.isTalk = true) : deed.isWatch = true := by
  cases deed <;> first | rfl | cases talk

theorem passes_of_isWatch {deed : Deed T} (watch : deed.isWatch = true) (processes : List Nat) :
    deed.passes processes = processes := by
  cases deed <;> first | rfl | cases watch

theorem isEnd_of_isWatch {deed : Deed T} (watch : deed.isWatch = true) : deed.isEnd = false := by
  cases deed <;> first | rfl | cases watch

theorem isSpawn_of_isWatch {deed : Deed T} (watch : deed.isWatch = true) :
    deed.isSpawn = false := by
  cases deed <;> first | rfl | cases watch

theorem isOfProcess_of_isWatch {deed : Deed T} (watch : deed.isWatch = true) :
    deed.isOfProcess = false := by
  cases deed <;> first | rfl | cases watch

end Deed

def running {T : Type} (processes : List Nat) (deeds : List (Deed T)) : List Nat :=
  deeds.foldl Deed.passes processes

theorem running_append {T : Type} (processes : List Nat) (deeds more : List (Deed T)) :
    running processes (deeds ++ more) = running (running processes deeds) more :=
  List.foldl_append

/-- As long as a process is only watched, the same processes run. -/
theorem running_of_isWatch {T : Type} {deeds : List (Deed T)}
    (watch : ∀ deed ∈ deeds, deed.isWatch = true) (processes : List Nat) :
    running processes deeds = processes := by
  induction deeds with
  | nil => rfl
  | cons deed deeds ih =>
    rw [List.forall_mem_cons] at watch
    show running (deed.passes processes) deeds = processes
    rw [Deed.passes_of_isWatch watch.1, ih watch.2]

/-- At every point of some deeds the processes that run are such. -/
def Throughout {T : Type} (P : List Nat → Prop) (processes : List Nat) (deeds : List (Deed T)) :
    Prop :=
  ∀ front back, deeds = front ++ back → P (running processes front)

namespace Throughout

variable {T : Type} {P Q : List Nat → Prop} {processes : List Nat} {deed : Deed T}
  {deeds more : List (Deed T)}

theorem nil (here : P processes) : Throughout P processes ([] : List (Deed T)) := by
  intro front back cut
  rw [(List.append_eq_nil_iff.mp cut.symm).1]
  exact here

theorem cons (here : P processes) (rest : Throughout P (deed.passes processes) deeds) :
    Throughout P processes (deed :: deeds) := by
  intro front back cut
  cases front with
  | nil => exact here
  | cons first front =>
    rw [List.cons_append, List.cons.injEq] at cut
    rw [← cut.1]
    exact rest front back cut.2

theorem append (first : Throughout P processes deeds)
    (second : Throughout P (running processes deeds) more) :
    Throughout P processes (deeds ++ more) := by
  intro front back cut
  obtain ⟨part, rfl, _⟩ | ⟨part, same, _⟩ := List.append_eq_append_iff.mp cut
  · rw [running_append]
    exact second part back (by assumption)
  · exact first front part same

theorem of_isWatch (here : P processes) (watch : ∀ deed ∈ deeds, deed.isWatch = true) :
    Throughout P processes deeds := by
  intro front back cut
  have early : ∀ deed ∈ front, deed.isWatch = true := fun deed among =>
    watch deed (cut ▸ List.mem_append_left back among)
  rw [running_of_isWatch early]
  exact here

theorem imp (all : Throughout P processes deeds) (weaker : ∀ processes, P processes → Q processes) :
    Throughout Q processes deeds := fun front back cut => weaker _ (all front back cut)

end Throughout

namespace World

variable {O T : Type} [Duration T]

/-- From one world to another by a deed. -/
structure Does (host : Host O) (w : World O T) (deed : Deed T) (w' : World O T) : Prop where
  asks : deed.Asks host w.outside w'.outside
  rest : w' = { w with
    outside := w'.outside
    now := deed.clock w.now
    journal := w.journal ++ deed.event?.toList }

/-- From one world to another by some deeds, one after the other. -/
inductive DoesAll (host : Host O) : World O T → List (Deed T) → World O T → Prop
  | nil (w : World O T) : DoesAll host w [] w
  | cons {w mid w' : World O T} {deed : Deed T} {deeds : List (Deed T)} :
      Does host w deed mid → DoesAll host mid deeds w' → DoesAll host w (deed :: deeds) w'

variable {host : Host O} {w mid w' : World O T} {deed : Deed T} {deeds more : List (Deed T)}

theorem Does.all (does : Does host w deed w') : DoesAll host w [deed] w' := .cons does (.nil w')

theorem DoesAll.append (first : DoesAll host w deeds mid) (second : DoesAll host mid more w') :
    DoesAll host w (deeds ++ more) w' := by
  induction first with
  | nil => exact second
  | cons does _ ih => exact .cons does (ih second)

/-- **Deeds are written down in their order**, and nothing else is. -/
theorem DoesAll.journal (does : DoesAll host w deeds w') :
    w'.journal = w.journal ++ deeds.filterMap Deed.event? := by
  induction does with
  | nil w => exact (List.append_nil w.journal).symm
  | @cons w mid w' deed deeds first _ ih =>
    have one : mid.journal = w.journal ++ deed.event?.toList := by rw [first.rest]
    rw [ih, one, List.append_assoc, List.filterMap_cons]
    cases deed.event? <;> rfl

/-! ## One deed -/

theorem does_note (host : Host O) (notice : Notice) (w : World O T) :
    Does host w (.noted notice) ((note notice).run w).2 := ⟨rfl, rfl⟩

theorem does_sleep (host : Host O) (time : T) (w : World O T) :
    Does host w (.slept time) ((sleep time).run w).2 := ⟨rfl, rfl⟩

theorem does_interrupt (host : Host O) (w : World O T) :
    Does host w .interrupted ((record .interrupted).run w).2 := ⟨rfl, rfl⟩

theorem does_kill (host : Host O) (w : World O T) :
    Does host w .killed ((record .killed).run w).2 := ⟨rfl, rfl⟩

theorem does_poll (host : Host O) (w : World O T) :
    Does host w (.polled ((ask host.poll).run w).1) ((ask host.poll).run w).2 :=
  ⟨rfl, (congrArg (fun journal => { ((ask host.poll).run w).2 with journal })
    (List.append_nil w.journal)).symm⟩

theorem does_spawn (host : Host O) (arguments : List String) (w : World O T) :
    let answered := (ask (host.spawn arguments)).run ((record (.spawned arguments)).run w).2
    Does host w (.spawned arguments answered.1) answered.2 := ⟨rfl, rfl⟩

theorem does_await (host : Host O) (seconds : Option Nat) (w : World O T) :
    let answered := (ask (host.wait seconds)).run ((record (.awaited seconds)).run w).2
    Does host w (.awaited seconds answered.1) answered.2 := ⟨rfl, rfl⟩

/-! ## Deeds of one kind -/

/-- A world is reached by deeds of one kind. -/
def Reaches (host : Host O) (kind : Deed T → Bool) (w w' : World O T) : Prop :=
  ∃ deeds, DoesAll host w deeds w' ∧ ∀ deed ∈ deeds, kind deed = true

variable {kind : Deed T → Bool}

theorem Reaches.refl (host : Host O) (kind : Deed T → Bool) (w : World O T) :
    Reaches host kind w w := ⟨[], .nil w, List.forall_mem_nil _⟩

theorem Reaches.trans (first : Reaches host kind w mid) (second : Reaches host kind mid w') :
    Reaches host kind w w' := by
  obtain ⟨deeds, does, kinds⟩ := first
  obtain ⟨more, does', kinds'⟩ := second
  exact ⟨deeds ++ more, does.append does', List.forall_mem_append.mpr ⟨kinds, kinds'⟩⟩

theorem Does.reaches (does : Does host w deed w') (one : kind deed = true) :
    Reaches host kind w w' :=
  ⟨[deed], does.all, List.forall_mem_singleton.mpr one⟩

end World

end SolidityRepl
