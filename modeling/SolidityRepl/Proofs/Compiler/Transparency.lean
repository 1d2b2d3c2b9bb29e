import SolidityRepl.Proofs.Compiler.Output
import SolidityRepl.Proofs.Import.Lockstep

/-!
# Calls that share a store

Compilers that share a store say what they say without one, whatever happens to the store in
between: time may pass, the store may be swept, and its files may be deleted.

* `Call.IsOrdinary`: a call that leaves its store alone until its sources are gathered;
* `Call.IsTransparent`: a call that is not changed by its store;
* `course_transparent`: such calls one after the other;
* `throughout_isOrdinary`: where nobody is asked for imports, and no file is in the way of the
  store, all calls are ordinary.
-/

namespace SolidityRepl

open Folder

namespace Compiler

variable {O T : Type} [Duration T]

/-! ## One call -/

/-- A compiler of a version is asked for the result for some sources. -/
structure Call (O T : Type) where
  version : Version
  lookUp : Option (String → Act (World O T) Import.Answer)
  sources : Keyed Json
  machine : Json

namespace Call

def run (host : Host O) (kept : Json) (call : Call O T) : Act (World O T) CompileResult :=
  compile { version := call.version, store := kept } host call.lookUp call.sources call.machine

def gather (call : Call O T) : Act (World O T) (Keyed Json) :=
  Import.gather call.lookUp call.sources

/-- What a compiler is given for a call, when its sources are gathered. -/
def input (call : Call O T) (gathered : Keyed Json) : Json := inputOf gathered call.machine

/-- A call whose sources can be gathered without a file being put into the store, by somebody who
may write to the store. -/
structure IsOrdinary (store : Store) (Used : Version → Json → Prop) (call : Call O T)
    (w : World O T) : Prop where
  ends : Import.Ends call.lookUp call.sources w
  spares : ∀ l ∈ call.lookUp, ∀ path u name content,
    ((l path).run u).2.disk.Holds (store.spot ++ [name]) content →
      u.disk.Holds (store.spot ++ [name]) content
  used : ∀ gathered t, call.gather.run w = (.ok gathered, t) →
    Used call.version (call.input gathered)
  writable : ∀ gathered t, call.gather.run w = (.ok gathered, t) →
    store.IsWritable (key call.version (call.input gathered)) t

/-- Whoever is asked for imports does not look at the store, at the time of its last sweep or at the
journal. -/
def IsBlind (store : Store) (call : Call O T) : Prop :=
  ∀ l ∈ call.lookUp, ∀ path, (l path).Lockstep store.Beside

/-- A call has the result that it has without a store. Its compiler is run if there is no file for
its input after the sweep of the call; and if the compiler fails, the call leaves the files as they
were after that sweep. -/
structure IsTransparent (host : Host O) (folder : String) (store : Store)
    (output : Version → Json → Except Failure Json) (call : Call O T) (w : World O T) : Prop where
  same : ((call.run host (.str folder)).run w).1 = ((call.run host .null).run w).1
  runs : ∀ gathered t, call.gather.run w = (.ok gathered, t) →
    ((call.run host (.str folder)).run w).2.journal = t.journal ++
      if (store.contentOf (key call.version (call.input gathered)) (store.looked t)).isNone
      then [.compiled call.version (call.input gathered)] else []
  clean : ∀ gathered t e, call.gather.run w = (.ok gathered, t) →
    output call.version (call.input gathered) = .error e →
    ((call.run host (.str folder)).run w).2.disk = (store.looked t).disk ∧
      Sparser (store.looked t).disk t.disk ∧
      store.contentOf (key call.version (call.input gathered))
        ((call.run host (.str folder)).run w).2 = none

end Call

variable {host : Host O} {Used : Version → Json → Prop}
  {output : Version → Json → Except Failure Json} {folder : String} {store : Store}
  {call : Call O T} {w : World O T}

/-- Gathering leaves the store as it should be. -/
theorem Call.IsOrdinary.gather_keeps (ordinary : call.IsOrdinary store Used w)
    (keeps : store.Keeps (Right store Used output) w.disk) :
    store.Keeps (Right store Used output) (call.gather.run w).2.disk := by
  have asks : ∀ l ∈ call.lookUp, ∀ path, (l path).Lockstep fun w u =>
      w = u ∧ store.Keeps (Right store Used output) w.disk := by
    rintro l asked path w u ⟨rfl, keeps⟩
    exact ⟨rfl, rfl, fun name content held =>
      keeps name content (ordinary.spares l asked path w name content held)⟩
  exact (Import.gather_lockstep asks ordinary.ends ⟨rfl, keeps⟩).2.2

/-- Who does not look at the store is given the same sources with other files in it. -/
theorem Call.gather_beside (ordinary : call.IsOrdinary store Used w) (blind : call.IsBlind store)
    {u : World O T} (beside : store.Beside w u) :
    (call.gather.run w).1 = (call.gather.run u).1 ∧
      store.Beside (call.gather.run w).2 (call.gather.run u).2 :=
  Import.gather_lockstep blind ordinary.ends beside

/-- **One call**, whose sources are gathered or not. -/
theorem Call.IsOrdinary.run (settled : Settled host Used output)
    (opened : Store.ofFolder folder salt = .ok store) (ordinary : call.IsOrdinary store Used w)
    (keeps : store.Keeps (Right store Used output) w.disk) :
    (∃ e t, call.gather.run w = (.error e, t) ∧
      store.Keeps (Right store Used output) t.disk ∧
      ∀ kept, (call.run host kept).run w = (.error e, t)) ∨
    ∃ gathered t u, call.gather.run w = (.ok gathered, t) ∧
      Answered store Used output call.version (call.input gathered) t u ∧
      (call.run host (.str folder)).run w = (verdict (Keyed.keys call.sources)
        (output call.version (call.input gathered)), u) := by
  have keeps' := ordinary.gather_keeps keeps
  cases ran : call.gather.run w with
  | mk r t =>
    rw [ran] at keeps'
    cases r with
    | error e => exact .inl ⟨e, t, rfl, keeps', fun kept => compile_run_error ran⟩
    | ok gathered =>
      obtain ⟨u, answered, good⟩ := answer_stored settled opened (ordinary.used gathered t ran)
        (ordinary.writable gathered t ran) keeps'
      exact .inr ⟨gathered, t, u, rfl, good, compile_run ran answered⟩

theorem Call.run_alone (settled : Settled host Used output) {gathered : Keyed Json}
    {t : World O T} (ran : call.gather.run w = (.ok gathered, t))
    (used : Used call.version (call.input gathered)) :
    (call.run host .null).run w = (verdict (Keyed.keys call.sources)
      (output call.version (call.input gathered)),
        noted call.version (call.input gathered) t) :=
  compile_run ran (answer_alone settled used t)

theorem Call.IsOrdinary.isTransparent (settled : Settled host Used output)
    (opened : Store.ofFolder folder salt = .ok store) (ordinary : call.IsOrdinary store Used w)
    (keeps : store.Keeps (Right store Used output) w.disk) :
    call.IsTransparent host folder store output w := by
  obtain ⟨e, t, ran, -, failed⟩ | ⟨gathered, t, u, ran, good, ended⟩ :=
    ordinary.run settled opened keeps
  · have never : ∀ gathered t, call.gather.run w ≠ (.ok gathered, t) := fun gathered t ran' => by
      rw [ran] at ran'
      cases ran'
    refine ⟨by rw [failed, failed], fun gathered t ran' => ?_, fun gathered t e ran' => ?_⟩
    · exact absurd ran' (never gathered t)
    · exact absurd ran' (never gathered t)
  · refine ⟨?_, fun gathered' t' ran' => ?_, fun gathered' t' e ran' failed => ?_⟩
    · rw [ended, Call.run_alone settled ran (ordinary.used gathered t ran)]
    · cases ran.symm.trans ran'
      rw [ended]
      exact good.journal
    · cases ran.symm.trans ran'
      rw [ended]
      obtain ⟨disk, missing⟩ := good.clean e failed
      exact ⟨disk, (store.looked_tended t).2, missing⟩

/-! ## A course of calls -/

/-- What happens to a folder of stored outputs: calls, time that passes, sweeps, and files or
folders that are deleted. -/
inductive Occurrence (O T : Type) where
  | call (call : Call O T)
  | pass (time : T)
  | sweep (all : Bool)
  | loss (below : List String) (name : String)

/-- What is said when something happens, and the world after it. -/
def happen (host : Host O) (kept : Json) (store : Store) (w : World O T) :
    Occurrence O T → List (Except Failure CompileResult) × World O T
  | .call call => ([((call.run host kept).run w).1], ((call.run host kept).run w).2)
  | .pass time => ([], { w with now := w.now + time })
  | .sweep all => ([], ((store.sweep all).run w).2)
  | .loss below name => ([], store.lost below name w)

/-- Everything that is said when one thing happens after the other, and the world in the end. -/
def course (host : Host O) (kept : Json) (store : Store) :
    List (Occurrence O T) → World O T → List (Except Failure CompileResult) × World O T
  | [], w => ([], w)
  | o :: rest, w =>
    let now := happen host kept store w o
    let later := course host kept store rest now.2
    (now.1 ++ later.1, later.2)

/-- What holds of every call of a course, and of the world it is made in. -/
def Throughout (host : Host O) (kept : Json) (store : Store)
    (P : Call O T → World O T → Prop) : List (Occurrence O T) → World O T → Prop
  | [], _ => True
  | o :: rest, w => (∀ call, o = .call call → P call w) ∧
    Throughout host kept store P rest (happen host kept store w o).2

variable {o : Occurrence O T}

/-- **Whatever happens, the store keeps the outputs for its keys.** -/
theorem happen_keeps (settled : Settled host Used output)
    (opened : Store.ofFolder folder salt = .ok store)
    (ordinary : ∀ call, o = .call call → call.IsOrdinary store Used w)
    (keeps : store.Keeps (Right store Used output) w.disk) :
    store.Keeps (Right store Used output) (happen host (.str folder) store w o).2.disk := by
  cases o with
  | call call =>
    rw [happen]
    obtain ⟨e, t, -, keeps', failed⟩ | ⟨gathered, t, u, -, good, ended⟩ :=
      (ordinary call rfl).run settled opened keeps
    · rw [failed]
      exact keeps'
    · rw [ended]
      exact good.keeps
  | pass time => exact keeps
  | sweep all => exact keeps.sparser (store.sweep_tended all w).2
  | loss below name => exact keeps.sparser (store.lost_beside below name w).2

/-- **The same is said with the store as without one**, in two worlds that differ in its files. -/
theorem happen_beside (settled : Settled host Used output)
    (opened : Store.ofFolder folder salt = .ok store)
    (ordinary : ∀ call, o = .call call → call.IsOrdinary store Used w)
    (blind : ∀ call, o = .call call → call.IsBlind store)
    (keeps : store.Keeps (Right store Used output) w.disk) {u : World O T}
    (beside : store.Beside w u) :
    (happen host (.str folder) store w o).1 = (happen host .null store u o).1 ∧
      store.Beside (happen host (.str folder) store w o).2 (happen host .null store u o).2 := by
  cases o with
  | call call =>
    have ordinary := ordinary call rfl
    obtain ⟨same, aside⟩ := Call.gather_beside ordinary (blind call rfl) beside
    rw [happen, happen]
    cases gathers : call.gather.run u with
    | mk r u' =>
      rw [gathers] at same aside
      obtain ⟨e, t, ran, -, failed⟩ | ⟨gathered, t, after, ran, good, ended⟩ :=
        ordinary.run settled opened keeps
      · rw [ran] at same aside
        obtain rfl : Except.error e = r := same
        have failed' : (call.run host .null).run u = (.error e, u') := compile_run_error gathers
        rw [failed, failed']
        exact ⟨rfl, aside⟩
      · rw [ran] at same aside
        obtain rfl : Except.ok gathered = r := same
        have alone : store.Beside u' (noted call.version (call.input gathered) u') :=
          ⟨rfl, rfl, rfl, fun _ _ => rfl⟩
        rw [ended, Call.run_alone settled gathers (ordinary.used gathered t ran)]
        exact ⟨rfl, (good.beside.symm.trans aside).trans alone⟩
  | pass time =>
    refine ⟨rfl, beside.outside, ?_, beside.installed, beside.files⟩
    exact congrArg (· + time) beside.now
  | sweep all =>
    exact ⟨rfl, ((store.sweep_tended all w).1.toBeside.symm.trans beside).trans
      (store.sweep_tended all u).1.toBeside⟩
  | loss below name =>
    exact ⟨rfl, ((store.lost_beside below name w).1.symm.trans beside).trans
      (store.lost_beside below name u).1⟩

/-- Every call is transparent, by induction on what happens. -/
theorem throughout_isTransparent (settled : Settled host Used output)
    (opened : Store.ofFolder folder salt = .ok store) {history : List (Occurrence O T)}
    (keeps : store.Keeps (Right store Used output) w.disk)
    (ordinary : Throughout host (.str folder) store (Call.IsOrdinary store Used) history w) :
    Throughout host (.str folder) store (Call.IsTransparent host folder store output) history
      w := by
  induction history generalizing w with
  | nil => trivial
  | cons o rest ih =>
    obtain ⟨first, later⟩ := ordinary
    exact ⟨fun call this => (first call this).isTransparent settled opened keeps,
      ih (happen_keeps settled opened first keeps) later⟩

/-- What is said in a course is what is said without a store, by induction on what happens. -/
theorem course_beside (settled : Settled host Used output)
    (opened : Store.ofFolder folder salt = .ok store) {history : List (Occurrence O T)}
    (keeps : store.Keeps (Right store Used output) w.disk)
    (ordinary : Throughout host (.str folder) store (Call.IsOrdinary store Used) history w)
    (blind : ∀ call, .call call ∈ history → call.IsBlind store) {u : World O T}
    (beside : store.Beside w u) :
    (course host (.str folder) store history w).1 = (course host .null store history u).1 := by
  induction history generalizing w u with
  | nil => rfl
  | cons o rest ih =>
    obtain ⟨first, later⟩ := ordinary
    have blind' : ∀ call, o = .call call → call.IsBlind store := fun call this =>
      blind call (this ▸ List.mem_cons_self)
    obtain ⟨same, beside'⟩ := happen_beside settled opened first blind' keeps beside
    have more := ih (happen_keeps settled opened first keeps) later
      (fun call among => blind call (List.mem_cons_of_mem o among)) beside'
    rw [course, course]
    exact congrArg₂ (· ++ ·) same more

/-- No answer puts a file in the way to the folder of its store. -/
theorem Answered.clear {v : Version} {input : Json} {u : World O T}
    (answered : Answered store Used output v input w u) (clear : w.disk.Clear store.spot) :
    u.disk.Clear store.spot := by
  intro path c front held
  obtain rfl | before := answered.adds path c held
  · have longer := front.length_le
    rw [List.length_append, List.length_singleton] at longer
    omega
  · exact clear path c front before

/-- A call that asks nobody for imports is an ordinary one where no file is in the way. -/
theorem Call.isOrdinary_of_clear (proper : store.IsProper) (alone : call.lookUp = none)
    (used : Used call.version (call.input call.sources)) (clear : w.disk.Clear store.spot) :
    call.IsOrdinary store Used w := by
  have nobody : ∀ l, l ∉ call.lookUp := fun l asked => by
    rw [alone] at asked
    cases asked
  have gathers : call.gather.run w = (.ok call.sources, w) := by
    rw [gather, alone]
    rfl
  refine ⟨fun l asked => absurd asked (nobody l), fun l asked => absurd asked (nobody l),
    fun gathered t ran => ?_, fun gathered t ran => ?_⟩
  · cases gathers.symm.trans ran
    exact used
  · cases gathers.symm.trans ran
    exact Store.isWritable_of_clear proper clear

/-- **Such calls are ordinary throughout**, for nothing that happens puts a file in the way. -/
theorem throughout_isOrdinary (settled : Settled host Used output)
    (opened : Store.ofFolder folder salt = .ok store) (proper : store.IsProper)
    {history : List (Occurrence O T)}
    (alone : ∀ call, .call call ∈ history →
      call.lookUp = none ∧ Used call.version (call.input call.sources))
    (keeps : store.Keeps (Right store Used output) w.disk) (clear : w.disk.Clear store.spot) :
    Throughout host (.str folder) store (Call.IsOrdinary store Used) history w := by
  induction history generalizing w with
  | nil => trivial
  | cons o rest ih =>
    have first : ∀ call, o = .call call → call.IsOrdinary store Used w := fun call this => by
      obtain ⟨nobody, used⟩ := alone call (this ▸ List.mem_cons_self)
      exact Call.isOrdinary_of_clear proper nobody used clear
    have clear' : (happen host (.str folder) store w o).2.disk.Clear store.spot := by
      cases o with
      | call call =>
        have nobody := (alone call List.mem_cons_self).1
        obtain ⟨e, t, ran, -, -⟩ | ⟨gathered, t, u, ran, good, ended⟩ :=
          (first call rfl).run settled opened keeps
        · rw [Call.gather, nobody] at ran
          cases ran
        · rw [Call.gather, nobody] at ran
          cases ran
          rw [happen, ended]
          exact good.clear clear
      | pass time => exact clear
      | sweep all => exact clear.sparser (store.sweep_tended all w).2
      | loss below name => exact clear.sparser (store.lost_beside below name w).2
    exact ⟨first, ih (fun call among => alone call (List.mem_cons_of_mem o among))
      (happen_keeps settled opened first keeps) clear'⟩

/-- **Calls with a store are transparent**, whatever happens between them. Each has the result that
it has in the same world without a store; its compiler is run if there is no file for its input
after the sweep of the call, and if it fails no file is left. And where nobody who is asked for
imports looks at the store, everything that is said is what is said in a course without a store. -/
theorem course_transparent (settled : Settled host Used output)
    (opened : Store.ofFolder folder salt = .ok store) {history : List (Occurrence O T)}
    (keeps : store.Keeps (Right store Used output) w.disk)
    (ordinary : Throughout host (.str folder) store (Call.IsOrdinary store Used) history w) :
    Throughout host (.str folder) store (Call.IsTransparent host folder store output) history w ∧
      ((∀ call, .call call ∈ history → call.IsBlind store) →
        (course host (.str folder) store history w).1 = (course host .null store history w).1) :=
  ⟨throughout_isTransparent settled opened keeps ordinary, fun blind =>
    course_beside settled opened keeps ordinary blind (.refl w)⟩

def shared : Store :=
  { folder := ["cache"], salt := "0.1.0", ttl := Store.week, name := "cache:0.1.0" }

theorem shared_proper : shared.IsProper where
  plain := by decide
  somewhere := by decide
  ends := by decide
  short := Store.isEndless_location (by decide)

def terse : Host Unit where
  compile _ _ := pure (.obj [("contracts", .obj [])])
  request _ := throw .unsupported
  spawn _ := throw .unsupported
  poll := throw .unsupported
  wait _ := throw .unsupported
  installable := []

def request : Call Unit Rat where
  version := { release := [0, 8, 10] }
  lookUp := none
  sources := [("Main.sol", Import.sourceOf "contract Main {}")]
  machine := .null

/-- The version and the input of the call. -/
def Requested (v : Version) (input : Json) : Prop :=
  v = request.version ∧ input = request.input request.sources

theorem terse_settled :
    Settled terse Requested fun _ _ => .ok (.obj [("contracts", .obj [])]) where
  answers _ _ _ _ := rfl
  steady _ _ _ _ _ _ _ _ := rfl
  read := by
    rintro _ _ ⟨rfl, -⟩
    exact ⟨"0.8.10".toList, by decide⟩
  input := by
    rintro _ _ ⟨-, rfl⟩
    exact ⟨_, _, rfl⟩
  apart := by
    rintro _ _ _ _ ⟨rfl, rfl⟩ ⟨rfl, rfl⟩ _
    rfl

def bare : World Unit Rat :=
  { outside := (), disk := .empty, now := 0, installed := [], swept := [], journal := [] }

/-- The call again and again: soon, after more than a week, and after its file was swept away or
deleted. -/
def requests : List (Occurrence Unit Rat) :=
  [.call request, .pass 10, .call request, .pass 604801, .call request, .sweep true, .call request,
    .loss ["0.1.0"] (shared.fileName (key request.version (request.input request.sources))),
    .call request]

theorem bare_keeps (Right : String → Content → Prop) : shared.Keeps Right bare.disk :=
  fun _ _ held => nomatch held

theorem requests_ordinary :
    Throughout terse (.str "cache") shared (Call.IsOrdinary shared Requested) requests bare := by
  refine throughout_isOrdinary terse_settled rfl shared_proper (fun call among => ?_)
    (bare_keeps _) fun path c _ held => nomatch held
  have this : call = request := by
    simpa [requests] using among
  subst this
  exact ⟨rfl, rfl, rfl⟩

theorem course_transparent_requests :
    Settled terse Requested (fun _ _ => .ok (.obj [("contracts", .obj [])])) ∧
    Store.ofFolder "cache" salt = .ok shared ∧
    shared.Keeps (Right shared Requested fun _ _ => .ok (.obj [("contracts", .obj [])])) bare.disk ∧
    Throughout terse (.str "cache") shared (Call.IsOrdinary shared Requested) requests bare ∧
    Throughout terse (.str "cache") shared
      (Call.IsTransparent terse "cache" shared fun _ _ => .ok (.obj [("contracts", .obj [])]))
      requests bare ∧
    (∀ call, .call call ∈ requests → call.IsBlind shared) ∧
    (course terse (.str "cache") shared requests bare).1 =
      (course terse .null shared requests bare).1 := by
  have blind : ∀ call, .call call ∈ requests → call.IsBlind shared := fun call among => by
    have this : call = request := by
      simpa [requests] using among
    subst this
    exact fun l asked => nomatch asked
  obtain ⟨transparent, said⟩ :=
    course_transparent terse_settled rfl (bare_keeps _) requests_ordinary
  exact ⟨terse_settled, rfl, bare_keeps _, requests_ordinary, transparent, blind, said blind⟩

end Compiler

end SolidityRepl
