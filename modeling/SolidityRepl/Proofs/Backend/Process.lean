import SolidityRepl.Backend.Basic
import SolidityRepl.Proofs.Node.Process

/-!
# One process at a time

A backend with a node of its own is asked for one thing after the other, and all of them may fail.
Whatever the node and its processes do, no process runs but the one that the node owns.

* `Backend.Demand`: what a backend is asked for;
* `Demand.Deals`: what is done for it;
* `Lives`: how processes come and go;
* `Backend.process_alone`: one process at a time, and each ended before the next one is started.
-/

namespace SolidityRepl

inductive Chained {α ε : Type} (step : α → ε → α → Prop) : α → List ε → α → Prop
  | nil (a : α) : Chained step a [] a
  | cons {a mid b : α} {e : ε} {rest : List ε} :
      step a e mid → Chained step mid rest b → Chained step a (e :: rest) b

/-! ## Processes come and go -/

/-- Processes that are started and stopped, one after the other. A process that runs is stopped,
with a result that is `fine`, before another one is started. -/
inductive Lives {T : Type} (fine : Except Failure Unit → Prop) :
    Option Nat → List (Deed T) → Option Nat → Prop
  | done (process : Option Nat) : Lives fine process [] process
  | unborn {words : List String} {more : List (Deed T)} {after : Option Nat} (e : Failure) :
      Lives fine none more after → Lives fine none (.spawned words (.error e) :: more) after
  | born {words : List String} {more : List (Deed T)} {after : Option Nat} (process : Nat) :
      Lives fine (some process) more after →
      Lives fine none (.spawned words (.ok process) :: more) after
  | stopped {process : Nat} {r : Except Failure Unit} {deeds more : List (Deed T)}
      {mid after : Option Nat} : OwnNode.Stops (some process) r deeds mid → fine r →
      Lives fine mid more after → Lives fine (some process) (deeds ++ more) after

namespace Lives

variable {T : Type} {fine : Except Failure Unit → Prop} {before mid after : Option Nat}
  {deeds more : List (Deed T)}

theorem append (first : Lives fine before deeds mid) (second : Lives fine mid more after) :
    Lives fine before (deeds ++ more) after := by
  induction first with
  | done _ => exact second
  | unborn e _ ih => exact .unborn e (ih second)
  | born process _ ih => exact .born process (ih second)
  | stopped stops fine _ ih =>
    rw [List.append_assoc]
    exact .stopped stops fine (ih second)

/-- Every stop succeeds if every process can be waited for. -/
theorem whole (lives : Lives fine before deeds after)
    (waited : ∀ deed ∈ deeds, deed.isLoss = false) :
    Lives (fun r => r = .ok ()) before deeds after := by
  induction lives with
  | done process => exact .done process
  | unborn e _ ih => exact .unborn e (ih (List.forall_mem_cons.mp waited).2)
  | born process _ ih => exact .born process (ih (List.forall_mem_cons.mp waited).2)
  | stopped stops _ _ ih =>
    obtain ⟨now, later⟩ := List.forall_mem_append.mp waited
    refine .stopped stops ?_ (ih later)
    cases stops with
    | inTime _ | killed _ _ => rfl
    | unawaited _ e | unended _ e => simp [Deed.isLoss] at now

end Lives

namespace OwnNode

variable {T : Type} {own : OwnNode} {before after : Option Nat} {r : Except Failure Unit}
  {deeds : List (Deed T)}

theorem Stops.running (stops : Stops before r deeds after) :
    running before.toList deeds = after.toList := by
  cases stops <;> rfl

/-- Nothing but deeds of the process is done to stop it. -/
theorem Stops.isOfProcess (stops : Stops before r deeds after) :
    ∀ deed ∈ deeds, deed.isOfProcess = true := by
  cases stops <;> simp [Deed.isOfProcess]

theorem Stops.lives (stops : Stops before r deeds after) :
    Lives (fun _ => True) before (deeds.filter Deed.isOfProcess) after := by
  rw [List.filter_eq_self.mpr stops.isOfProcess]
  cases before with
  | none =>
    cases stops
    exact .done none
  | some process =>
    have alone : Lives (fun _ => True) (some process) (deeds ++ []) after :=
      .stopped stops trivial (.done after)
    rwa [List.append_nil] at alone

theorem Stops.throughout (stops : Stops before r deeds after) :
    Throughout (fun now => now = before.toList ∨ now = after.toList) before.toList deeds := by
  cases stops with
  | idle => exact .nil (.inl rfl)
  | inTime process | unawaited process e =>
    exact .cons (.inl rfl) (.cons (.inl rfl) (.cons (.inl rfl) (.nil (.inr rfl))))
  | killed process ended | unended process e =>
    exact .cons (.inl rfl) (.cons (.inl rfl) (.cons (.inl rfl) (.cons (.inl rfl)
      (.cons (.inl rfl) (.nil (.inr rfl))))))

/-- A process is started right after a probe that did not reach the node, with nothing before the
probe but what is done to stop a process. -/
def Probed (own : OwnNode) (deeds : List (Deed T)) : Prop :=
  ∀ front words answer back, deeds = front ++ .spawned words answer :: back →
    own.autostart.isVoid = false ∧ ∃ earlier probe,
      front = earlier ++ [probe, .noted (.starting words)] ∧ own.Unreached probe ∧
      ∀ deed ∈ earlier, deed.isOfProcess = true

theorem Probed.of_unspawned (unspawned : ∀ deed ∈ deeds, deed.isSpawn = false) :
    Probed own deeds := by
  intro front words answer back cut
  have spawn := unspawned (.spawned words answer) (cut ▸ List.mem_append_right front (.head back))
  cases spawn

/-- The third of some deeds is the only one that starts a process. -/
theorem eq_pair_of_cut {a b c : Deed T} {tail front back : List (Deed T)} {words : List String}
    {answer : Except Failure Nat}
    (cut : a :: b :: c :: tail = front ++ .spawned words answer :: back)
    (first : a.isSpawn = false) (second : b.isSpawn = false)
    (others : ∀ deed ∈ tail, deed.isSpawn = false) :
    front = [a, b] ∧ c = .spawned words answer := by
  rcases front with _ | ⟨x, _ | ⟨y, _ | ⟨z, front⟩⟩⟩
  · cases (List.cons.inj cut).1
    cases first
  · cases (List.cons.inj (List.cons.inj cut).2).1
    cases second
  · simp only [List.cons_append, List.nil_append, List.cons.injEq] at cut
    exact ⟨by rw [cut.1, cut.2.1], cut.2.2.1⟩
  · simp only [List.cons_append, List.cons.injEq] at cut
    have spawn := others (.spawned words answer)
      (cut.2.2.2 ▸ List.mem_append_right front (.head back))
    cases spawn

theorem Stops.isSpawn (stops : Stops before r deeds after) :
    ∀ deed ∈ deeds, deed.isSpawn = false := by
  cases stops <;> simp [Deed.isSpawn]

/-- A stop may come before. -/
theorem Probed.after_stop {stop : List (Deed T)} (probed : Probed own deeds)
    (stops : Stops before r stop after) : Probed own (stop ++ deeds) := by
  intro front words answer back cut
  obtain ⟨part, rfl, rest⟩ | ⟨part, same, rest⟩ := List.append_eq_append_iff.mp cut
  · obtain ⟨on, earlier, probe, rfl, unreached, processes⟩ := probed part words answer back rest
    refine ⟨on, stop ++ earlier, probe, (List.append_assoc _ _ _).symm, unreached, ?_⟩
    exact List.forall_mem_append.mpr ⟨stops.isOfProcess, processes⟩
  · cases part with
    | nil =>
      obtain ⟨_, earlier, probe, none, _⟩ := probed [] words answer back rest.symm
      simp at none
    | cons first part =>
      have spawn := stops.isSpawn first (same ▸ List.mem_append_right front (.head part))
      rw [← (List.cons.inj rest).1] at spawn
      cases spawn

variable [Duration T]

theorem Starts.throughout (starts : Starts own before r deeds after) :
    Throughout (fun now => now = before.toList ∨ now = after.toList) before.toList deeds := by
  cases starts with
  | owned _ => exact .nil (.inl rfl)
  | reached _ _ | misread _ _ _ => exact .cons (.inl rfl) (.nil (.inl rfl))
  | wordless unreached _ _ =>
    obtain ⟨request, answer, e, rfl, _⟩ := unreached
    exact .cons (.inl rfl) (.nil (.inl rfl))
  | off unreached _ =>
    obtain ⟨request, answer, e, rfl, _⟩ := unreached
    exact .cons (.inl rfl) (.cons (.inl rfl) (.nil (.inl rfl)))
  | unlaunched _ unreached _ _ =>
    obtain ⟨request, answer, e, rfl, _⟩ := unreached
    exact .cons (.inl rfl) (.cons (.inl rfl) (.cons (.inl rfl) (.nil (.inl rfl))))
  | launched process unreached _ _ awaits =>
    obtain ⟨request, answer, e, rfl, _⟩ := unreached
    exact .cons (.inl rfl) (.cons (.inl rfl) (.cons (.inl rfl)
      (.of_isWatch (.inr rfl) awaits.isWatch)))

theorem Starts.lives (starts : Starts own before r deeds after) :
    Lives (fun _ => True) before (deeds.filter Deed.isOfProcess) after := by
  cases starts with
  | owned process => exact .done _
  | reached _ _ | misread _ _ _ => exact .done none
  | off unreached _ | wordless unreached _ _ =>
    obtain ⟨request, answer, e, rfl, _⟩ := unreached
    exact .done none
  | unlaunched e unreached _ _ =>
    obtain ⟨request, answer, _, rfl, _⟩ := unreached
    exact .unborn e (.done none)
  | launched process unreached _ _ awaits =>
    obtain ⟨request, answer, e, rfl, _⟩ := unreached
    have none : List.filter Deed.isOfProcess _ = [] := List.filter_eq_nil_iff.mpr fun deed among =>
      Bool.eq_false_iff.mp (Deed.isOfProcess_of_isWatch (awaits.isWatch deed among))
    refine .born process ?_
    show Lives _ _ (List.filter Deed.isOfProcess _) _
    rw [none]
    exact .done (some process)

theorem Starts.probed (starts : Starts own before r deeds after) : Probed own deeds := by
  cases starts with
  | owned _ => exact .of_unspawned (List.forall_mem_nil _)
  | reached _ _ | misread _ _ _ => exact .of_unspawned (by simp [Deed.isSpawn])
  | off unreached _ | wordless unreached _ _ =>
    obtain ⟨request, answer, e, rfl, _⟩ := unreached
    exact .of_unspawned (by simp [Deed.isSpawn])
  | unlaunched e unreached on _ =>
    intro front words answer back cut
    have quiet := Deed.isSpawn_of_isWatch unreached.isWatch
    obtain ⟨rfl, same⟩ := eq_pair_of_cut cut quiet rfl (List.forall_mem_nil _)
    cases same
    exact ⟨on, [], _, rfl, unreached, List.forall_mem_nil _⟩
  | launched process unreached on _ awaits =>
    intro front words answer back cut
    have quiet := Deed.isSpawn_of_isWatch unreached.isWatch
    obtain ⟨rfl, same⟩ := eq_pair_of_cut cut quiet rfl fun deed among =>
      Deed.isSpawn_of_isWatch (awaits.isWatch deed among)
    cases same
    exact ⟨on, [], _, rfl, unreached, List.forall_mem_nil _⟩

end OwnNode

/-! ## Demands -/

namespace Backend

inductive Demand where
  | start
  | stop
  | restart
  | deploy (contracts : Keyed Contract)
  | accounts
  | answer (method : String) (params : Json)

namespace Demand

variable {O T : Type} [Duration T]

def act (host : Host O) : Demand → Act (At O T) Unit
  | .start => Backend.start host
  | .stop => Backend.stop host
  | .restart => Backend.restart host
  | .deploy contracts => do let _ ← Backend.deploy host contracts
  | .accounts => do let _ ← Backend.accounts host
  | .answer method params => do let _ ← Backend.answer host method params

def isTalk : Demand → Bool
  | .deploy _ | .accounts | .answer _ _ => true
  | _ => false

/-- What is done on a demand by a node of one's own, with its process of before and of after. -/
inductive Deals (own : OwnNode) : Demand → Option Nat → List (Deed T) → Option Nat → Prop
  | start {before after : Option Nat} {r : Except Failure Unit} {deeds : List (Deed T)} :
      own.Starts before r deeds after → Deals own .start before deeds after
  | stop {before after : Option Nat} {r : Except Failure Unit} {deeds : List (Deed T)} :
      OwnNode.Stops before r deeds after → Deals own .stop before deeds after
  | restart {before mid after : Option Nat} {r : Except Failure Unit} {deeds more : List (Deed T)} :
      OwnNode.Stops before (.ok ()) deeds mid → own.Starts mid r more after →
      Deals own .restart before (deeds ++ more) after
  /-- A process that cannot be stopped is not started again. -/
  | unstopped {before after : Option Nat} {e : Failure} {deeds : List (Deed T)} :
      OwnNode.Stops before (.error e) deeds after → Deals own .restart before deeds after
  | talk {demand : Demand} {process : Option Nat} {deeds : List (Deed T)} : demand.isTalk = true →
      (∀ deed ∈ deeds, deed.isTalk = true) → Deals own demand process deeds process

/-- **What is done on a demand, and what runs meanwhile**: at every point nothing, or the process of
before or of after. -/
structure Conduct (own : OwnNode) (before : Option Nat) (entry : Demand × List (Deed T))
    (after : Option Nat) : Prop where
  deals : Deals own entry.1 before entry.2 after
  owned : Throughout (fun now => now = before.toList ∨ now = [] ∨ now = after.toList) before.toList
    entry.2
  ends : running before.toList entry.2 = after.toList
  probed : OwnNode.Probed own entry.2
  idle : entry.1 = .stop → before = none → entry.2 = []
  lives : Lives (fun _ => True) before (entry.2.filter Deed.isOfProcess) after

variable {own : OwnNode} {before after : Option Nat} {demand : Demand} {deeds : List (Deed T)}

theorem Deals.conduct (deals : Deals own demand before deeds after) :
    Conduct own before (demand, deeds) after := by
  have two {mid : Option Nat} {deeds : List (Deed T)}
      (owned : Throughout (fun now => now = before.toList ∨ now = mid.toList) before.toList deeds) :
      Throughout (fun now => now = before.toList ∨ now = [] ∨ now = mid.toList) before.toList
        deeds :=
    owned.imp fun _ => Or.imp_right .inr
  cases deals with
  | start starts =>
    exact ⟨.start starts, two starts.throughout, starts.running, starts.probed, nofun, starts.lives⟩
  | stop stops =>
    refine ⟨.stop stops, two stops.throughout, stops.running, .of_unspawned stops.isSpawn, ?_,
      stops.lives⟩
    rintro _ rfl
    cases stops
    rfl
  | @restart _ mid _ _ deeds more stops starts =>
    have stopped : mid = none := by cases stops <;> rfl
    subst stopped
    refine ⟨.restart stops starts, ?_, ?_, starts.probed.after_stop stops, nofun, ?_⟩
    · have first : Throughout _ before.toList deeds := stops.throughout.imp fun now =>
        show _ → now = before.toList ∨ now = [] ∨ now = after.toList from Or.imp_right .inl
      refine first.append ?_
      rw [stops.running]
      exact starts.throughout.imp fun _ => .inr
    · rw [running_append, stops.running, starts.running]
    · rw [List.filter_append]
      exact stops.lives.append starts.lives
  | unstopped stops =>
    exact ⟨.unstopped stops, two stops.throughout, stops.running, .of_unspawned stops.isSpawn,
      nofun, stops.lives⟩
  | talk talk talks =>
    have watched : ∀ deed ∈ deeds, deed.isWatch = true := fun deed among =>
      Deed.isWatch_of_isTalk (talks deed among)
    refine ⟨.talk talk talks, .of_isWatch (.inl rfl) watched, running_of_isWatch watched _,
      .of_unspawned fun deed among => Deed.isSpawn_of_isWatch (watched deed among), ?_, ?_⟩
    · rintro rfl
      cases talk
    · rw [List.filter_eq_nil_iff.mpr fun deed among =>
        Bool.eq_false_iff.mp (Deed.isOfProcess_of_isWatch (watched deed among))]
      exact .done before

end Demand

/-! ## Backends with a node of their own -/

open World OwnNode

variable {O T : Type} [Duration T] {host : Host O} {own : OwnNode} {timeout : T} {b : At O T}

theorem start_owned (venue : b.1.venue = .own own timeout) {r : Except Failure Unit}
    {t : OwnNode.At O T} (ran : (OwnNode.start host).run (own, b.2) = (r, t)) :
    (start host).run b = (r, ({ b.1 with venue := .own t.1 timeout }, t.2)) := by
  simp only [start, Act.run_bind, Act.run_get, venue, atVenue, Act.run_ofRun, ran]

omit [Duration T] in
theorem stop_owned (venue : b.1.venue = .own own timeout) {r : Except Failure Unit}
    {t : OwnNode.At O T} (ran : (OwnNode.stop host).run (own, b.2) = (r, t)) :
    (stop host).run b = (r, ({ b.1 with venue := .own t.1 timeout }, t.2)) := by
  simp only [stop, Act.run_bind, Act.run_get, venue, atVenue, Act.run_ofRun, ran]

/-- A backend whose node was talked to, from some world on. -/
def Talked (host : Host O) (own : OwnNode) (timeout : T) (w : World O T) (b : At O T) : Prop :=
  (∃ own', b.1.venue = .own own' timeout ∧ Same own own' ∧ own'.process = own.process) ∧
    Reaches host Deed.isTalk w b.2

theorem atVenue_talks {α : Type} {act : Act (Node.At O T) α} {own' : OwnNode} {w : World O T}
    (same : Same own own') (process : own'.process = own.process)
    (talks : ∀ s, Act.Keeps (Node.Talked host s) act) :
    Act.Keeps (Talked host own timeout w) (atVenue own' (.own · timeout) (byNode act)) := by
  rintro b ⟨_, reached⟩
  have talked := talks (own'.node, b.2) (own'.node, b.2) (.refl host _)
  exact ⟨⟨_, rfl, same.trans ⟨talked.url, rfl, rfl, rfl, rfl⟩, process⟩,
    reached.trans talked.reaches⟩

/-- **Whatever is asked of the node is talk with it.** -/
theorem demand_talks (demand : Demand) (talk : demand.isTalk = true) (w : World O T) :
    Act.Keeps (Talked host own timeout w) (demand.act host) := by
  have noted {α : Type} {act : Act (At O T) α} (kept : Act.Keeps (Talked host own timeout w) act) :
      Act.Keeps (Talked host own timeout w) (act >>= fun _ => pure ()) :=
    .bind kept fun _ => .pure ()
  cases demand with
  | start | stop | restart => cases talk
  | deploy contracts =>
    refine noted (.get_bind fun b h => .bind ?_ fun _ => .bind (fun _ h => h) fun _ => .pure _)
    obtain ⟨⟨own', venue, same, process⟩, _⟩ := h
    rw [venue]
    exact atVenue_talks same process fun s => Node.deploy_talks _ _ _ _
  | accounts =>
    refine noted (.get_bind fun b h => ?_)
    obtain ⟨⟨own', venue, same, process⟩, _⟩ := h
    rw [venue]
    exact atVenue_talks same process fun s => Node.accounts_talks _
  | answer method params =>
    refine noted (.get_bind fun b h => ?_)
    obtain ⟨⟨own', venue, same, process⟩, _⟩ := h
    rw [venue]
    exact atVenue_talks same process fun s => Node.call_talks _ _

/-- **One demand**, whatever it comes to. -/
theorem demand_ran (host : Host O) {now : OwnNode} (demand : Demand) (same : Same own now)
    (venue : b.1.venue = .own now timeout) : ∃ deeds own',
      ((demand.act host).run b).2.1.venue = .own own' timeout ∧ Same own own' ∧
      DoesAll host b.2 deeds ((demand.act host).run b).2.2 ∧
      Demand.Deals own demand now.process deeds own'.process := by
  by_cases talk : demand.isTalk = true
  · have silent : Talked host now timeout b.2 b :=
      ⟨⟨now, venue, .refl now, rfl⟩, .refl host _ b.2⟩
    obtain ⟨⟨own', venue', kept, process⟩, deeds, does, talks⟩ :=
      demand_talks demand talk b.2 b silent
    refine ⟨deeds, own', venue', same.trans kept, does, ?_⟩
    rw [process]
    exact .talk talk talks
  cases demand with
  | deploy _ | accounts | answer _ _ => exact absurd rfl talk
  | start =>
    obtain ⟨r, deeds, t, starts, ran⟩ := OwnNode.start_ran host same b.2
    rw [Demand.act, start_owned venue ran.run]
    exact ⟨deeds, t.1, rfl, same.trans ran.same, ran.does, .start starts⟩
  | stop =>
    obtain ⟨r, deeds, t, stops, ran⟩ := OwnNode.stop_ran host now b.2
    rw [Demand.act, stop_owned venue ran.run]
    exact ⟨deeds, t.1, rfl, same.trans ran.same, ran.does, .stop stops⟩
  | restart =>
    obtain ⟨r, deeds, t, stops, ran⟩ := OwnNode.stop_ran host now b.2
    have stopped := stop_owned venue ran.run
    cases r with
    | error e =>
      have ends : (Demand.restart.act host).run b = _ := Act.run_bind_error stopped
      rw [ends]
      exact ⟨deeds, t.1, rfl, same.trans ran.same, ran.does, .unstopped stops⟩
    | ok _ =>
      have kept := same.trans ran.same
      obtain ⟨r, more, u, starts, started⟩ := OwnNode.start_ran host kept t.2
      have ends : (Demand.restart.act host).run b = _ :=
        (Act.run_bind_ok stopped).trans (start_owned rfl started.run)
      rw [ends]
      exact ⟨deeds ++ more, u.1, rfl, kept.trans started.same, ran.does.append started.does,
        .restart stops starts⟩

/-- A backend after some demands, of which any may have failed. -/
def performAll (host : Host O) : List Demand → At O T → At O T
  | [], b => b
  | demand :: rest, b => performAll host rest ((demand.act host).run b).2

/-- By induction on the demands. -/
theorem performAll_ran (host : Host O) (demands : List Demand) {now : OwnNode} (same : Same own now)
    (venue : b.1.venue = .own now timeout) : ∃ own' history,
      (performAll host demands b).1.venue = .own own' timeout ∧ Same own own' ∧
      history.map Prod.fst = demands ∧
      DoesAll host b.2 (history.flatMap Prod.snd) (performAll host demands b).2 ∧
      Chained (Demand.Conduct own) now.process history own'.process := by
  induction demands generalizing b now with
  | nil => exact ⟨now, [], venue, same, rfl, .nil b.2, .nil _⟩
  | cons demand rest ih =>
    obtain ⟨deeds, mid, venue', kept, does, deals⟩ := demand_ran host demand same venue
    obtain ⟨own', history, ends, same', demands, later, chained⟩ := ih kept venue'
    exact ⟨own', (demand, deeds) :: history, ends, same', by rw [List.map_cons, demands],
      does.append later, .cons deals.conduct chained⟩

/-- By induction on the demands: at the end of each the processes that run are those that are
owned. -/
theorem alone_of_conduct {before after : Option Nat} {history : List (Demand × List (Deed T))}
    (chained : Chained (Demand.Conduct own) before history after) :
    Throughout (fun now => now.length ≤ 1) before.toList (history.flatMap Prod.snd) ∧
    running before.toList (history.flatMap Prod.snd) = after.toList ∧
    Lives (fun _ => True) before ((history.flatMap Prod.snd).filter Deed.isOfProcess) after := by
  have short (process : Option Nat) : process.toList.length ≤ 1 := by
    cases process <;> simp
  induction chained with
  | nil before => exact ⟨.nil (short before), rfl, .done before⟩
  | @cons before mid after entry rest conduct _ ih =>
    obtain ⟨alone, ends, lives⟩ := ih
    have first : Throughout (fun now => now.length ≤ 1) before.toList entry.2 := by
      refine conduct.owned.imp fun now here => ?_
      rcases here with rfl | rfl | rfl
      · exact short before
      · exact Nat.zero_le 1
      · exact short mid
    rw [List.flatMap_cons, running_append, List.filter_append, conduct.ends]
    exact ⟨first.append (conduct.ends ▸ alone), ends, conduct.lives.append lives⟩

/-- **One process at a time.** Whatever a backend with a node of its own is asked for, and whatever
its node and its processes do, it comes to deeds for each demand, at every point of which no process
runs but the one that is owned before or after the demand. A process is started only right after a
probe that did not reach the node, and one that runs is interrupted and waited for, and killed if it
does not end in time, before another one is started. It gets a second interrupt only if it could not
be waited for after the first. -/
theorem process_alone (host : Host O) (own : OwnNode) (timeout : T) (gas : GasLimits)
    (ledger : Ledger) (w : World O T) (demands : List Demand) :
    let b : Backend O T := { venue := .own { own with process := none } timeout, gas, ledger }
    ∃ own' history,
      (performAll host demands (b, w)).1.venue = .own own' timeout ∧
      history.map Prod.fst = demands ∧
      let deeds := history.flatMap Prod.snd
      DoesAll host w deeds (performAll host demands (b, w)).2 ∧
      Chained (Demand.Conduct own) none history own'.process ∧
      Throughout (fun now => now.length ≤ 1) [] deeds ∧
      running [] deeds = own'.process.toList ∧
      Lives (fun _ => True) none (deeds.filter Deed.isOfProcess) own'.process ∧
      ((∀ deed ∈ deeds, deed.isLoss = false) →
        Lives (fun r => r = .ok ()) none (deeds.filter Deed.isOfProcess) own'.process) := by
  intro b
  have same : Same own { own with process := none } := ⟨rfl, rfl, rfl, rfl, rfl⟩
  have venue : (b, w).1.venue = .own { own with process := none } timeout := rfl
  obtain ⟨own', history, venue, _, asked, does, chained⟩ := performAll_ran host demands same venue
  obtain ⟨alone, ends, lives⟩ := alone_of_conduct chained
  exact ⟨own', history, venue, asked, does, chained, alone, ends, lives, fun waited =>
    lives.whole fun deed among => waited deed (List.mem_filter.mp among).1⟩

end Backend

end SolidityRepl
