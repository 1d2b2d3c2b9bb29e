import SolidityRepl.Node.Process
import SolidityRepl.Proofs.Node.Talk

/-!
# Processes of nodes

A node of one's own has a process if it was started and has not been stopped. What a start and a
stop do is a few deeds, whatever the node and its process do. A start that launches a process owns
it, also if it fails; so a process that ended at once, or whose node did not answer, is still there
when the start has failed.

* `OwnNode.Starts`, `OwnNode.Stops`: all ways in which a start and a stop may go;
* `start_ran`, `stop_ran`: there are no others;
* `start_leaves`: what is left of a start.
-/

namespace SolidityRepl

variable {O T : Type}

namespace OwnNode

open World

/-- A request that asks a node whether it is there. -/
def IsProbe (own : OwnNode) (request : Request) : Prop :=
  ∃ number, request = .post own.node.url (Node.bodyOf "eth_accounts" (.arr []) number)

def Unreached (own : OwnNode) (probe : Deed T) : Prop :=
  ∃ request answer e, probe = .requested request answer ∧ own.IsProbe request ∧
    Node.answered own.node.url answer = .error e ∧ e.isUnreachable = true

/-- The words of the command with which the node is started. -/
def words (own : OwnNode) : Except Failure (List String) :=
  own.argumentsOf >>= fun arguments => arguments.mapM Json.asText

/-- What is said of a node that could not be started. -/
def unlaunched (own : OwnNode) (e : Failure) : Failure :=
  if e.isSystem then
    .deployFailed { message := "Unable to launch blockchain service `" ++ own.command ++
      "`: " ++ e.message.getD "" ++ ". Verify that it is installed and available in your PATH." }
  else e

/-- What is said of a node whose process has ended. -/
def exited (own : OwnNode) (code : Int) : Failure :=
  .deployFailed { message := "`" ++ own.command ++ "` exited with code " ++ toString code }

/-- What is said of a node that never answered, or not as it should. -/
def unready (e : Failure) : Failure := if e.isUnreachable then Node.notReady name e else e

variable {own now : OwnNode} {deeds : List (Deed T)}

theorem Unreached.isWatch {probe : Deed T} (unreached : own.Unreached probe) :
    probe.isWatch = true := by
  obtain ⟨request, answer, e, rfl, _⟩ := unreached
  rfl

/-! ## The same node -/

/-- The same node, with other calls made to it and perhaps another process. -/
structure Same (own own' : OwnNode) : Prop where
  url : own'.node.url = own.node.url
  command : own'.command = own.command
  arguments : own'.arguments = own.arguments
  autostart : own'.autostart = own.autostart
  tries : own'.tries = own.tries

theorem Same.refl (own : OwnNode) : Same own own := ⟨rfl, rfl, rfl, rfl, rfl⟩

theorem Same.trans {mid own' : OwnNode} (first : Same own mid) (second : Same mid own') :
    Same own own' :=
  ⟨second.url.trans first.url, second.command.trans first.command,
    second.arguments.trans first.arguments, second.autostart.trans first.autostart,
    second.tries.trans first.tries⟩

theorem Same.words (same : Same own now) : now.words = own.words := by
  rw [OwnNode.words, argumentsOf, same.command, same.arguments]
  rfl

theorem Same.unlaunched (same : Same own now) (e : Failure) :
    now.unlaunched e = own.unlaunched e := by
  rw [OwnNode.unlaunched, same.command]
  rfl

/-! ## Ways that starts and stops may go -/

/-- A process is looked after once: it has ended, or else its node is probed. -/
inductive Attempt (own : OwnNode) : Except Failure Unit → List (Deed T) → Prop
  | unpolled {e : Failure} : Attempt own (.error e) [.polled (.error e)]
  | exited (code : Int) : Attempt own (.error (own.exited code)) [.polled (.ok (some code))]
  | probed {request : Request} (answer : Except Failure Reply) : own.IsProbe request →
      Attempt own ((Node.answered own.node.url answer).map fun _ => ())
        [.polled (.ok none), .requested request answer]

theorem Attempt.isWatch {r : Except Failure Unit} (attempt : Attempt own r deeds) :
    ∀ deed ∈ deeds, deed.isWatch = true := by
  cases attempt with
  | unpolled | exited _ => simp [Deed.isWatch]
  | probed _ _ => simp [Deed.isWatch]

/-- Nodes that are the same are looked after alike. -/
theorem Same.attempt {r : Except Failure Unit} (same : Same own now)
    (attempt : Attempt now r deeds) : Attempt own r deeds := by
  cases attempt with
  | unpolled => exact .unpolled
  | exited code =>
    rw [OwnNode.exited, same.command]
    exact .exited code
  | probed answer probe =>
    rw [IsProbe, same.url] at probe
    rw [same.url]
    exact .probed answer probe

/-- **What a stop does**, with the process of before and of after. -/
inductive Stops : Option Nat → Except Failure Unit → List (Deed T) → Option Nat → Prop
  | idle : Stops none (.ok ()) [] none
  | inTime (process : Nat) : Stops (some process) (.ok ())
      [.noted (.stopping process), .interrupted, .awaited (some grace) (.ok true)] none
  | killed (process : Nat) (ended : Bool) : Stops (some process) (.ok ())
      [.noted (.stopping process), .interrupted, .awaited (some grace) (.ok false), .killed,
        .awaited none (.ok ended)] none
  /-- The process cannot be waited for. -/
  | unawaited (process : Nat) (e : Failure) : Stops (some process) (.error e)
      [.noted (.stopping process), .interrupted, .awaited (some grace) (.error e)] (some process)
  | unended (process : Nat) (e : Failure) : Stops (some process) (.error e)
      [.noted (.stopping process), .interrupted, .awaited (some grace) (.ok false), .killed,
        .awaited none (.error e)] (some process)

section

variable [Duration T]

def pauseAfter (n : Nat) : T :=
  Duration.ofInt 400 * Duration.power (Duration.ofDecimal 11 (-1)) n / Duration.ofInt 1000

/-- A process is looked after until its node answers, `left` times at most: it is once more if the
node could not be reached. -/
inductive Waits (own : OwnNode) : Nat → Nat → Except Failure Unit → List (Deed T) → Prop
  | never {n : Nat} : Waits own 0 n (.ok ()) []
  | last {left n : Nat} {r : Except Failure Unit} {deeds : List (Deed T)} :
      Attempt own r deeds → (∀ e, r = .error e → e.isUnreachable = false ∨ left = 0) →
      Waits own (left + 1) n r deeds
  | again {left n : Nat} {e : Failure} {r : Except Failure Unit} {deeds more : List (Deed T)} :
      Attempt own (.error e) deeds → e.isUnreachable = true → left ≠ 0 →
      Waits own left (n + 1) r more →
      Waits own (left + 1) n r (deeds ++ .slept (pauseAfter n) :: more)

/-- Whoever waits for a node only watches. By induction on the attempts. -/
theorem Waits.isWatch {left n : Nat} {r : Except Failure Unit} (waits : Waits own left n r deeds) :
    ∀ deed ∈ deeds, deed.isWatch = true := by
  induction waits with
  | never => exact List.forall_mem_nil _
  | last attempt _ => exact attempt.isWatch
  | again attempt _ _ _ ih =>
    intro deed among
    rcases List.mem_append.mp among with early | late
    · exact attempt.isWatch deed early
    · rcases List.mem_cons.mp late with rfl | later
      · rfl
      · exact ih deed later

/-- What becomes of a process that was started: it is looked after as often as is set. -/
inductive Awaits (own : OwnNode) : Except Failure Unit → List (Deed T) → Prop
  | uncounted {e : Failure} : Patience.triesOf own.tries = .error e → Awaits own (.error e) []
  | counted {tries : Nat} {r : Except Failure Unit} {deeds : List (Deed T)} :
      Patience.triesOf own.tries = .ok tries → Waits own tries 0 r deeds →
      Awaits own (r.mapError unready) deeds

theorem Awaits.isWatch {r : Except Failure Unit} (awaits : Awaits own r deeds) :
    ∀ deed ∈ deeds, deed.isWatch = true := by
  cases awaits with
  | uncounted _ => exact List.forall_mem_nil _
  | counted _ waits => exact waits.isWatch

/-- **What a start does**, with the process of before and of after. -/
inductive Starts (own : OwnNode) :
    Option Nat → Except Failure Unit → List (Deed T) → Option Nat → Prop
  | owned (process : Nat) : Starts own (some process) (.ok ()) [] (some process)
  | reached {request : Request} {answer : Except Failure Reply} {json : Json} :
      own.IsProbe request → Node.answered own.node.url answer = .ok json →
      Starts own none (.ok ()) [.requested request answer] none
  | misread {request : Request} {answer : Except Failure Reply} {e : Failure} :
      own.IsProbe request → Node.answered own.node.url answer = .error e →
      e.isUnreachable = false → Starts own none (.error e) [.requested request answer] none
  | off {probe : Deed T} : own.Unreached probe → own.autostart.isVoid = true →
      Starts own none (.ok ()) [probe, .noted (.autostartIsOff own.node.url)] none
  | wordless {probe : Deed T} {e : Failure} : own.Unreached probe →
      own.autostart.isVoid = false → own.words = .error e → Starts own none (.error e) [probe] none
  | unlaunched {probe : Deed T} {words : List String} (e : Failure) : own.Unreached probe →
      own.autostart.isVoid = false → own.words = .ok words →
      Starts own none (.error (own.unlaunched e))
        [probe, .noted (.starting words), .spawned words (.error e)] none
  | launched {probe : Deed T} {words : List String} (process : Nat) {r : Except Failure Unit}
      {deeds : List (Deed T)} : own.Unreached probe →
      own.autostart.isVoid = false → own.words = .ok words → Awaits own r deeds →
      Starts own none r
        (probe :: .noted (.starting words) :: .spawned words (.ok process) :: deeds) (some process)

end

/-! ## There are no other ways -/

/-- A process is asked for its exit code before its node is asked for anything. -/
theorem attempt_run (host : Host O) (owns : own.process.isSome = true) (w : World O T) :
    (probe host).run (own, w) = match (ask host.poll).run w with
      | (.error e, mid) => (.error e, (own, mid))
      | (.ok (some code), mid) => (.error (own.exited code), (own, mid))
      | (.ok none, mid) =>
        (byNode (Node.call host "eth_accounts" (.arr [])) >>= fun _ => pure ()).run (own, mid) := by
  simp only [probe, Act.run_bind, Act.run_get, owns, if_true, inWorld, Act.run_zoom]
  obtain ⟨answer, mid⟩ := (ask host.poll).run w
  cases answer with
  | error e => rfl
  | ok code? =>
    cases code? with
    | some code => rfl
    | none => exact Act.run_bind _ _ _

/-- A process is started with the words of the command. -/
theorem launch_run (host : Host O) (own : OwnNode) (w : World O T) : (launch host).run (own, w) =
    match own.words with
    | .error e => (.error e, (own, w))
    | .ok words =>
      let begun := (record (.spawned words)).run ((note (.starting words)).run w).2
      match (ask (host.spawn words)).run begun.2 with
      | (.error e, w') => (.error (own.unlaunched e), (own, w'))
      | (.ok process, w') => (.ok (), ({ own with process := some process }, w')) := by
  simp only [launch, Act.run_bind, Act.run_get, Act.run_ofExcept, words]
  cases own.argumentsOf >>= fun arguments => arguments.mapM Json.asText with
  | error e => rfl
  | ok words =>
    simp only [inWorld, Act.run_zoom, note, record, Act.run_ofRun, Act.run_attempt]
    obtain ⟨answer, w'⟩ := (ask (host.spawn words)).run _
    cases answer with
    | ok process => rfl
    | error e =>
      simp only [unlaunched]
      split <;> rfl

/-- A process is interrupted, and killed if it does not end in time. -/
theorem stop_run (host : Host O) {process : Nat} (owns : own.process = some process)
    (w : World O T) :
    (stop host).run (own, w) =
      let told := (record .interrupted).run ((note (.stopping process)).run w).2
      match (ask (host.wait (some grace))).run ((record (.awaited (some grace))).run told.2).2 with
      | (.error e, w') => (.error e, (own, w'))
      | (.ok true, w') => (.ok (), ({ own with process := none }, w'))
      | (.ok false, w') =>
        let killed := (record .killed).run w'
        match (ask (host.wait none)).run ((record (.awaited none)).run killed.2).2 with
        | (.error e, w'') => (.error e, (own, w''))
        | (.ok _, w'') => (.ok (), ({ own with process := none }, w'')) := by
  rw [stop, Act.run_bind_ok (Act.run_get (own, w))]
  simp only [owns, Act.run_bind, inWorld, Act.run_zoom, note, record, Act.run_ofRun]
  generalize (ask (host.wait (some grace))).run _ = answered
  obtain ⟨answer, w'⟩ := answered
  cases answer with
  | error e => rfl
  | ok ended =>
    cases ended with
    | true => rfl
    | false =>
      simp only [Bool.not_false, if_true, Act.run_bind, Act.run_zoom, Act.run_ofRun]
      generalize (ask (host.wait none)).run _ = answered
      obtain ⟨answer, w''⟩ := answered
      cases answer <;> rfl

variable [Duration T]

/-- From one state to another by some deeds, with a result. -/
structure Ran {α : Type} (host : Host O) (act : Act (At O T) α) (s : At O T)
    (r : Except Failure α) (deeds : List (Deed T)) (t : At O T) : Prop where
  run : act.run s = (r, t)
  does : DoesAll host s.2 deeds t.2
  same : Same s.1 t.1

/-- The node is asked whether it is there. -/
theorem probe_run (host : Host O) (own : OwnNode) (w : World O T) : ∃ request answer w' own',
    own.IsProbe request ∧ Same own own' ∧ own'.process = own.process ∧
    Does host w (.requested request answer) w' ∧
    (byNode (Node.call host "eth_accounts" (.arr []))).run (own, w) =
      (Node.answered own.node.url answer, (own', w')) := by
  obtain ⟨answer, w', does, called⟩ :=
    Node.call_run host "eth_accounts" (.arr []) (own.node, w)
  refine ⟨_, answer, w', { own with node := { own.node with calls := own.node.calls + 1 } },
    ⟨_, rfl⟩, ⟨rfl, rfl, rfl, rfl, rfl⟩, rfl, does, ?_⟩
  simp only [byNode, Act.run_zoom, called]

theorem attempt_ran (host : Host O) (owns : own.process.isSome = true) (w : World O T) :
    ∃ r deeds t, Attempt own r deeds ∧ t.1.process = own.process ∧
      Ran host (probe host) (own, w) r deeds t := by
  have polled := does_poll host w
  have begins := attempt_run host owns w
  generalize (ask host.poll).run w = answered at polled begins
  obtain ⟨answer, mid⟩ := answered
  cases answer with
  | error e => exact ⟨.error e, _, (own, mid), .unpolled, rfl, begins, polled.all, .refl own⟩
  | ok code? =>
    cases code? with
    | some code => exact ⟨_, _, (own, mid), .exited code, rfl, begins, polled.all, .refl own⟩
    | none =>
      obtain ⟨request, answer, w', own', probe, same, process, does, called⟩ :=
        probe_run host own mid
      refine ⟨_, _, (own', w'), .probed answer probe, process, ?_,
        polled.all.append does.all, same⟩
      refine begins.trans ?_
      dsimp only
      rw [Act.run_bind, called]
      cases Node.answered own.node.url answer <;> rfl

/-- The pause after an attempt that did not reach the node. -/
def pause (n : Nat) : Act (At O T) Unit := inWorld (World.sleep (pauseAfter n))

/-- By induction on the attempts that are left. -/
theorem waits_ran (host : Host O) (left n : Nat) (w : World O T) (same : Same own now)
    (owns : now.process.isSome = true) : ∃ r deeds t, Waits own left n (r.map fun _ => ()) deeds ∧
      t.1.process = now.process ∧
      Ran host (retryFrom Failure.isUnreachable pause (probe host) left n) (now, w) r deeds t := by
  induction left generalizing n w now with
  | zero => exact ⟨.ok none, [], (now, w), .never, rfl, rfl, .nil w, .refl now⟩
  | succ left ih =>
    obtain ⟨r, deeds, t, attempt, process, ran⟩ := attempt_ran host owns w
    have attempt := same.attempt attempt
    have tried : (Act.attempt (probe host)).run (now, w) = (.ok r, t) := by
      rw [Act.run_attempt, ran.run]
    cases r with
    | ok _ =>
      refine ⟨.ok (some ()), deeds, t, .last attempt nofun, process, ?_, ran.does, ran.same⟩
      exact Act.run_bind_ok tried
    | error e =>
      cases again : e.isUnreachable && left != 0 with
      | false =>
        refine ⟨.error e, deeds, t, .last attempt ?_, process, ?_, ran.does, ran.same⟩
        · rintro _ ⟨⟩
          simpa only [Bool.and_eq_false_iff, bne_eq_false_iff_eq] using again
        · refine (Act.run_bind_ok tried).trans ?_
          simp only [again]
          rfl
      | true =>
        simp only [Bool.and_eq_true, bne_iff_ne] at again
        obtain ⟨r, more, u, waits, process', later⟩ :=
          ih (n + 1) ((World.sleep (pauseAfter n)).run t.2).2 (same.trans ran.same)
            (process ▸ owns)
        refine ⟨r, _, u, .again attempt again.1 again.2 waits, process'.trans process, ?_,
          ran.does.append (.cons (does_sleep host (pauseAfter n) t.2) later.does),
          ran.same.trans later.same⟩
        have passes : (e.isUnreachable && left != 0) = true := by simp [again]
        refine (Act.run_bind_ok tried).trans ?_
        simp only [passes, if_true]
        exact (Act.run_bind_ok rfl).trans later.run

/-- A process that was started is looked after as often as is set. -/
theorem awaits_ran (host : Host O) (w : World O T) (same : Same own now)
    (owns : now.process.isSome = true) :
    ∃ r deeds t, Awaits own r deeds ∧ t.1.process = now.process ∧
      Ran host (awaitAnswer host) (now, w) r deeds t := by
  cases counted : Patience.triesOf now.tries with
  | error e =>
    refine ⟨.error e, [], (now, w), .uncounted (same.tries ▸ counted), rfl, ?_, .nil w, .refl now⟩
    simp only [awaitAnswer, Act.run_bind, Act.run_get, Act.run_ofExcept, counted]
  | ok tries =>
    obtain ⟨r, deeds, t, waits, process, ran⟩ := waits_ran host tries 0 w same owns
    refine ⟨_, deeds, t, .counted (same.tries ▸ counted) waits, process, ?_, ran.does, ran.same⟩
    let patience : Patience T := .usual tries
    have tried : (retryFrom Failure.isUnreachable
        (fun n => Act.ofExcept (patience.pause n) >>= fun time => inWorld (sleep time))
        (probe host) patience.tries 0).run (now, w) = (r, t) := ran.run
    simp only [awaitAnswer, Act.run_bind, Act.run_get, Act.run_ofExcept, counted, Act.run_attempt,
      patience] at tried ⊢
    rw [tried]
    cases r <;> rfl

/-- A process is launched, and then looked after. It is owned from the moment it is there. -/
theorem launched_ran (host : Host O) {probe : Deed T} (unreached : Unreached own probe)
    (on : own.autostart.isVoid = false) (same : Same own now) (idle : now.process = none)
    (w : World O T) : ∃ r deeds t, Starts own none r (probe :: deeds) t.1.process ∧
      Ran host (launch host >>= fun _ => awaitAnswer host) (now, w) r deeds t := by
  have begins := launch_run host now w
  rw [same.words] at begins
  cases worded : own.words with
  | error e =>
    rw [worded] at begins
    refine ⟨.error e, [], (now, w), ?_, Act.run_bind_error begins, .nil w, .refl now⟩
    rw [idle]
    exact .wordless unreached on worded
  | ok words =>
    rw [worded] at begins
    have noted := does_note host (.starting words) w
    have spawned := does_spawn host words ((note (.starting words)).run w).2
    dsimp only at begins spawned
    generalize (ask (host.spawn words)).run _ = answered at begins spawned
    obtain ⟨answer, w'⟩ := answered
    have begun : DoesAll host w [.noted (.starting words), .spawned words answer] w' :=
      .cons noted spawned.all
    cases answer with
    | error e =>
      refine ⟨_, _, (now, w'), ?_, Act.run_bind_error begins, begun, .refl now⟩
      rw [idle, same.unlaunched]
      exact .unlaunched e unreached on worded
    | ok process =>
      have owner : Same own { now with process := some process } :=
        ⟨same.url, same.command, same.arguments, same.autostart, same.tries⟩
      obtain ⟨r, deeds, t, awaits, kept, ran⟩ := awaits_ran host w' owner rfl
      refine ⟨r, _, t, ?_, (Act.run_bind_ok begins).trans ran.run, begun.append ran.does,
        ⟨ran.same.url, ran.same.command, ran.same.arguments, ran.same.autostart, ran.same.tries⟩⟩
      rw [kept]
      exact .launched process unreached on worded awaits

/-- A node that has a process is not started again. -/
theorem start_again (host : Host O) {process : Nat} (owns : own.process = some process)
    (w : World O T) : (start host).run (own, w) = (.ok (), (own, w)) := by
  simp only [start, Act.run_bind, Act.run_get, owns]
  rfl

/-- A node without a process is asked whether it is there. -/
theorem start_run (host : Host O) (idle : own.process = none) (w : World O T) :
    (start host).run (own, w) = match (byNode (Node.isListening host)).run (own, w) with
      | (.error e, t) => (.error e, t)
      | (.ok true, t) => (.ok (), t)
      | (.ok false, t) => (if t.1.autostart.isVoid then
            inWorld (note (.autostartIsOff t.1.node.url))
          else launch host >>= fun _ => awaitAnswer host).run t := by
  rw [start, Act.run_bind_ok (Act.run_get (own, w))]
  simp only [idle, Option.isSome_none, Bool.false_eq_true, if_false]
  rw [Act.run_bind]
  obtain ⟨r, t⟩ := (byNode (Node.isListening host)).run (own, w)
  cases r with
  | error e => rfl
  | ok there => cases there <;> rfl

/-- **What a start does**, to a node and to every other one that is the same. -/
theorem start_ran (host : Host O) (same : Same own now) (w : World O T) : ∃ r deeds t,
    Starts own now.process r deeds t.1.process ∧ Ran host (start host) (now, w) r deeds t := by
  cases owns : now.process with
  | some process =>
    refine ⟨.ok (), [], (now, w), ?_, start_again host owns w, .nil w, .refl now⟩
    rw [owns]
    exact .owned process
  | none =>
    obtain ⟨answer, w', does, listened⟩ := Node.isListening_run host (now.node, w)
    let asked : OwnNode := { now with node := { now.node with calls := now.node.calls + 1 } }
    have kept : Same now asked := ⟨rfl, rfl, rfl, rfl, rfl⟩
    have idle : asked.process = none := owns
    have probe : own.IsProbe (.post now.node.url
        (Node.bodyOf "eth_accounts" (.arr []) (now.node.calls + 1))) := ⟨_, by rw [same.url]⟩
    have begins := start_run host owns w
    have heard : (byNode (Node.isListening host)).run (now, w) =
        (Node.listens own.node.url answer, (asked, w')) := by
      simp only [byNode, Act.run_zoom, listened, asked, same.url]
    rw [heard] at begins
    cases answered : Node.answered own.node.url answer with
    | ok json =>
      simp only [Node.listens, answered] at begins
      refine ⟨.ok (), _, (asked, w'), ?_, begins, does.all, kept⟩
      rw [idle]
      exact .reached probe answered
    | error e =>
      simp only [Node.listens, answered] at begins
      cases unreachable : e.isUnreachable with
      | false =>
        simp only [unreachable, Bool.false_eq_true, if_false] at begins
        refine ⟨.error e, _, (asked, w'), ?_, begins, does.all, kept⟩
        rw [idle]
        exact .misread probe answered unreachable
      | true =>
        simp only [unreachable, if_true] at begins
        have unreached : own.Unreached (T := T) (.requested _ answer) :=
          ⟨_, answer, e, rfl, probe, answered, unreachable⟩
        cases auto : own.autostart.isVoid with
        | true =>
          rw [show asked.autostart = own.autostart from same.autostart, auto, if_pos rfl,
            show asked.node.url = own.node.url from same.url] at begins
          refine ⟨.ok (), _, (asked, _), ?_, begins,
            .cons does (does_note host (.autostartIsOff own.node.url) w').all, kept⟩
          rw [idle]
          exact .off unreached auto
        | false =>
          rw [show asked.autostart = own.autostart from same.autostart, auto,
            if_neg Bool.false_ne_true] at begins
          obtain ⟨r, deeds, t, starts, ran⟩ :=
            launched_ran host unreached auto (same.trans kept) idle w'
          exact ⟨r, _, t, starts, begins.trans ran.run, .cons does ran.does, kept.trans ran.same⟩

/-- **What a stop does.** -/
theorem stop_ran (host : Host O) (own : OwnNode) (w : World O T) : ∃ r deeds t,
    Stops own.process r deeds t.1.process ∧ Ran host (stop host) (own, w) r deeds t := by
  cases owns : own.process with
  | none =>
    refine ⟨.ok (), [], (own, w), ?_, ?_, .nil w, .refl own⟩
    · rw [owns]
      exact .idle
    · simp only [stop, Act.run_bind, Act.run_get, owns]
      rfl
  | some process =>
    have begins := stop_run host owns w
    have noted := does_note host (.stopping process) w
    have interrupted := does_interrupt host ((note (.stopping process)).run w).2
    have awaited := does_await host (some grace)
      ((record .interrupted).run ((note (.stopping process)).run w).2).2
    dsimp only at begins awaited
    generalize (ask (host.wait (some grace))).run _ = answered at begins awaited
    obtain ⟨answer, w'⟩ := answered
    have told : DoesAll host w
        [.noted (.stopping process), .interrupted, .awaited (some grace) answer] w' :=
      .cons noted (.cons interrupted awaited.all)
    cases answer with
    | error e =>
      refine ⟨.error e, _, (own, w'), ?_, begins, told, .refl own⟩
      rw [owns]
      exact .unawaited process e
    | ok ended =>
      cases ended with
      | true =>
        exact ⟨.ok (), _, ({ own with process := none }, w'), .inTime process, begins, told,
          ⟨rfl, rfl, rfl, rfl, rfl⟩⟩
      | false =>
        have killed := does_kill host w'
        have again := does_await host none ((record .killed).run w').2
        dsimp only at begins again
        generalize (ask (host.wait none)).run _ = answered at begins again
        obtain ⟨answer, w''⟩ := answered
        have ends := told.append (.cons killed again.all)
        cases answer with
        | error e =>
          refine ⟨.error e, _, (own, w''), ?_, begins, ends, .refl own⟩
          rw [owns]
          exact .unended process e
        | ok ended =>
          exact ⟨.ok (), _, ({ own with process := none }, w''), .killed process ended, begins,
            ends, ⟨rfl, rfl, rfl, rfl, rfl⟩⟩

/-! ## What is left of a start -/

variable {before after : Option Nat} {r : Except Failure Unit}

/-- **A start owns what runs after it.** -/
theorem Starts.running (starts : Starts own before r deeds after) :
    running before.toList deeds = after.toList := by
  cases starts with
  | owned _ | reached _ _ | misread _ _ _ => rfl
  | off unreached _ | wordless unreached _ _ | unlaunched _ unreached _ _ =>
    exact Deed.passes_of_isWatch unreached.isWatch []
  | launched process unreached _ _ awaits =>
    obtain ⟨request, answer, e, rfl, _⟩ := unreached
    exact running_of_isWatch awaits.isWatch [process]

/-- A start does not end anything. -/
theorem Starts.isEnd (starts : Starts own before r deeds after) :
    ∀ deed ∈ deeds, deed.isEnd = false := by
  cases starts with
  | owned _ => exact List.forall_mem_nil _
  | reached _ _ | misread _ _ _ => simp [Deed.isEnd]
  | off unreached _ | wordless unreached _ _ | unlaunched _ unreached _ _ =>
    obtain ⟨request, answer, e, rfl, _⟩ := unreached
    simp [Deed.isEnd]
  | launched process unreached _ _ awaits =>
    obtain ⟨request, answer, e, rfl, _⟩ := unreached
    have watched := fun deed among => Deed.isEnd_of_isWatch (awaits.isWatch deed among)
    exact List.forall_mem_cons.mpr ⟨rfl, List.forall_mem_cons.mpr ⟨rfl,
      List.forall_mem_cons.mpr ⟨rfl, watched⟩⟩⟩

/-- **A start that fails leaves no process behind if it started none**, and only then. -/
theorem Starts.none_iff {e : Failure} (starts : Starts own before (.error e) deeds after) :
    after = none ↔ ∀ words process, .spawned words (.ok process) ∉ deeds := by
  cases starts with
  | misread _ _ _ => simp
  | wordless unreached _ _ | unlaunched _ unreached _ _ =>
    obtain ⟨request, answer, e, rfl, _⟩ := unreached
    simp
  | @launched _ words process _ _ _ _ _ _ =>
    refine ⟨nofun, fun none => absurd ?_ (none words process)⟩
    simp

/-- A later start does nothing if there is a process. If there is none, it begins with a probe. -/
def Resumes (host : Host O) (own : OwnNode) (later : World O T) : Prop :=
  match own.process with
  | some _ => (start host).run (own, later) = (.ok (), (own, later))
  | none => ∃ request answer more r t, own.IsProbe request ∧
    Ran host (start host) (own, later) r (.requested request answer :: more) t

theorem resumes (host : Host O) (own : OwnNode) (later : World O T) : Resumes host own later := by
  rw [Resumes]
  cases owns : own.process with
  | some process => exact start_again host owns later
  | none =>
    obtain ⟨r, deeds, t, starts, ran⟩ := start_ran host (.refl own) later
    rw [owns] at starts
    generalize t.1.process = after at starts
    cases starts with
    | reached probe _ | misread probe _ _ => exact ⟨_, _, _, _, t, probe, ran⟩
    | off unreached _ | wordless unreached _ _ | unlaunched _ unreached _ _
    | launched _ unreached _ _ _ =>
      obtain ⟨request, answer, _, rfl, probe, _⟩ := unreached
      exact ⟨request, answer, _, _, t, probe, ran⟩

/-- **What is left of a start.** It ends nothing. If it fails, and no process was started for it,
there is none, and a later start begins anew. But if its process ends or its node does not answer as
often as it is asked, it fails with the process still there, and no later start does anything. -/
theorem start_leaves (host : Host O) (own : OwnNode) (w : World O T) :
    ∃ (r : Except Failure Unit) (deeds : List (Deed T)) (t : At O T),
    Ran host (start host) (own, w) r deeds t ∧
    Starts own own.process r deeds t.1.process ∧
    running own.process.toList deeds = t.1.process.toList ∧
    (∀ deed ∈ deeds, deed.isEnd = false) ∧
    ((∀ e, r = .error (.deployFailed e) → t.1.process = none) ↔
      ∀ e, r = .error (.deployFailed e) → ∀ words process, .spawned words (.ok process) ∉ deeds) ∧
    ∀ later : World O T, Resumes host t.1 later := by
  obtain ⟨r, deeds, t, starts, ran⟩ := start_ran host (.refl own) w
  refine ⟨r, deeds, t, ran, starts, starts.running, starts.isEnd, ?_, resumes host t.1⟩
  constructor
  · rintro clean e rfl
    exact starts.none_iff.mp (clean e rfl)
  · rintro unspawned e rfl
    exact starts.none_iff.mpr (unspawned e rfl)

/-- A node that nobody reaches, in a process that ends at once. -/
def shortLived : Host Unit where
  compile _ _ := throw .unsupported
  request _ := throw (.outside .connection "refused")
  spawn _ := pure 1234
  poll := pure (some 1)
  wait _ := pure true
  installable := []

def anvil : OwnNode where
  node := { url := "http://fake:8545" }
  command := "anvil --silent"
  arguments := []
  autostart := .bool true

/-- A process that has ended stays the node's own, without an interrupt, and the next start is
silent. -/
theorem start_leaves_exited :
    let own : OwnNode := { anvil with node := { anvil.node with calls := 1 }, process := some 1234 }
    let w : World Unit Rat := ⟨(), .empty, 0, [], [],
      [.requested (.post "http://fake:8545" (Node.bodyOf "eth_accounts" (.arr []) 1)),
        .noted (.starting ["anvil", "--silent"]), .spawned ["anvil", "--silent"]]⟩
    (start shortLived).run (anvil, ⟨(), .empty, 0, [], [], []⟩) =
      (.error (.deployFailed { message := "`anvil --silent` exited with code 1" }), (own, w)) ∧
    own.process ≠ none ∧ (start shortLived).run (own, w) = (.ok (), (own, w)) :=
  ⟨rfl, nofun, rfl⟩

end OwnNode

end SolidityRepl
