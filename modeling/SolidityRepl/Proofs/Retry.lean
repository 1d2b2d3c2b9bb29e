import Mathlib.Data.Rat.Defs
import SolidityRepl.Proofs.Node.Process

/-!
# What trying again comes to

Something that is tried again comes to what its last try came to: the tries before failed in ways
that may pass, with one pause after each of them, and nothing follows the last one. But what is not
tried at all comes to nothing, which is no failure either. So a node that is never probed passes for
one that answers.
-/

namespace SolidityRepl

/-- A failure after which something is tried again. -/
def MayPass {α : Type} (mayPass : Failure → Bool) (answer : Except Failure α) : Prop :=
  ∃ e, answer = .error e ∧ mayPass e = true

section

variable {W α : Type} {mayPass : Failure → Bool} {attempt : Act W α}

/-- A try after which there is no other. -/
theorem retryFrom_ends {left : Nat} (pause : Nat → Act W Unit) (n : Nat) {s : W}
    (ends : MayPass mayPass (attempt.run s).1 → left = 0) :
    (retryFrom mayPass pause attempt (left + 1) n).run s =
      ((attempt.run s).1.map some, (attempt.run s).2) := by
  have tried := Act.run_attempt attempt s
  rw [retryFrom, Act.run_bind_ok tried]
  cases came : (attempt.run s).1 with
  | ok a => rfl
  | error e =>
    have stop : (mayPass e && left != 0) = false := by
      cases passes : mayPass e with
      | false => rfl
      | true => rw [ends ⟨e, came, passes⟩]; rfl
    dsimp only
    rw [stop]
    rfl

/-- A try after which there is another one. -/
theorem retryFrom_again {left : Nat} {pause : Nat → Act W Unit}
    (pauses : ∀ n s, ((pause n).run s).1 = .ok ()) (n : Nat) {s : W}
    (again : MayPass mayPass (attempt.run s).1) (more : left ≠ 0) :
    (retryFrom mayPass pause attempt (left + 1) n).run s =
      (retryFrom mayPass pause attempt left (n + 1)).run ((pause n).run (attempt.run s).2).2 := by
  obtain ⟨e, came, passes⟩ := again
  have tried := Act.run_attempt attempt s
  have go : (mayPass e && left != 0) = true := by simp [passes, more]
  have paused : (pause n).run (attempt.run s).2 = (.ok (), ((pause n).run (attempt.run s).2).2) :=
    Prod.ext (pauses n _) rfl
  rw [retryFrom, Act.run_bind_ok tried, came]
  dsimp only
  rw [go, if_pos rfl]
  exact Act.run_bind_ok paused

/-- **What is tried again comes to what the last try came to**, by induction on the tries before the
last one. -/
theorem retryFrom_run {pause : Nat → Act W Unit} (pauses : ∀ n s, ((pause n).run s).1 = .ok ())
    {left last : Nat} (n : Nat) (s : W)
    (h : IsLast (MayPass mayPass) (fun i => (Act.nth attempt (fun i => pause (n + i)) s i).1)
      left last) :
    (retryFrom mayPass pause attempt left n).run s =
      ((Act.nth attempt (fun i => pause (n + i)) s last).1.map some,
        (Act.nth attempt (fun i => pause (n + i)) s last).2) := by
  induction last generalizing left n s with
  | zero =>
    cases left with
    | zero => exact absurd h.lt (Nat.lt_irrefl 0)
    | succ left => exact retryFrom_ends pause n fun more => (Nat.succ.inj (h.ends more)).symm
  | succ last ih =>
    cases left with
    | zero => exact absurd h.lt (Nat.not_lt_zero _)
    | succ left =>
      have later : ∀ i, Act.nth attempt (fun i => pause (n + i)) s (i + 1) =
          Act.nth attempt (fun i => pause (n + 1 + i)) ((pause n).run (attempt.run s).2).2 i := by
        intro i
        rw [Act.nth_succ]
        simp only [Nat.add_zero, Nat.add_assoc, Nat.add_comm 1]
      have first : MayPass mayPass (attempt.run s).1 := h.before 0 (Nat.succ_pos last)
      have rest := h.tail
      simp only [later] at rest ⊢
      rw [retryFrom_again pauses n first (Nat.ne_zero_of_lt rest.lt)]
      exact ih (n + 1) _ rest

end

/-- Pauses that grow by a factor are as many thousandths of a second as the power of it says. -/
theorem retry_growing {O α : Type} (mayPass : Failure → Bool) (tries : Nat) (backoff factor : Rat)
    (attempt : Act (World O Rat) α) : retry mayPass (.growing tries backoff factor) attempt =
      retryFrom mayPass (fun i => World.sleep (backoff * factor ^ i / 1000)) attempt tries 0 := by
  have pauses (i : Nat) : (Patience.growing tries backoff factor).pause i =
      .ok (backoff * factor ^ i / 1000) := by
    rw [← show (Duration.ofInt 1000 : Rat) = 1000 from Duration.ofInt_rat 1000]
    rfl
  rw [retry]
  simp only [pauses]
  rfl

/-! ## Nodes that are waited for -/

namespace OwnNode

open World

variable {O T : Type} [Duration T] {host : Host O} {own now : OwnNode} {tries : Nat}

/-- Some deeds end with a probe that the node has answered. -/
def EndsHeard (own : OwnNode) (deeds : List (Deed T)) : Prop :=
  ∃ front request answer json, deeds = front ++ [.requested request answer] ∧
    own.IsProbe request ∧ Node.answered own.node.url answer = .ok json

/-- What was done between two worlds ended with a probe that the node has answered. -/
def Heard (host : Host O) (own : OwnNode) (w w' : World O T) : Prop :=
  ∃ deeds, DoesAll host w deeds w' ∧ own.EndsHeard deeds

/-- Without a deed nothing is heard. -/
theorem not_heard (host : Host O) (own : OwnNode) (w : World O T) : ¬ Heard host own w w := by
  rintro ⟨_, does, front, request, answer, json, rfl, -, -⟩
  have lengths := congrArg List.length does.journal
  rw [List.filterMap_append, List.length_append, List.length_append] at lengths
  simp [Deed.event?] at lengths

omit [Duration T] in
/-- A node that has no process is asked at once. -/
theorem probe_idle (host : Host O) (idle : own.process = none) (w : World O T) :
    (probe host).run (own, w) =
      (byNode (Node.call host "eth_accounts" (.arr [])) >>= fun _ => pure ()).run (own, w) := by
  rw [probe, Act.run_bind_ok (Act.run_get (own, w))]
  simp only [idle, Option.isSome_none, Bool.false_eq_true, if_false]

/-- **A probe that succeeds was answered**, whether the node has a process or not. -/
theorem probe_ran (host : Host O) (same : Same own now) (w : World O T) : ∃ r deeds t,
    Ran host (probe host) (now, w) r deeds t ∧ (r = .ok () → own.EndsHeard deeds) := by
  cases owns : now.process with
  | some process =>
    obtain ⟨r, deeds, t, attempt, -, ran⟩ := attempt_ran host (Option.isSome_of_eq_some owns) w
    refine ⟨r, deeds, t, ran, fun ok => ?_⟩
    cases same.attempt attempt with
    | unpolled | exited _ => cases ok
    | @probed request answer probe =>
      cases heard : Node.answered own.node.url answer with
      | ok json => exact ⟨[.polled (.ok none)], request, answer, json, rfl, probe, heard⟩
      | error e =>
        rw [heard] at ok
        cases ok
  | none =>
    obtain ⟨request, answer, w', own', probe, same', -, does, called⟩ := probe_run host now w
    refine ⟨(Node.answered now.node.url answer).map fun _ => (), [.requested request answer],
      (own', w'), ⟨?_, does.all, same'⟩, fun ok => ?_⟩
    · rw [probe_idle host owns, Act.run_bind, called]
      cases Node.answered now.node.url answer <;> rfl
    · cases heard : Node.answered now.node.url answer with
      | ok json =>
        rw [IsProbe, same.url] at probe
        exact ⟨[], request, answer, json, rfl, probe, same.url ▸ heard⟩
      | error e =>
        rw [heard] at ok
        cases ok

/-- What is done up to a probe, by induction on the probes before it. -/
theorem turn_ran (host : Host O) (own : OwnNode) (w : World O T) (n : Nat) :
    ∃ deeds, DoesAll host w deeds (Act.turn (probe host) pause (own, w) n).2 ∧
      Same own (Act.turn (probe host) pause (own, w) n).1 := by
  induction n with
  | zero => exact ⟨[], .nil w, .refl own⟩
  | succ n ih =>
    obtain ⟨deeds, does, same⟩ := ih
    obtain ⟨r, more, t, ran, -⟩ := probe_ran host same (Act.turn (probe host) pause (own, w) n).2
    rw [Act.turn, ran.run]
    exact ⟨deeds ++ (more ++ [.slept (pauseAfter n)]),
      does.append (ran.does.append (does_sleep host (pauseAfter n) t.2).all), same.trans ran.same⟩

/-- A probe that succeeds, however many there were before, was answered. -/
theorem heard_of_nth {w : World O T} {n : Nat}
    (ok : (Act.nth (probe host) pause (own, w) n).1 = .ok ()) :
    Heard host own w (Act.nth (probe host) pause (own, w) n).2.2 := by
  obtain ⟨deeds, does, same⟩ := turn_ran host own w n
  obtain ⟨r, more, t, ran, heard⟩ := probe_ran host same (Act.turn (probe host) pause (own, w) n).2
  rw [Act.nth, ran.run] at ok ⊢
  obtain ⟨front, request, answer, json, rfl, probe, answered⟩ := heard ok
  exact ⟨deeds ++ (front ++ [.requested request answer]), does.append ran.does,
    deeds ++ front, request, answer, json, (List.append_assoc _ _ _).symm, probe, answered⟩

/-- A node is waited for by probing it as often as is set. -/
theorem awaitAnswer_run (counted : Patience.triesOf own.tries = .ok tries) (w : World O T) :
    (awaitAnswer host).run (own, w) =
      let tried := (retryFrom Failure.isUnreachable pause (probe host) tries 0).run (own, w)
      ((tried.1.map fun _ => ()).mapError unready, tried.2) := by
  let patience : Patience T := .usual tries
  have tried : (retryFrom Failure.isUnreachable
      (fun n => Act.ofExcept (patience.pause n) >>= fun time => inWorld (sleep time))
      (probe host) patience.tries 0).run (own, w) =
      (retryFrom Failure.isUnreachable pause (probe host) tries 0).run (own, w) := rfl
  simp only [awaitAnswer, Act.run_bind, Act.run_get, Act.run_ofExcept, counted, Act.run_attempt,
    patience] at tried ⊢
  rw [tried]
  cases ((retryFrom Failure.isUnreachable pause (probe host) tries 0).run (own, w)).1 <;> rfl

/-- A node that is waited for, and probed, has answered when it is waited for no more. -/
theorem heard_of_probed {w : World O T} {t : At O T}
    (counted : Patience.triesOf own.tries = .ok tries) (probed : tries ≠ 0)
    (returned : (awaitAnswer host).run (own, w) = (.ok (), t)) : Heard host own w t.2 := by
  obtain ⟨last, h⟩ := IsLast.exists_of_pos (MayPass Failure.isUnreachable)
    (fun i => (Act.nth (probe host) (fun i => pause (0 + i)) (own, w) i).1) probed
  have run := retryFrom_run (fun _ _ => rfl) 0 (own, w) h
  simp only [Nat.zero_add] at run
  rw [awaitAnswer_run counted, run] at returned
  have ends := congrArg Prod.snd returned
  dsimp only at ends
  rw [← ends]
  refine heard_of_nth ?_
  cases came : (Act.nth (probe host) pause (own, w) last).1 with
  | ok _ => rfl
  | error e =>
    rw [came] at returned
    cases congrArg Prod.fst returned

/-- **A node is taken to answer without having done so** just if it is never probed. -/
theorem unheard_iff (host : Host O) (own : OwnNode) (w : World O T) :
    (∃ t, (awaitAnswer host).run (own, w) = (.ok (), t) ∧ ¬ Heard host own w t.2) ↔
      Patience.triesOf own.tries = .ok 0 := by
  constructor
  · rintro ⟨t, returned, unheard⟩
    cases counted : Patience.triesOf own.tries with
    | error e =>
      simp only [awaitAnswer, Act.run_bind, Act.run_get, Act.run_ofExcept, counted] at returned
      cases returned
    | ok tries =>
      by_contra tried
      exact unheard (heard_of_probed counted (fun none => tried (none ▸ rfl)) returned)
  · intro counted
    exact ⟨(own, w), awaitAnswer_run counted w, not_heard host own w⟩

end OwnNode

/-- **Something that is tried again comes to what its last try came to, if it is tried at all.**
Each try before the last one failed in a way that may pass, and was followed by one pause; after the
last one nothing is done. What is not tried returns nothing, and a node that is not probed passes
for one that answers. -/
theorem retry_last_iff {O T α : Type} [Duration T] (mayPass : Failure → Bool) (tries : Nat)
    (backoff factor : Rat) (attempt : Act (World O Rat) α) (w : World O Rat) :
    let nth := Act.nth attempt (fun i => World.sleep (backoff * factor ^ i / 1000)) w
    let retried := (retry mayPass (.growing tries backoff factor) attempt).run w
    ((∃ last, IsLast (MayPass mayPass) (fun i => (nth i).1) tries last ∧
        retried = ((nth last).1.map some, (nth last).2)) ↔ tries ≠ 0) ∧
      (tries = 0 → retried = (.ok none, w)) ∧
      ∀ (host : Host O) (own : OwnNode) (u : World O T),
        (∃ t, (OwnNode.awaitAnswer host).run (own, u) = (.ok (), t) ∧
          ¬ OwnNode.Heard host own u t.2) ↔ Patience.triesOf own.tries = .ok 0 := by
  intro nth retried
  have tried : retried = (retryFrom mayPass
      (fun i => World.sleep (backoff * factor ^ i / 1000)) attempt tries 0).run w := by
    rw [← retry_growing]
  refine ⟨⟨?_, fun pos => ?_⟩, ?_, OwnNode.unheard_iff⟩
  · rintro ⟨last, h, -⟩
    exact Nat.ne_zero_of_lt h.lt
  · obtain ⟨last, h⟩ := IsLast.exists_of_pos (MayPass mayPass) (fun i => (nth i).1) pos
    have run := @retryFrom_run (World O Rat) α mayPass attempt
      (fun i => World.sleep (backoff * factor ^ i / 1000)) (fun _ _ => rfl) tries last 0 w
    simp only [Nat.zero_add] at run
    exact ⟨last, h, tried.trans (run h)⟩
  · rintro rfl
    exact tried

namespace OwnNode

/-- A node that nobody reaches, in a process that runs. -/
def unreached : Host Unit := { shortLived with poll := pure none }

/-- A node that is not to be probed passes for started: the only request is the one that did not
reach it before there was a process. -/
theorem start_unprobed :
    let own : OwnNode := { anvil with tries := .int 0 }
    let started : OwnNode := { own with node := { own.node with calls := 1 }, process := some 1234 }
    let w : World Unit Rat := ⟨(), .empty, 0, [], [],
      [.requested (.post "http://fake:8545" (Node.bodyOf "eth_accounts" (.arr []) 1)),
        .noted (.starting ["anvil", "--silent"]), .spawned ["anvil", "--silent"]]⟩
    (start unreached).run (own, ⟨(), .empty, 0, [], [], []⟩) = (.ok (), (started, w)) ∧
      (awaitAnswer unreached).run (started, w) = (.ok (), (started, w)) ∧
      ¬ Heard unreached started w w :=
  ⟨rfl, rfl, not_heard unreached _ _⟩

end OwnNode

end SolidityRepl
