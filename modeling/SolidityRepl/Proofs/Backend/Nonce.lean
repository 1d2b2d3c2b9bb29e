import SolidityRepl.Proofs.Backend.Results

/-!
# The contracts of the simulated chain

All contracts of the simulated chain are made by its first account. It takes the address of its next
contract before anything can fail, so that the contracts that it tried to make since the chain was
started are numbered by its nonce, whatever the engine does with their code.

* `Engine.IsModest`: an engine that leaves the nonces of the accounts alone;
* `Simulator.Makes`: one contract, made or not, at the address that it was to have;
* `call_leaves`: a call leaves the chain as it was, on every engine;
* `Simulator.Goes`: what a demand does to a simulator, and the contracts since its start;
* `Backend.simulated_history`: a backend with a simulator after some demands.
-/

namespace SolidityRepl

/-! ## Accounts -/

namespace Evm

theorem lookup_filter_ne (accounts : Accounts) {a b : Address} (other : b ≠ a) :
    (accounts.filter fun e => e.1 != a).lookup b = accounts.lookup b := by
  induction accounts with
  | nil => rfl
  | cons e rest ih =>
    obtain ⟨c, account⟩ := e
    by_cases same : c = a
    · have hidden : (b == c) = false := beq_false_of_ne (same ▸ other)
      rw [List.filter_cons_of_neg (by simp [same]), ih, List.lookup_cons, hidden]
    · rw [List.filter_cons_of_pos (by simp [same]), List.lookup_cons, List.lookup_cons, ih]

theorem at_set (accounts : Accounts) (a : Address) (account : Account) (b : Address) :
    (accounts.set a account).at b = if b = a then account else accounts.at b := by
  simp only [Accounts.at, Accounts.set, List.lookup_cons]
  by_cases same : b = a
  · subst same
    simp only [beq_self_eq_true, if_true, Option.getD_some]
  · have hidden : (b == a) = false := beq_false_of_ne same
    simp only [hidden, lookup_filter_ne accounts same, if_neg same]

/-- An engine that never changes the nonce of one of the accounts, unless it makes a contract of
it. -/
def Engine.IsModest (engine : Engine) : Prop :=
  ∀ msg target gas accounts, ∀ a ∈ Simulator.owners, a ≠ target →
    (((engine.construct msg target gas).run accounts).2.at a).nonce = (accounts.at a).nonce

theorem construct_at (accounts : Accounts) (msg : Message) {target a : Address} (gas : Nat)
    (other : a ≠ target) : (construct accounts msg target gas).2.at a = accounts.at a := by
  unfold construct
  split
  · rfl
  · split
    · split
      · rfl
      · rw [at_set, if_neg other]
    · rfl

theorem machine_isModest : machine.IsModest := by
  intro msg target gas accounts a _ other
  by_cases long : longestMaker < msg.code.length
  · simp only [machine, if_pos long]
    rfl
  · simp only [machine, if_neg long]
    exact congrArg Account.nonce (construct_at accounts msg gas other)

end Evm

namespace Simulator

open Evm Chain

def maker : Address := owners.head (List.cons_ne_nil _ _)

theorem maker_mem : maker ∈ owners := List.head_mem _

variable {s t : Simulator} {accounts : Accounts}

/-! ## One contract -/

/-- A contract that was to be made: by which code, with how much gas, at which address, and what
came of it. -/
structure Creation where
  code : Bytes
  gas : Json
  target : Address
  answer : Except Failure Address

def Creation.query (c : Creation) : Query := .create maker c.code c.gas c.answer

/-- A contract is made, or is not, after its address was taken. -/
def Makes (s : Simulator) (c : Creation) (t : Simulator) : Prop :=
  ∃ mid, (reserve maker).run s = (.ok c.target, mid) ∧
    (make maker c.code c.gas c.target).run mid = (c.answer, t)

/-- The accounts after the address of the next contract was taken. -/
def reserved (accounts : Accounts) : Accounts :=
  accounts.set maker { accounts.at maker with nonce := (accounts.at maker).nonce + 1 }

theorem reserve_run (started : s.chain = some accounts) :
    (reserve maker).run s =
      (.ok (contractAddress maker (accounts.at maker).nonce),
        { s with chain := some (reserved accounts) }) := by
  simp only [reserve, running, Act.run_bind, Act.run_get, started]
  rfl

theorem byEngine_run (act : Engine → Act Accounts Evm.Outcome) (started : s.chain = some accounts) :
    (byEngine act).run s = (((act s.engine).run accounts).1,
      { s with chain := some ((act s.engine).run accounts).2 }) := by
  simp only [byEngine, running, Act.run_bind, Act.run_get, started]
  rfl

theorem unlessFailed_leaves (what : String) (outcome : Evm.Outcome) (s : Simulator) :
    ((unlessFailed what outcome).run s).2 = s := by
  cases outcome with
  | returned data => rfl
  | reverted data | trapped trap =>
    simp only [unlessFailed, Act.run_bind, Act.run_ofExcept]
    split <;> simp_all

theorem unlessFailed_then (what : String) (outcome : Evm.Outcome) (target : Address)
    (s : Simulator) :
    ((unlessFailed what outcome >>= fun _ => pure target).run s).2 = s ∧
    ∀ a, ((unlessFailed what outcome >>= fun _ => pure target).run s).1 = .ok a → a = target := by
  have left := unlessFailed_leaves what outcome s
  rw [Act.run_bind]
  cases ran : (unlessFailed what outcome).run s with
  | mk r t =>
    rw [ran] at left
    cases r with
    | error e => exact ⟨left, nofun⟩
    | ok data => exact ⟨left, fun a made => (Except.ok.inj made).symm⟩

/-- What is done to the chain when a contract is made is done by the engine, if anything is. -/
theorem make_run (code : Bytes) (gas : Json) (target : Address)
    (started : s.chain = some accounts) : ∃ after,
      ((make maker code gas target).run s).2 = { s with chain := some after } ∧
      (after = accounts ∨ ∃ msg limit,
        after = ((s.engine.construct msg target limit).run accounts).2) ∧
      ∀ a, ((make maker code gas target).run s).1 = .ok a → a = target := by
  rw [make, Act.run_bind, Act.run_ofExcept]
  cases gasOf gas with
  | error e => exact ⟨accounts, by rw [← started], .inl rfl, nofun⟩
  | ok limit =>
    have done := byEngine_run
      (fun engine => engine.construct { sender := maker, code, data := [] } target limit) started
    cases ran : (s.engine.construct { sender := maker, code, data := [] } target limit).run
        accounts with
    | mk r after =>
      have own : after = ((s.engine.construct { sender := maker, code, data := [] } target
          limit).run accounts).2 := by rw [ran]
      rw [ran] at done
      refine ⟨after, and_left_comm.mp ⟨.inr ⟨_, limit, own⟩, ?_⟩⟩
      simp only [Act.run_bind (byEngine _), done]
      cases r with
      | error e => exact ⟨rfl, nofun⟩
      | ok outcome => exact unlessFailed_then "deployment" outcome target _

/-- What is taken back leaves nothing behind. -/
theorem undone_byEngine (act : Engine → Act Accounts Evm.Outcome) (s : Simulator) :
    ((undone (byEngine act)).run s).2 = s := by
  cases started : s.chain with
  | none =>
    simp only [undone, byEngine, running, Act.run_bind, Act.run_get, started, Act.run_attempt]
    cases s
    cases started
    rfl
  | some accounts =>
    simp only [undone, Act.run_bind, Act.run_get, Act.run_attempt, byEngine_run act started,
      Act.run_modify, Act.run_ofExcept, started]
    cases s
    cases started
    rfl

/-- **A call leaves the chain as it was**, on every engine, whatever comes of it. -/
theorem call_leaves (sender target : Address) (data : Bytes) (gas : Json) (s : Simulator) :
    ((call sender target data gas).run s).2 = s := by
  cases started : s.chain with
  | none =>
    simp only [call, running, Act.run_bind, Act.run_get, started]
    rfl
  | some accounts =>
    cases limited : gasOf gas with
    | error e =>
      simp only [call, running, Act.run_bind, Act.run_get, started, Act.run_pure, Act.run_ofExcept,
        limited]
    | ok limit =>
      have left := undone_byEngine (fun engine => engine.execute
        { sender, code := (accounts.at target).code, data } target limit) s
      simp only [call, running, Act.run_bind, Act.run_get, started, Act.run_pure,
        Act.run_ofExcept, limited]
      cases ran : (undone (byEngine fun engine => engine.execute
          { sender, code := (accounts.at target).code, data } target limit)).run s with
      | mk r t =>
        rw [ran] at left
        cases r with
        | error e => exact left
        | ok outcome => exact (unlessFailed_leaves "call" outcome t).trans left

variable {c : Creation} {log creations : List Creation} {asked : List Query}

/-- The address that was taken is that of the nonce, which grows by one. -/
theorem Makes.step (made : Makes s c t) (started : s.chain = some accounts) :
    c.target = contractAddress maker (accounts.at maker).nonce ∧
    (∀ a, c.answer = .ok a → a = c.target) ∧
    ∃ after, t = { s with chain := some after } ∧
      (s.engine.IsModest → c.target ≠ maker →
        (after.at maker).nonce = (accounts.at maker).nonce + 1) := by
  obtain ⟨mid, taken, ran⟩ := made
  rw [reserve_run started, Prod.mk.injEq, Except.ok.injEq] at taken
  obtain ⟨target, rfl⟩ := taken
  have there : ({ s with chain := some (reserved accounts) } : Simulator).chain =
      some (reserved accounts) := rfl
  obtain ⟨after, left, own, answer⟩ := make_run c.code c.gas c.target there
  rw [ran] at left answer
  refine ⟨target.symm, answer, after, left, ?_⟩
  intro modest other
  have grown : ((reserved accounts).at maker).nonce = (accounts.at maker).nonce + 1 := by
    rw [reserved, at_set, if_pos rfl]
  rcases own with rfl | ⟨msg, limit, rfl⟩
  · exact grown
  · exact (modest msg c.target limit _ maker maker_mem other.symm).trans grown

theorem exists_makes {code : Bytes} {gas : Json} {answer : Except Failure Address}
    (created : (create maker code gas).run s = (answer, t)) (started : s.chain = some accounts) :
    ∃ target, Makes s { code, gas, target, answer } t := by
  have taken := reserve_run started
  rw [create, Act.run_bind_ok taken] at created
  exact ⟨_, _, taken, created⟩

/-! ## Contracts since the start -/

/-- The contracts since the start of a chain are numbered by the nonce of the account that makes
them, as long as its own address is none of theirs. -/
def Numbered (s : Simulator) (log : List Creation) : Prop :=
  ∀ accounts, s.chain = some accounts → (∀ k < log.length, contractAddress maker k ≠ maker) →
    (accounts.at maker).nonce = log.length ∧
    log.map (·.target) = (List.range log.length).map (contractAddress maker)

theorem Numbered.makes (numbered : Numbered s log) (modest : s.engine.IsModest)
    (made : Makes s c t) (started : s.chain = some accounts) : Numbered t (log ++ [c]) := by
  obtain ⟨target, _, after, rfl, grown⟩ := made.step started
  intro accounts' same apart
  obtain rfl : after = accounts' := Option.some.inj same
  simp only [List.length_append, List.length_singleton] at apart ⊢
  obtain ⟨nonce, targets⟩ := numbered accounts started fun k below => apart k (by omega)
  rw [nonce] at target grown
  refine ⟨grown modest (target ▸ apart log.length (by omega)), ?_⟩
  rw [List.map_append, targets, List.range_succ, List.map_append, List.map_singleton,
    List.map_singleton, target]

def isCreation : Query → Bool
  | .create _ _ _ _ => true
  | .call _ _ _ _ _ => false

/-- What a chain is asked for, as far as it is new contracts: calls leave no trace, by induction on
the questions. -/
theorem exists_creations (talks : primitives.Talks maker s asked t) (started : s.chain.isSome) :
    ∃ creations, creations.map Creation.query = asked.filter isCreation ∧
      Chained Makes s creations t := by
  obtain ⟨chained, askers⟩ := talks
  induction chained with
  | nil s => exact ⟨[], rfl, .nil s⟩
  | @cons s mid t q rest taken _ ih =>
    obtain ⟨asker, others⟩ := List.forall_mem_cons.mp askers
    cases q with
    | call sender target data gas answer =>
      have left := call_leaves sender target data gas s
      have ran : (call sender target data gas).run s = (answer, mid) := taken
      rw [ran] at left
      obtain rfl : mid = s := left
      exact ih started others
    | create sender code gas answer =>
      obtain rfl : sender = maker := asker
      have ran : (create maker code gas).run s = (answer, mid) := taken
      obtain ⟨accounts, there⟩ := Option.isSome_iff_exists.mp started
      obtain ⟨target, made⟩ := exists_makes ran there
      obtain ⟨_, _, after, rfl, _⟩ := made.step there
      obtain ⟨creations, queries, more⟩ := ih rfl others
      refine ⟨{ code, gas, target, answer } :: creations, ?_, .cons made more⟩
      rw [List.map_cons, queries]
      rfl

/-- The contracts that were to be made are numbered, by induction on them. -/
theorem Numbered.chained (numbered : Numbered s log) (modest : s.engine.IsModest)
    (chained : Chained Makes s creations t) (started : s.chain.isSome) :
    Numbered t (log ++ creations) ∧ t.chain.isSome ∧ t.engine = s.engine ∧
      ∀ c ∈ creations, ∀ a, c.answer = .ok a → a = c.target := by
  induction chained generalizing log with
  | nil s =>
    rw [List.append_nil]
    exact ⟨numbered, started, rfl, nofun⟩
  | @cons s mid t c rest made _ ih =>
    obtain ⟨accounts, there⟩ := Option.isSome_iff_exists.mp started
    have next := numbered.makes modest made there
    obtain ⟨_, answer, after, rfl, _⟩ := made.step there
    obtain ⟨last, started', engine, answers⟩ := ih next modest rfl
    rw [List.append_assoc] at last
    exact ⟨last, started', engine, List.forall_mem_cons.mpr ⟨answer, answers⟩⟩

/-- What a demand does to a simulator, with the contracts that were to be made since its chain was
started: a chain is started if there is none, and forgotten; new contracts are made on one that is
started, one for each question of the deployment; and nothing else happens. -/
inductive Goes (gas : GasLimits) :
    Simulator × List Creation → Backend.Demand → Simulator × List Creation → Prop
  | started {s : Simulator} {log : List Creation} : s.chain = none →
      Goes gas (s, log) .start ({ s with chain := some [] }, [])
  | running {s : Simulator} {log : List Creation} : s.chain.isSome →
      Goes gas (s, log) .start (s, log)
  | stopped {s : Simulator} {log : List Creation} :
      Goes gas (s, log) .stop ({ s with chain := none }, [])
  | restarted {s : Simulator} {log : List Creation} :
      Goes gas (s, log) .restart ({ s with chain := some [] }, [])
  | deployed {s t : Simulator} {log creations : List Creation} {contracts : Keyed Contract}
      {asked : List Query} {r : Except Failure (Keyed Deployed)} : s.chain.isSome →
      (primitives.journaled.deploy gas contracts).run (s, []) = (r, (t, asked)) →
      creations.map Creation.query = asked.filter isCreation → Chained Makes s creations t →
      Goes gas (s, log) (.deploy contracts) (t, log ++ creations)
  | idle {s : Simulator} {log : List Creation} {contracts : Keyed Contract} : s.chain = none →
      Goes gas (s, log) (.deploy contracts) (s, log)
  | accounts {s : Simulator} {log : List Creation} : Goes gas (s, log) .accounts (s, log)
  | answer {s : Simulator} {log : List Creation} {method : String} {params : Json} :
      Goes gas (s, log) (.answer method params) (s, log)

/-- The failure of everything that is asked of a chain that is not started. -/
def notStarted : Failure :=
  .deployFailed { message := "'" ++ name ++ "' blockchain is not started" }

theorem start_of_none (stopped : s.chain = none) : s.start = { s with chain := some [] } := by
  rw [Simulator.start, stopped]
  rfl

/-- A chain that is started stays as it is. -/
theorem start_of_some (started : s.chain.isSome) : s.start = s := by
  obtain ⟨accounts, there⟩ := Option.isSome_iff_exists.mp started
  rw [Simulator.start, there]
  cases s
  cases there
  rfl

theorem running_run_none (stopped : s.chain = none) : running.run s = (.error notStarted, s) := by
  simp only [running, Act.run_bind, Act.run_get, stopped]
  rfl

theorem accounts_run (started : s.chain.isSome) :
    primitives.accounts.run s = (.ok (maker :: owners.tail), s) := by
  obtain ⟨accounts, there⟩ := Option.isSome_iff_exists.mp started
  simp only [primitives, running, Act.run_bind, Act.run_get, there]
  rfl

theorem accounts_leaves (s : Simulator) : (primitives.accounts.run s).2 = s := by
  by_cases started : s.chain.isSome
  · rw [accounts_run started]
  · have stopped := running_run_none (Option.not_isSome_iff_eq_none.mp started)
    rw [primitives, Act.run_bind_error stopped]

theorem answer_leaves (method : String) (params : Json) (s : Simulator) :
    ((answer method params).run s).2 = s := by
  cases started : s.chain with
  | none => rw [answer, Act.run_bind_error (running_run_none started)]
  | some accounts =>
    have there : running.run s = (.ok accounts, s) := by
      simp only [running, Act.run_bind, Act.run_get, started]
      rfl
    rw [answer, Act.run_bind_ok there]
    split <;> rfl

end Simulator

/-! ## Backends with a simulator -/

namespace Backend

open Simulator Evm Chain

variable {O T : Type} [Duration T] {host : Host O} {b : At O T} {s : Simulator}

/-- A backend and its simulator, with the contracts that were to be made since the start. -/
structure Stands (engine : Engine) (gas : GasLimits) (w : World O T) (b : At O T) (s : Simulator)
    (log : List Creation) : Prop where
  venue : b.1.venue = .simulated s
  gas : b.1.gas = gas
  world : b.2 = w
  engine : s.engine = engine
  numbered : Numbered s log
  listed : ∀ d ∈ b.1.ledger.deployed, ∀ a, d.2.address = some a → a ∈ log.map (·.target)
  stopped : s.chain = none → log = [] ∧ b.1.ledger.deployed = []

theorem start_simulated (venue : b.1.venue = .simulated s) :
    (start host).run b = (.ok (), ({ b.1 with venue := .simulated s.start }, b.2)) := by
  simp only [start, Act.run_bind, Act.run_get, venue, Act.run_modify]

omit [Duration T] in
theorem stop_simulated (venue : b.1.venue = .simulated s) :
    (stop host).run b =
      (.ok (), ({ b.1 with venue := .simulated s.stop
                           ledger := { b.1.ledger with deployed := [] } }, b.2)) := by
  simp only [stop, Act.run_bind, Act.run_get, venue, Act.run_modify]

omit [Duration T] in
theorem put_simulated (venue : b.1.venue = .simulated s) :
    (({ b.1 with venue := .simulated s }, b.2) : At O T) = b := by
  rw [← venue]

omit [Duration T] in
/-- What is asked of a simulator is asked of it alone. -/
theorem alone_run {α : Type} {act : Act Simulator α} {r : Except Failure α} {t : Simulator}
    (ran : act.run s = (r, t)) :
    (atVenue s .simulated (alone act)).run b = (r, ({ b.1 with venue := .simulated t }, b.2)) := by
  simp only [atVenue, alone, Act.run_ofRun, Act.run_zoom, ran]

/-- **A simulator that is not started answers nothing**: whatever is asked of it fails, and changes
nothing. -/
theorem demand_stopped (venue : b.1.venue = .simulated s) (stopped : s.chain = none)
    {demand : Demand} (talk : demand.isTalk = true) :
    (demand.act host).run b = (.error notStarted, b) := by
  have silent {α : Type} {act : Act Simulator α} (fails : act.run s = (.error notStarted, s)) :
      (atVenue s .simulated (alone act)).run b = (.error notStarted, b) := by
    rw [alone_run fails, put_simulated venue]
  have unanswered {α : Type} {next : Accounts → Act Simulator α} :
      (Simulator.running >>= next).run s = (.error notStarted, s) :=
    Act.run_bind_error (running_run_none stopped)
  cases demand with
  | start | stop | restart => cases talk
  | deploy contracts =>
    have accounts : primitives.accounts.run s = (.error notStarted, s) := unanswered
    have fails : (primitives.deploy b.1.gas contracts).run s = (.error notStarted, s) :=
      Act.run_bind_error accounts
    have failed : (deployAt host b.1.gas contracts b.1.venue).run b = (.error notStarted, b) := by
      rw [venue]
      exact silent fails
    exact Act.run_bind_error (deploy_run_error failed)
  | accounts =>
    refine Act.run_bind_error ?_
    simp only [accounts, Act.run_bind, Act.run_get, venue]
    exact silent unanswered
  | answer method params =>
    refine Act.run_bind_error ?_
    simp only [answer, Act.run_bind, Act.run_get, venue]
    exact silent unanswered

variable {engine : Engine} {gas : GasLimits} {w : World O T} {log : List Creation}

omit [Duration T] in
/-- A chain that was forgotten, or has just been started, has no contracts. -/
theorem Stands.emptied (stands : Stands engine gas w b s log) {chain : Option Accounts}
    (bare : ∀ accounts, chain = some accounts → accounts = []) {ledger : Ledger}
    (empty : ledger.deployed = []) :
    Stands engine gas w ({ b.1 with venue := .simulated { s with chain }, ledger }, b.2)
      { s with chain } [] where
  venue := rfl
  gas := stands.gas
  world := stands.world
  engine := stands.engine
  numbered := by
    intro accounts same _
    obtain rfl := bare accounts same
    exact ⟨rfl, rfl⟩
  listed := by
    simp only [empty]
    exact nofun
  stopped _ := ⟨rfl, empty⟩

/-- A deployment on a chain that is started. -/
theorem Stands.deploys (stands : Stands engine gas w b s log) (modest : engine.IsModest)
    (started : s.chain.isSome) (contracts : Keyed Contract) :
    ∃ t creations, Goes gas (s, log) (.deploy contracts) (t, log ++ creations) ∧
      Stands engine gas w ((deploy host contracts).run b).2 t (log ++ creations) := by
  obtain ⟨asked, r, t, ran, journaled, talks, places⟩ :=
    Chain.deploy_asked gas contracts (accounts_run started)
  obtain ⟨creations, queries, chained⟩ := exists_creations talks started
  obtain ⟨numbered, started', engine', answers⟩ :=
    stands.numbered.chained (stands.engine ▸ modest) chained started
  refine ⟨t, creations, .deployed started journaled queries chained, ?_⟩
  have wider : log.map (·.target) ⊆ (log ++ creations).map (·.target) := by
    rw [List.map_append]
    exact List.subset_append_left _ _
  have unstopped : t.chain ≠ none := Option.isSome_iff_ne_none.mp started'
  have placed : (deployAt host b.1.gas contracts b.1.venue).run b =
      (r, ({ b.1 with venue := .simulated t }, b.2)) := by
    rw [stands.venue, stands.gas]
    exact alone_run ran
  cases r with
  | error e =>
    rw [deploy_run_error placed]
    exact ⟨rfl, stands.gas, stands.world, engine'.trans stands.engine, numbered,
      fun d among a own => wider (stands.listed d among a own), fun none => absurd none unstopped⟩
  | ok results =>
    rw [deploy_run_ok placed]
    refine ⟨rfl, stands.gas, stands.world, engine'.trans stands.engine, numbered, ?_,
      fun none => absurd none unstopped⟩
    intro d among a own
    rcases Keyed.mem_of_mem_putAll among with new | old
    · obtain ⟨sender, code, limit, there⟩ :=
        places results rfl d.2 (List.mem_map_of_mem new) a own
      have query : .create sender code limit (.ok a) ∈ creations.map Creation.query :=
        queries ▸ List.mem_filter.mpr ⟨there, rfl⟩
      obtain ⟨c, listed, same⟩ := List.mem_map.mp query
      have answer : c.answer = .ok a := by
        rw [Creation.query, Query.create.injEq] at same
        exact same.2.2.2
      rw [answers c listed a answer]
      exact List.mem_map_of_mem (List.mem_append_right _ listed)
    · exact wider (stands.listed d old a own)

/-- **One demand** of a backend with a simulator, whatever it comes to. -/
theorem demand_stands (host : Host O) (modest : engine.IsModest)
    (stands : Stands engine gas w b s log) (demand : Demand) :
    ∃ t log', Goes gas (s, log) demand (t, log') ∧
      Stands engine gas w ((demand.act host).run b).2 t log' := by
  -- What is asked for is done, and its answer is dropped.
  have dropped {α : Type} (act : Act (At O T) α) :
      ((act >>= fun _ => pure ()).run b).2 = (act.run b).2 := by
    rw [Act.run_bind]
    cases act.run b with
    | mk r after => cases r <;> rfl
  have silent {α : Type} {act : Act Simulator α} (left : (act.run s).2 = s) :
      ((atVenue s .simulated (alone act)).run b).2 = b := by
    have ran := alone_run (b := b) (Prod.ext rfl left : act.run s = ((act.run s).1, s))
    rw [ran, put_simulated stands.venue]
  cases demand with
  | start =>
    rw [Demand.act, start_simulated stands.venue]
    by_cases started : s.chain.isSome
    · rw [start_of_some started, put_simulated stands.venue]
      exact ⟨s, log, .running started, stands⟩
    · have stopped : s.chain = none := Option.not_isSome_iff_eq_none.mp started
      rw [start_of_none stopped]
      exact ⟨_, _, .started stopped, stands.emptied (fun _ same => (Option.some.inj same).symm)
        (stands.stopped stopped).2⟩
  | stop =>
    have bare : ∀ accounts : Accounts, none = some accounts → accounts = [] := by
      rintro _ ⟨⟩
    rw [Demand.act, stop_simulated stands.venue]
    exact ⟨_, _, .stopped, stands.emptied bare rfl⟩
  | restart =>
    have ran : (restart host).run b = _ :=
      (Act.run_bind_ok (stop_simulated stands.venue)).trans (start_simulated rfl)
    rw [Demand.act, ran, start_of_none rfl]
    exact ⟨_, _, .restarted, stands.emptied (fun _ same => (Option.some.inj same).symm) rfl⟩
  | deploy contracts =>
    by_cases started : s.chain.isSome
    · obtain ⟨t, creations, goes, after⟩ := stands.deploys modest started contracts
      rw [Demand.act, dropped]
      exact ⟨t, _, goes, after⟩
    · have stopped : s.chain = none := Option.not_isSome_iff_eq_none.mp started
      rw [demand_stopped stands.venue stopped rfl]
      exact ⟨s, log, .idle stopped, stands⟩
  | accounts =>
    have ran : ((accounts host).run b).2 = b := by
      simp only [accounts, Act.run_bind, Act.run_get, stands.venue]
      exact silent (accounts_leaves s)
    rw [Demand.act, dropped, ran]
    exact ⟨s, log, .accounts, stands⟩
  | answer method params =>
    have ran : ((answer host method params).run b).2 = b := by
      simp only [answer, Act.run_bind, Act.run_get, stands.venue]
      exact silent (answer_leaves method (sent params) s)
    rw [Demand.act, dropped, ran]
    exact ⟨s, log, .answer, stands⟩

/-- By induction on the demands. -/
theorem performAll_stands (host : Host O) (modest : engine.IsModest)
    (stands : Stands engine gas w b s log) (demands : List Demand) :
    ∃ t log', Chained (Goes gas) (s, log) demands (t, log') ∧
      Stands engine gas w (performAll host demands b) t log' := by
  induction demands generalizing b s log with
  | nil => exact ⟨s, log, .nil _, stands⟩
  | cons demand rest ih =>
    obtain ⟨mid, log', goes, stands'⟩ := demand_stands host modest stands demand
    obtain ⟨t, last, later, ends⟩ := ih stands'
    exact ⟨t, last, .cons goes later, ends⟩

/-- Each of the first addresses for a contract of the first account is another one, and none is the
account's own. -/
structure Scattered (n : Nat) : Prop where
  apart : ∀ k < n, contractAddress maker k ≠ maker
  distinct : ∀ j < n, ∀ k < n, contractAddress maker j = contractAddress maker k → j = k

theorem Scattered.nodup {n : Nat} (scattered : Scattered n) :
    ((List.range n).map (contractAddress maker)).Nodup := by
  refine List.Nodup.map_on ?_ List.nodup_range
  intro j first k second same
  exact scattered.distinct j (List.mem_range.mp first) k (List.mem_range.mp second) same

/-- **A backend with a simulator after some demands**, with the contracts that were to be made since
the last time that a chain was started. -/
structure Accounted (host : Host O) (engine : Engine) (gas : GasLimits) (w : World O T)
    (demands : List Demand) (after : At O T) (s : Simulator) (log : List Creation) : Prop where
  venue : after.1.venue = .simulated s
  world : after.2 = w
  goes : Chained (Goes gas) ({ engine }, []) demands (s, log)
  /-- The nonce counts the contracts, and each was to have the address of the nonce before it. -/
  numbered : Scattered log.length → ∀ accounts, s.chain = some accounts →
    (accounts.at maker).nonce = log.length ∧
    log.map (·.target) = (List.range log.length).map (contractAddress maker) ∧
    (log.map (·.target)).Nodup
  listed : ∀ d ∈ after.1.ledger.deployed, ∀ a, d.2.address = some a → a ∈ log.map (·.target)
  /-- A chain that is started is not started again. -/
  running : s.chain.isSome →
    (start host).run after = (.ok (), after) ∧
    ((accounts host).run after).1 = .ok (maker :: owners.tail)
  stopped : s.chain = none → log = [] ∧ after.1.ledger.deployed = [] ∧
    after.1.ledger.latest? = none ∧
    ∀ demand : Demand, demand.isTalk = true →
      (demand.act host).run after = (.error notStarted, after)

/-- **The contracts of the simulated chain**, on every engine that leaves the nonces of the accounts
alone. Calls leave the chain as it was. Whatever a new backend is asked for, the nonce of its first
account is the number of contracts that were to be made since the chain was started, failed ones
too, and these are the addresses that they were to have, no two of them the same. A backend that
is stopped shows nothing of its deployments, and fails whatever is asked of its chain. -/
theorem simulated_history (host : Host O) {engine : Engine} (modest : engine.IsModest)
    (gas : GasLimits) (w : World O T) (demands : List Demand) :
    (∀ (s : Simulator) sender target data limit,
      ((Simulator.call sender target data limit).run s).2 = s) ∧
    let b : Backend O T := { venue := .simulated { engine }, gas }
    ∃ s log, Accounted host engine gas w demands (performAll host demands (b, w)) s log := by
  refine ⟨fun s sender target data limit => call_leaves sender target data limit s, ?_⟩
  intro b
  have new : Stands engine gas w (b, w) { engine } [] :=
    ⟨rfl, rfl, rfl, rfl, nofun, nofun, fun _ => ⟨rfl, rfl⟩⟩
  obtain ⟨s, log, goes, stands⟩ := performAll_stands host modest new demands
  refine ⟨s, log, stands.venue, stands.world, goes, ?_, stands.listed, ?_, ?_⟩
  · intro scattered accounts started
    obtain ⟨nonce, targets⟩ := stands.numbered accounts started scattered.apart
    exact ⟨nonce, targets, targets ▸ scattered.nodup⟩
  · intro started
    refine ⟨?_, ?_⟩
    · rw [start_simulated stands.venue, start_of_some started, put_simulated stands.venue]
    · simp only [accounts, Act.run_bind, Act.run_get, stands.venue]
      exact congrArg Prod.fst (alone_run (accounts_run started))
  · intro stopped
    obtain ⟨none, empty⟩ := stands.stopped stopped
    refine ⟨none, empty, ?_, fun demand talk => demand_stopped stands.venue stopped talk⟩
    rw [Ledger.latest?, empty]
    cases (performAll host demands (b, w)).1.ledger.entry <;> rfl

def broken : Contract := { name := "B", abi := .arr [], bytecode := .str "fe" }

def twice : List Demand := [.start, .deploy [("B", broken)], .deploy [("L", library)]]

def limits : GasLimits := { deploy := .int 30000000, call := .int 30000000 }

theorem first_address : (contractAddress maker 0).bytes.getLast? = some 0x0f := by
  decide +kernel

theorem second_address : (contractAddress maker 1).bytes.getLast? = some 0xad := by
  decide +kernel

theorem scattered_two : Scattered 2 where
  apart k below := by
    obtain rfl | rfl : k = 0 ∨ k = 1 := by omega
    · intro same
      have last := first_address
      rw [same] at last
      exact absurd last (by decide)
    · intro same
      have last := second_address
      rw [same] at last
      exact absurd last (by decide)
  distinct j first k second same := by
    have last : (contractAddress maker 0).bytes.getLast? ≠
        (contractAddress maker 1).bytes.getLast? := by
      rw [first_address, second_address]
      decide
    obtain rfl | rfl : j = 0 ∨ j = 1 := by omega
    all_goals obtain rfl | rfl : k = 0 ∨ k = 1 := by omega
    · rfl
    · exact absurd (congrArg (fun a => a.bytes.getLast?) same) last
    · exact absurd (congrArg (fun a => a.bytes.getLast?) same).symm last
    · rfl

theorem simulated_history_twice :
    let b : Backend Unit Rat := { venue := .simulated {}, gas := limits }
    let after := performAll silent twice (b, bare)
    machine.IsModest ∧ Scattered 2 ∧
    (after.1.ledger.deployed.map fun d => (d.1, d.2.address.isSome)) = [("B", false), ("L", true)] ∧
    ∃ s log, Accounted silent machine limits bare twice after s log := by
  refine ⟨machine_isModest, scattered_two, ?_, ?_⟩
  · decide +kernel
  · exact (simulated_history silent machine_isModest limits bare twice).2

end Backend

end SolidityRepl
