import SolidityRepl.Backend.Basic
import SolidityRepl.Proofs.Abi.Decoding
import SolidityRepl.Proofs.Act

/-!
# The course of a deployment

Contracts are deployed one after the other. Each is there or not, and if it is there its function
answers or not; what a chain fails with is written down, unless it is no failure to deploy, which
ends everything.

* `Chain.Outcome`, `Outcome.result`: what a contract comes to, and what is written down of it;
* `Chain.Course`, `Chain.Courses`: how one contract, and several, come to it;
* `deploy_run`: what a deployment gives after its course;
* `exists_course`, `exists_courses`: contracts that are well formed have a course on every chain;
* `Recorded`: what is remembered of contracts.
-/

namespace SolidityRepl.Chain

open Abi

variable {W : Type}

/-! ## Outcomes -/

/-- What a contract comes to: it is there and has nothing to be called; the chain fails, before or
after the contract has an address; or its function answers. -/
inductive Outcome where
  | placed (address : Address)
  | stopped (address : Option Address) (e : Failure)
  | answered (address : Address) (function : Json) (output : Bytes)

/-- A contract with its failure, which is the contract's unless it is another's. -/
def recorded (contract : Contract) (address : Option Address) (e : DeployFailure) : Deployed :=
  { contract, address, error := some { e with contract := some (e.contract.getD contract.name) } }

/-- A failure to deploy is written down, and every other ends the deployment. -/
def settled (contract : Contract) (address : Option Address) : Failure → Except Failure Deployed
  | .deployFailed e => .ok (recorded contract address e)
  | e => .error e

def Outcome.result (contract : Contract) : Outcome → Except Failure Deployed
  | placed address => .ok { contract, address := some address }
  | stopped address e => settled contract address e
  | answered address function output =>
    match outputsOf function output with
    | .ok value => .ok { contract, address := some address, value }
    | .error e =>
      if e.isUndecodable then
        .ok (recorded contract (some address) { message := "cannot decode return value" })
      else settled contract (some address) e

/-! ## Courses -/

variable (chain : Chain W) (gas : GasLimits) (sender : Address)

def Makes (contract : Contract) (s : W) (address : Address) (t : W) : Prop :=
  ∃ code, codeOf contract = .ok code ∧
    (chain.create sender code gas.deploy).run s = (.ok address, t)

inductive Course (contract : Contract) : W → Outcome → W → Prop
  | unlinked {s : W} {e : Failure} : codeOf contract = .error e →
      Course contract s (.stopped none e) s
  | unmade {s t : W} {code : Bytes} {e : Failure} : codeOf contract = .ok code →
      (chain.create sender code gas.deploy).run s = (.error e, t) →
      Course contract s (.stopped none e) t
  | placed {s t : W} {address : Address} : chain.Makes gas sender contract s address t →
      contract.entry = none → Course contract s (.placed address) t
  | missing {s t : W} {address : Address} {entry : String} :
      chain.Makes gas sender contract s address t → contract.entry = some entry →
      findFunction? contract.abi (some entry) = .ok none →
      Course contract s
        (.stopped (some address) (failed contract ("no function `" ++ entry ++ "`"))) t
  | uncalled {s t u : W} {address : Address} {entry : String} {function : Json} {data : Bytes}
      {e : Failure} : chain.Makes gas sender contract s address t → contract.entry = some entry →
      findFunction? contract.abi (some entry) = .ok (some function) →
      selectorOf function = .ok data →
      (chain.call sender address data gas.call).run t = (.error e, u) →
      Course contract s (.stopped (some address) e) u
  | answered {s t u : W} {address : Address} {entry : String} {function : Json}
      {data output : Bytes} : chain.Makes gas sender contract s address t →
      contract.entry = some entry → findFunction? contract.abi (some entry) = .ok (some function) →
      selectorOf function = .ok data →
      (chain.call sender address data gas.call).run t = (.ok output, u) →
      Course contract s (.answered address function output) u

variable {ε : Type} (step : Contract → W → ε → W → Prop)
  (result : Contract → ε → Except Failure Deployed)

/-- How several contracts come to what they come to, one after the other, up to one of which nothing
can be written down. Contracts without code are passed over. -/
inductive Courses : List Contract → W → List (Contract × ε) → W → Prop
  | nil {s : W} : Courses [] s [] s
  | skip {contract : Contract} {rest : List Contract} {s t : W} {outcomes : List (Contract × ε)} :
      contract.isDeployable = .ok false → Courses rest s outcomes t →
      Courses (contract :: rest) s outcomes t
  | cons {contract : Contract} {rest : List Contract} {s t u : W} {outcome : ε} {d : Deployed}
      {outcomes : List (Contract × ε)} : contract.isDeployable = .ok true →
      step contract s outcome t → result contract outcome = .ok d → Courses rest t outcomes u →
      Courses (contract :: rest) s ((contract, outcome) :: outcomes) u
  | stop {contract : Contract} {rest : List Contract} {s t : W} {outcome : ε} {e : Failure} :
      contract.isDeployable = .ok true → step contract s outcome t →
      result contract outcome = .error e → Courses (contract :: rest) s [(contract, outcome)] t

/-- What is written down of contracts, if of each. -/
def results (outcomes : List (Contract × ε)) : Except Failure (List Deployed) :=
  outcomes.mapM fun c => result c.1 c.2

/-- A way to tell what contracts come to that tells what is written down of them. -/
structure Explains : Prop where
  run : ∀ {contract s outcome t}, step contract s outcome t →
    (chain.deployOne gas sender contract).run s = (result contract outcome, t)
  contract : ∀ {contract outcome d}, result contract outcome = .ok d → d.contract = contract

variable {step result}

theorem results_cons (contract : Contract) (outcome : ε) (outcomes : List (Contract × ε)) :
    results result ((contract, outcome) :: outcomes) = (do
      let d ← result contract outcome
      return d :: (← results result outcomes)) := List.mapM_cons

theorem results_cons_ok {contract : Contract} {outcome : ε} {outcomes : List (Contract × ε)}
    {ds : List Deployed} (all : results result ((contract, outcome) :: outcomes) = .ok ds) :
    ∃ d rest, result contract outcome = .ok d ∧ results result outcomes = .ok rest ∧
      ds = d :: rest := by
  rw [results_cons] at all
  cases written : result contract outcome with
  | error e =>
    rw [written] at all
    cases all
  | ok d =>
    cases others : results result outcomes with
    | error e =>
      rw [written, others] at all
      cases all
    | ok rest =>
      rw [written, others] at all
      cases all
      exact ⟨d, rest, rfl, rfl, rfl⟩

variable {chain gas sender}

theorem run_blame {e : Failure} (contract : Contract) (address : Option Address) (s : W) :
    (blame contract (fun error => { contract, address, error := some error }) e :
      Act W Deployed).run s = (settled contract address e, s) := by
  cases e <;> rfl

/-- A contract that cannot be made is written down with its failure. -/
theorem deployOne_run_unmade {contract : Contract} {s t : W} {e : Failure}
    (fails : ((do chain.create sender (← Act.ofExcept (codeOf contract)) gas.deploy) :
      Act W Address).run s = (.error e, t)) :
    (chain.deployOne gas sender contract).run s = (settled contract none e, t) := by
  rw [deployOne, Act.run_bind, Act.run_attempt, fails]
  exact run_blame contract none t

/-- A contract that is made is finished. -/
theorem deployOne_run_made {contract : Contract} {s t : W} {address : Address}
    (made : chain.Makes gas sender contract s address t) :
    (chain.deployOne gas sender contract).run s =
      (chain.finish gas sender contract address).run t := by
  obtain ⟨code, linked, created⟩ := made
  have create : ((do chain.create sender (← Act.ofExcept (codeOf contract)) gas.deploy) :
      Act W Address).run s = (.ok address, t) := by
    rw [Act.run_bind, Act.run_ofExcept, linked]
    exact created
  rw [deployOne, Act.run_bind, Act.run_attempt, create]

/-- A contract whose function fails to be called is written down with its failure. -/
theorem finish_run_error {contract : Contract} {t u : W} {address : Address} {entry : String}
    {e : Failure} (called : contract.entry = some entry)
    (fails : (chain.callEntry gas sender contract entry address).run t = (.error e, u)) :
    (chain.finish gas sender contract address).run t =
      (settled contract (some address) e, u) := by
  rw [finish, called]
  simp only [Act.run_bind, Act.run_attempt, fails]
  exact run_blame contract (some address) u

/-- The value of an entry function is that of what the chain answered. -/
theorem callEntry_run {contract : Contract} {t : W} {address : Address} {entry : String}
    {function : Json} {data : Bytes}
    (found : findFunction? contract.abi (some entry) = .ok (some function))
    (named : selectorOf function = .ok data) :
    (chain.callEntry gas sender contract entry address).run t =
      match (chain.call sender address data gas.call).run t with
      | (.ok output, u) => (valueOf contract function output, u)
      | (.error e, u) => (.error e, u) := by
  rw [callEntry, Act.run_bind, Act.run_ofExcept, found]
  show (Act.ofExcept (selectorOf function) >>= _).run t = _
  rw [Act.run_bind, Act.run_ofExcept, named]
  show (chain.call sender address data gas.call >>= _).run t = _
  rw [Act.run_bind]
  rcases (chain.call sender address data gas.call).run t with ⟨output | output, u⟩ <;> rfl

/-- A contract whose function answers is written down with its value, or with the failure that what
came is no encoding. -/
theorem finish_run_answered {contract : Contract} {t u : W} {address : Address} {entry : String}
    {function : Json} {output : Bytes} (called : contract.entry = some entry)
    (value : (chain.callEntry gas sender contract entry address).run t =
      (valueOf contract function output, u)) :
    (chain.finish gas sender contract address).run t =
      ((Outcome.answered address function output).result contract, u) := by
  rw [finish, called]
  simp only [Act.run_bind, Act.run_attempt, value]
  rw [valueOf, Outcome.result]
  cases outputsOf function output with
  | ok v => rfl
  | error e =>
    by_cases faulty : e.isUndecodable = true
    · simp only [faulty, if_true, undecodable, Failure.message_of_isUndecodable faulty]
      rfl
    · simp only [if_neg faulty]
      exact run_blame contract (some address) u

/-- **A contract is written down as it came to its outcome.** -/
theorem deployOne_run {contract : Contract} {s t : W} {outcome : Outcome}
    (course : Course chain gas sender contract s outcome t) :
    (chain.deployOne gas sender contract).run s = (outcome.result contract, t) := by
  cases course with
  | unlinked broken =>
    apply deployOne_run_unmade
    rw [Act.run_bind, Act.run_ofExcept, broken]
  | unmade linked fails =>
    apply deployOne_run_unmade
    rw [Act.run_bind, Act.run_ofExcept, linked]
    exact fails
  | placed made none =>
    rw [deployOne_run_made made, finish, none]
    rfl
  | missing made called absent =>
    rw [deployOne_run_made made, Outcome.result]
    apply finish_run_error called
    rw [callEntry, Act.run_bind, Act.run_ofExcept, absent]
    rfl
  | uncalled made called found named fails =>
    rw [deployOne_run_made made]
    apply finish_run_error called
    rw [callEntry_run found named, fails]
  | answered made called found named answers =>
    rw [deployOne_run_made made]
    apply finish_run_answered called
    rw [callEntry_run found named, answers]

theorem contract_of_result {contract : Contract} {outcome : Outcome} {d : Deployed}
    (written : outcome.result contract = .ok d) : d.contract = contract := by
  have of_settled {address : Option Address} {e : Failure}
      (written : settled contract address e = .ok d) : d.contract = contract := by
    cases e <;> cases written
    rfl
  cases outcome with
  | placed address =>
    cases written
    rfl
  | stopped address e => exact of_settled written
  | answered address function output =>
    rw [Outcome.result] at written
    split at written
    · cases written
      rfl
    · split at written
      · cases written
        rfl
      · exact of_settled written

/-- A course and its outcome tell what is written down. -/
theorem course_explains (chain : Chain W) (gas : GasLimits) (sender : Address) :
    chain.Explains gas sender (Course chain gas sender) Outcome.result :=
  ⟨deployOne_run, contract_of_result⟩

/-- **Contracts are written down as they came to what they came to**, by induction on the course. -/
theorem deployAll_run (explains : chain.Explains gas sender step result) {contracts : List Contract}
    {s t : W} {outcomes : List (Contract × ε)}
    (courses : Courses step result contracts s outcomes t) :
    (chain.deployAll gas sender contracts).run s = (results result outcomes, t) := by
  induction courses with
  | nil => rfl
  | skip codeless _ ih =>
    rw [deployAll, Act.run_bind, Act.run_ofExcept, codeless]
    exact ih
  | @cons _ _ _ _ _ _ _ outcomes coded course written _ ih =>
    have one := explains.run course
    rw [written] at one
    rw [deployAll, Act.run_bind, Act.run_ofExcept, coded]
    show (chain.deployOne gas sender _ >>= _).run _ = _
    rw [Act.run_bind_ok one, Act.run_bind, ih, results_cons, written]
    cases results result outcomes <;> rfl
  | stop coded course unwritten =>
    have one := explains.run course
    rw [unwritten] at one
    rw [deployAll, Act.run_bind, Act.run_ofExcept, coded]
    show (chain.deployOne gas sender _ >>= _).run _ = _
    rw [Act.run_bind_error one, results_cons, unwritten]
    rfl

/-- What a deployment gives after its course. -/
theorem deploy_run (explains : chain.Explains gas sender step result) {contracts : Keyed Contract}
    {s t u : W} {others : List Address} {outcomes : List (Contract × ε)}
    (accounts : chain.accounts.run s = (.ok (sender :: others), t))
    (courses : Courses step result (ordered (contracts.map (·.2))) t outcomes u) :
    (chain.deploy gas contracts).run s = ((results result outcomes).map byName, u) := by
  rw [deploy, Act.run_bind_ok accounts]
  show (chain.deployAll gas sender (ordered (contracts.map (·.2))) >>= _).run t = _
  rw [Act.run_bind, deployAll_run explains courses]
  cases results result outcomes <;> rfl

/-! ## Contracts that are well formed -/

/-- A contract whose code is a text, and whose function, if one is to be called and is there, has a
signature and describes its outputs. -/
structure IsFormed (contract : Contract) : Prop where
  code : ∃ s, contract.bytecode = .str s
  entry : ∀ entry, contract.entry = some entry → ∃ function?,
    findFunction? contract.abi (some entry) = .ok function? ∧
      ∀ function, function? = some function →
        (∃ data, selectorOf function = .ok data) ∧ IsDescribed function

theorem IsFormed.deployable {contract : Contract} (formed : IsFormed contract) :
    contract.isDeployable = .ok true ∨ contract.isDeployable = .ok false := by
  obtain ⟨s, code⟩ := formed.code
  rw [Contract.isDeployable, code]
  by_cases some : 0 < s.length
  · exact .inl (congrArg Except.ok (decide_eq_true some))
  · exact .inr (congrArg Except.ok (decide_eq_false some))

/-- A contract that is well formed has a course on every chain. -/
theorem exists_course (chain : Chain W) (gas : GasLimits) (sender : Address) {contract : Contract}
    (formed : IsFormed contract) (s : W) :
    ∃ outcome t, Course chain gas sender contract s outcome t := by
  cases linked : codeOf contract with
  | error e => exact ⟨_, _, .unlinked linked⟩
  | ok code =>
    rcases created : (chain.create sender code gas.deploy).run s with ⟨e | address, t⟩
    · exact ⟨_, _, .unmade linked created⟩
    · have made : chain.Makes gas sender contract s address t := ⟨code, linked, created⟩
      cases called : contract.entry with
      | none => exact ⟨_, _, .placed made called⟩
      | some entry =>
        obtain ⟨function?, found, named⟩ := formed.entry entry called
        cases function? with
        | none => exact ⟨_, _, .missing made called found⟩
        | some function =>
          obtain ⟨⟨data, selects⟩, _⟩ := named function rfl
          rcases answer : (chain.call sender address data gas.call).run t with ⟨e | output, u⟩
          · exact ⟨_, _, .uncalled made called found selects answer⟩
          · exact ⟨_, _, .answered made called found selects answer⟩

/-- Contracts that are well formed have a course if each of them takes a step, by induction on the
contracts. -/
theorem exists_courses (result : Contract → ε → Except Failure Deployed) {contracts : List Contract}
    (formed : ∀ contract ∈ contracts, IsFormed contract)
    (steps : ∀ contract, IsFormed contract → ∀ s, ∃ outcome t, step contract s outcome t) (s : W) :
    ∃ outcomes t, Courses step result contracts s outcomes t := by
  induction contracts generalizing s with
  | nil => exact ⟨_, _, .nil⟩
  | cons contract rest ih =>
    have others := ih fun c among => formed c (List.mem_cons_of_mem _ among)
    have first := formed contract List.mem_cons_self
    rcases first.deployable with coded | codeless
    · obtain ⟨outcome, t, taken⟩ := steps contract first s
      cases written : result contract outcome with
      | error e => exact ⟨_, _, .stop coded taken written⟩
      | ok d =>
        obtain ⟨outcomes, u, courses⟩ := others t
        exact ⟨_, _, .cons coded taken written courses⟩
    · obtain ⟨outcomes, u, courses⟩ := others s
      exact ⟨_, _, .skip codeless courses⟩

/-! ## What is remembered -/

theorem perm_ordered (contracts : List Contract) : (ordered contracts).Perm contracts := by
  have split := List.filter_append_perm (fun c : Contract => c.entry.isNone) contracts
  have called : (fun c : Contract => !c.entry.isNone) = fun c => c.entry.isSome := by
    funext c
    exact Option.not_isNone c.entry
  rwa [called] at split

theorem formed_ordered {contracts : Keyed Contract} (formed : ∀ c ∈ contracts, IsFormed c.2) :
    ∀ contract ∈ ordered (contracts.map (·.2)), IsFormed contract := by
  intro contract among
  obtain ⟨c, there, rfl⟩ := List.mem_map.mp ((perm_ordered _).mem_iff.mp among)
  exact formed c there

theorem Courses.sublist {contracts : List Contract} {s t : W} {outcomes : List (Contract × ε)}
    (courses : Courses step result contracts s outcomes t) :
    (outcomes.map (·.1)).Sublist contracts := by
  induction courses with
  | nil => exact .slnil
  | skip _ _ ih => exact ih.cons _
  | cons _ _ _ _ ih => exact ih.cons_cons _
  | stop _ _ _ => exact (List.nil_sublist _).cons_cons _

theorem contracts_of_results (explains : chain.Explains gas sender step result)
    {outcomes : List (Contract × ε)} {ds : List Deployed} (all : results result outcomes = .ok ds) :
    ds.map (·.contract) = outcomes.map (·.1) := by
  induction outcomes generalizing ds with
  | nil =>
    cases all
    rfl
  | cons c outcomes ih =>
    obtain ⟨d, rest, written, others, rfl⟩ := results_cons_ok all
    rw [List.map_cons, List.map_cons, explains.contract written, ih others]

theorem mem_results {contract : Contract} {outcome : ε} {outcomes : List (Contract × ε)}
    {ds : List Deployed} (all : results result outcomes = .ok ds)
    (among : (contract, outcome) ∈ outcomes) : ∃ d ∈ ds, result contract outcome = .ok d := by
  induction outcomes generalizing ds with
  | nil => cases among
  | cons c outcomes ih =>
    obtain ⟨d, rest, written, others, rfl⟩ := results_cons_ok all
    rcases List.mem_cons.mp among with rfl | among
    · exact ⟨d, List.mem_cons_self, written⟩
    · obtain ⟨d', there, written'⟩ := ih others among
      exact ⟨d', List.mem_cons_of_mem _ there, written'⟩

/-- What can be written down of each contract is written down. -/
theorem results_ok {outcomes : List (Contract × ε)}
    (written : ∀ c ∈ outcomes, ∃ d, result c.1 c.2 = .ok d) :
    ∃ ds, results result outcomes = .ok ds := by
  induction outcomes with
  | nil => exact ⟨[], rfl⟩
  | cons c outcomes ih =>
    obtain ⟨d, first⟩ := written c List.mem_cons_self
    obtain ⟨ds, others⟩ := ih fun c among => written c (List.mem_cons_of_mem _ among)
    refine ⟨d :: ds, ?_⟩
    rw [results_cons, first, others]
    rfl

/-- What cannot ends the deployment. -/
theorem Courses.stopped {contracts : List Contract} {s t : W} {outcomes : List (Contract × ε)}
    (courses : Courses step result contracts s outcomes t) {contract : Contract} {outcome : ε}
    {e : Failure} (among : (contract, outcome) ∈ outcomes)
    (unwritten : result contract outcome = .error e) : results result outcomes = .error e := by
  induction courses with
  | nil => cases among
  | skip _ _ ih => exact ih among
  | cons _ _ written _ ih =>
    rcases List.mem_cons.mp among with same | among
    · -- More came after the contract, so it was written down.
      cases same
      cases unwritten.symm.trans written
    · rw [results_cons, written, ih among]
      rfl
  | stop _ _ unwritten' =>
    cases List.mem_singleton.mp among
    cases unwritten.symm.trans unwritten'
    rw [results_cons, unwritten]
    rfl

/-- What holds of every step that a contract can take holds of those that were taken. -/
theorem Courses.forall {P : Contract → ε → Prop} {contracts : List Contract} {s t : W}
    {outcomes : List (Contract × ε)} (courses : Courses step result contracts s outcomes t)
    (holds : ∀ contract ∈ contracts, ∀ s outcome t,
      step contract s outcome t → P contract outcome) :
    ∀ c ∈ outcomes, P c.1 c.2 := by
  induction courses with
  | nil => exact fun c among => nomatch among
  | skip _ _ ih => exact ih fun contract there => holds contract (List.mem_cons_of_mem _ there)
  | cons _ taken _ _ ih =>
    intro c among
    rcases List.mem_cons.mp among with rfl | among
    · exact holds _ List.mem_cons_self _ _ _ taken
    · exact ih (fun contract there => holds contract (List.mem_cons_of_mem _ there)) c among
  | stop _ taken _ =>
    intro c among
    rw [List.mem_singleton.mp among]
    exact holds _ List.mem_cons_self _ _ _ taken

/-- If nothing ends a deployment, every contract with code comes to something. -/
theorem Courses.complete {contracts : List Contract} {s t : W} {outcomes : List (Contract × ε)}
    {ds : List Deployed} (courses : Courses step result contracts s outcomes t)
    (all : results result outcomes = .ok ds) {contract : Contract} (among : contract ∈ contracts)
    (coded : contract.isDeployable = .ok true) : ∃ outcome, (contract, outcome) ∈ outcomes := by
  induction courses generalizing ds with
  | nil => cases among
  | skip codeless _ ih =>
    rcases List.mem_cons.mp among with rfl | among
    · cases coded.symm.trans codeless
    · exact ih all among
  | cons _ _ _ _ ih =>
    rcases List.mem_cons.mp among with rfl | among
    · exact ⟨_, List.mem_cons_self⟩
    · obtain ⟨_, rest, _, others, _⟩ := results_cons_ok all
      obtain ⟨outcome, there⟩ := ih others among
      exact ⟨outcome, List.mem_cons_of_mem _ there⟩
  | stop _ _ unwritten =>
    obtain ⟨_, _, written, _⟩ := results_cons_ok all
    cases unwritten.symm.trans written

/-- What is remembered of contracts: every one with code, and each under its name, in what is given
back and in the ledger, if no two have the same. -/
structure Recorded (contracts : Keyed Contract) (ledger : Ledger) (ds : List Deployed) : Prop where
  all : ∀ c ∈ contracts, c.2.isDeployable = .ok true → ∃ d ∈ ds, d.contract = c.2
  named : (contracts.map (·.2.name)).Nodup → ∀ d ∈ ds,
    Keyed.get? d.contract.name (byName ds) = some d ∧
    Keyed.get? d.contract.name (ledger.record (byName ds)).deployed = some d

theorem get?_byName {ds : List Deployed} (distinct : (ds.map (·.contract.name)).Nodup)
    {d : Deployed} (among : d ∈ ds) : Keyed.get? d.contract.name (byName ds) = some d := by
  have keys : Keyed.keys (ds.map fun d => (d.contract.name, d)) = ds.map (·.contract.name) := by
    rw [Keyed.keys, List.map_map]
    rfl
  rw [← keys] at distinct
  have there := Keyed.get?_of_mem distinct (List.mem_map_of_mem among)
  rw [byName, Keyed.get?_putAll distinct, there]
  rfl

theorem get?_record {ds : List Deployed} {d : Deployed} (ledger : Ledger)
    (given : Keyed.get? d.contract.name (byName ds) = some d) :
    Keyed.get? d.contract.name (ledger.record (byName ds)).deployed = some d := by
  have distinct : (Keyed.keys (byName ds)).Nodup := Keyed.nodup_keys_putAll _ List.nodup_nil
  rw [Ledger.record, Keyed.get?_putAll distinct, given]
  rfl

/-- **If nothing ends a deployment, all contracts are remembered.** -/
theorem Courses.recorded (explains : chain.Explains gas sender step result)
    {contracts : Keyed Contract} {s t : W} {outcomes : List (Contract × ε)} {ds : List Deployed}
    (courses : Courses step result (ordered (contracts.map (·.2))) s outcomes t)
    (all : results result outcomes = .ok ds) (ledger : Ledger) : Recorded contracts ledger ds where
  all c among coded := by
    obtain ⟨outcome, there⟩ := courses.complete all
      ((perm_ordered _).mem_iff.mpr (List.mem_map_of_mem among)) coded
    obtain ⟨d, listed, written⟩ := mem_results all there
    exact ⟨d, listed, explains.contract written⟩
  named distinct d among := by
    have part : (ds.map (·.contract)).Sublist (ordered (contracts.map (·.2))) := by
      rw [contracts_of_results explains all]
      exact courses.sublist
    have names : (ds.map (·.contract.name)).Nodup := by
      have shuffled := (perm_ordered (contracts.map (·.2))).map Contract.name
      rw [List.map_map] at shuffled
      have apart := (part.map Contract.name).nodup (shuffled.nodup_iff.mpr distinct)
      rwa [List.map_map] at apart
    have given := get?_byName names among
    exact ⟨given, get?_record ledger given⟩

end SolidityRepl.Chain

namespace SolidityRepl.Backend

variable {O T : Type} [Duration T]

/-! ## Deployments on a backend -/

/-- A backend remembers what a deployment gave. -/
theorem deploy_run_ok {host : Host O} {b : Backend O T} {world : World O T}
    {contracts : Keyed Contract} {results : Keyed Deployed} {after : At O T}
    (deployed : (deployAt host b.gas contracts b.venue).run (b, world) = (.ok results, after)) :
    (deploy host contracts).run (b, world) =
      (.ok results, ({ after.1 with ledger := after.1.ledger.record results }, after.2)) := by
  rw [deploy, Act.run_bind, Act.run_get]
  exact Act.run_bind_ok deployed

/-- It remembers nothing of one that failed. -/
theorem deploy_run_error {host : Host O} {b : Backend O T} {world : World O T}
    {contracts : Keyed Contract} {e : Failure} {after : At O T}
    (failed : (deployAt host b.gas contracts b.venue).run (b, world) = (.error e, after)) :
    (deploy host contracts).run (b, world) = (.error e, after) := by
  rw [deploy, Act.run_bind, Act.run_get]
  exact Act.run_bind_error failed

end SolidityRepl.Backend
