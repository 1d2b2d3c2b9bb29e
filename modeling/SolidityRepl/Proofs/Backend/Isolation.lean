import SolidityRepl.Proofs.Backend.Deployment

/-!
# Contracts apart from each other

What is asked of a chain for a contract, and what is written down of it, depends on the contract and
on the chain's answers to its own questions. What became of the other contracts does not count.

* `Chain.journaled`: a chain that writes down what it was asked;
* `Replies`, `reported`, `questions`: what a chain answers for a contract, what is written down of
  it, and what is asked for it;
* `Reported`: which stages of a contract went well, told by what is written down;
* `deploy_isolated`: a deployment, contract by contract.
-/

namespace SolidityRepl.Chain

open Abi

variable {W : Type}

/-! ## Questions to a chain -/

inductive Query where
  | create (sender : Address) (code : Bytes) (gas : Json) (answer : Except Failure Address)
  | call (sender target : Address) (data : Bytes) (gas : Json) (answer : Except Failure Bytes)

/-- An act that is written down with its answer. -/
def writing {α : Type} (query : Except Failure α → Query) (act : Act W α) :
    Act (W × List Query) α :=
  Act.ofRun fun w =>
    let (r, s) := act.run w.1
    (r, (s, w.2 ++ [query r]))

/-- The same chain with a journal of what it was asked. -/
def journaled (chain : Chain W) : Chain (W × List Query) where
  accounts := Act.zoom Prod.fst (fun s w => (s, w.2)) chain.accounts
  create sender code gas := writing (.create sender code gas) (chain.create sender code gas)
  call sender target data gas :=
    writing (.call sender target data gas) (chain.call sender target data gas)

/-- What a chain answers for a contract, to its creation and to the call of its function, if it is
asked. -/
structure Replies where
  creation : Except DeployFailure Address
  call : Except DeployFailure Bytes

/-- A chain whose failures to make and to call contracts are failures to deploy of no contract in
particular. -/
structure IsNameless (chain : Chain W) : Prop where
  create : ∀ sender code gas s e, ((chain.create sender code gas).run s).1 = .error e →
    ∃ d : DeployFailure, e = .deployFailed d ∧ d.contract = none
  call : ∀ sender target data gas s e, ((chain.call sender target data gas).run s).1 = .error e →
    ∃ d : DeployFailure, e = .deployFailed d ∧ d.contract = none

/-- A chain whose answers for a contract are encodings of what its function declares, or are found
to be none. -/
def IsDecided (chain : Chain W) (contract : Contract) : Prop :=
  ∀ entry function, contract.entry = some entry →
    findFunction? contract.abi (some entry) = .ok (some function) →
    ∀ sender target data gas s output,
      ((chain.call sender target data gas).run s).1 = .ok output →
      ∀ e, outputsOf function output = .error e → e.isUndecodable = true

theorem IsDecided.of_silent {chain : Chain W} {contract : Contract}
    (none : contract.entry = none) : chain.IsDecided contract := by
  intro entry _ called
  rw [none] at called
  cases called

/-! ## The stages of a contract -/

def linked (contract : Contract) : Except DeployFailure Bytes :=
  match Node.bytesOf contract.bytecode with
  | .ok code => .ok code
  | .error _ => .error { message := "bytecode is not linked" }

def called (contract : Contract) (entry : String) : Except DeployFailure Json :=
  match findFunction? contract.abi (some entry) with
  | .ok (some function) => .ok function
  | _ => .error { message := "no function `" ++ entry ++ "`" }

def decoded (function : Json) (output : Bytes) : Except DeployFailure Value :=
  match outputsOf function output with
  | .ok value => .ok value
  | .error _ => .error { message := "cannot decode return value" }

def made (contract : Contract) (replies : Replies) : Except DeployFailure Address := do
  let _ ← linked contract
  replies.creation

/-- The function of a contract is called, and its answer read. -/
def spoken (contract : Contract) (replies : Replies) (entry : String) :
    Except DeployFailure Value := do
  let function ← called contract entry
  let output ← replies.call
  decoded function output

/-- All stages of a contract, up to the first that fails. -/
def valued (contract : Contract) (replies : Replies) : Except DeployFailure Value := do
  let _ ← made contract replies
  match contract.entry with
  | none => return .nothing
  | some entry => spoken contract replies entry

def reported (contract : Contract) (replies : Replies) : Deployed where
  contract
  address := (made contract replies).toOption
  value := (valued contract replies).toOption.getD .nothing
  error := match valued contract replies with
    | .ok _ => none
    | .error e => some { e with contract := some contract.name }

/-- The bytes that the function of a contract is called with, if there is one to be called. -/
def callData? (contract : Contract) : Option Bytes := do
  let entry ← contract.entry
  let function ← (called contract entry).toOption
  (selectorOf function).toOption

/-- What is asked for a contract: to make it, if its code is linked, and to call its function, if it
was made. -/
def questions (gas : GasLimits) (sender : Address) (contract : Contract) (replies : Replies) :
    List Query :=
  match linked contract with
  | .error _ => []
  | .ok code =>
    .create sender code gas.deploy (replies.creation.mapError .deployFailed) ::
      match replies.creation, callData? contract with
      | .ok address, some data =>
        [.call sender address data gas.call (replies.call.mapError .deployFailed)]
      | _, _ => []

/-- Which stages of a contract went well, told by what is written down of it. -/
structure Reported (contract : Contract) (replies : Replies) (d : Deployed) : Prop where
  own : d.contract = contract
  fine : d.error = none ↔ (∃ code, linked contract = .ok code) ∧
    (∃ address, replies.creation = .ok address) ∧
    ∀ entry, contract.entry = some entry → ∃ function output value,
      called contract entry = .ok function ∧ replies.call = .ok output ∧
      decoded function output = .ok value
  placed : ∀ address, d.address = some address ↔
    (∃ code, linked contract = .ok code) ∧ replies.creation = .ok address
  failed : ∀ e, d.error = some e → ∃ cause, valued contract replies = .error cause ∧
    e = { cause with contract := some contract.name }

theorem bind_eq_ok {ε α β : Type} {x : Except ε α} {f : α → Except ε β} {b : β} :
    x >>= f = .ok b ↔ ∃ a, x = .ok a ∧ f a = .ok b := by
  cases x with
  | error e => exact ⟨nofun, nofun⟩
  | ok a => exact ⟨fun h => ⟨a, rfl, h⟩, by rintro ⟨_, ⟨⟩, h⟩; exact h⟩

theorem made_eq_ok {contract : Contract} {replies : Replies} {address : Address} :
    made contract replies = .ok address ↔
      (∃ code, linked contract = .ok code) ∧ replies.creation = .ok address := by
  rw [made, bind_eq_ok, exists_and_right]

theorem spoken_eq_ok {contract : Contract} {replies : Replies} {entry : String} {value : Value} :
    spoken contract replies entry = .ok value ↔ ∃ function output,
      called contract entry = .ok function ∧ replies.call = .ok output ∧
      decoded function output = .ok value := by
  simp only [spoken, bind_eq_ok, exists_and_left]

theorem exists_valued_eq_ok (contract : Contract) (replies : Replies) :
    (∃ value, valued contract replies = .ok value) ↔
      (∃ address, made contract replies = .ok address) ∧
      ∀ entry, contract.entry = some entry → ∃ value,
        spoken contract replies entry = .ok value := by
  simp only [valued, bind_eq_ok]
  cases contract.entry with
  | none =>
    constructor
    · rintro ⟨_, address, made, _⟩
      exact ⟨⟨address, made⟩, nofun⟩
    · rintro ⟨⟨address, made⟩, _⟩
      exact ⟨.nothing, address, made, rfl⟩
  | some entry =>
    constructor
    · rintro ⟨value, address, made, spoken⟩
      refine ⟨⟨address, made⟩, ?_⟩
      rintro _ ⟨⟩
      exact ⟨value, spoken⟩
    · rintro ⟨⟨address, made⟩, all⟩
      obtain ⟨value, spoken⟩ := all entry rfl
      exact ⟨value, address, made, spoken⟩

/-- **What is written down of a contract tells which of its stages went well.** -/
theorem reported_reported (contract : Contract) (replies : Replies) :
    Reported contract replies (reported contract replies) where
  own := rfl
  fine := by
    have all := exists_valued_eq_ok contract replies
    have spoken : ∀ entry, (∃ value, spoken contract replies entry = .ok value) ↔
        ∃ function output value, called contract entry = .ok function ∧
          replies.call = .ok output ∧ decoded function output = .ok value := by
      intro entry
      simp only [spoken_eq_ok]
      exact ⟨fun ⟨v, f, o, h⟩ => ⟨f, o, v, h⟩, fun ⟨f, o, v, h⟩ => ⟨v, f, o, h⟩⟩
    simp only [made_eq_ok, exists_and_left, spoken, and_assoc] at all
    simp only [exists_and_left] at all ⊢
    rw [← all, reported]
    cases valued contract replies with
    | error e => exact ⟨nofun, nofun⟩
    | ok value => exact ⟨fun _ => ⟨value, rfl⟩, fun _ => rfl⟩
  placed address := by
    rw [← made_eq_ok, reported]
    cases made contract replies with
    | error e => exact ⟨nofun, nofun⟩
    | ok a =>
      exact ⟨fun h => congrArg _ (Option.some.inj h), fun h => congrArg _ (Except.ok.inj h)⟩
  failed e failed := by
    rw [reported] at failed
    cases all : valued contract replies with
    | ok value =>
      rw [all] at failed
      cases failed
    | error cause =>
      rw [all] at failed
      cases failed
      exact ⟨cause, rfl, rfl⟩

/-! ## One contract -/

section

variable {chain : Chain W} {gas : GasLimits} {sender : Address} {contract : Contract}

theorem linked_of_codeOf {code : Bytes} (good : codeOf contract = .ok code) :
    linked contract = .ok code := by
  rw [codeOf] at good
  rw [linked]
  cases read : Node.bytesOf contract.bytecode with
  | ok bytes =>
    rw [read] at good
    cases good
    rfl
  | error e =>
    rw [read] at good
    by_cases invalid : e.isInvalidValue = true
    · simp only [if_pos invalid] at good
      cases good
    · simp only [if_neg invalid] at good
      cases good

theorem linked_of_codeOf_error {e : Failure} (formed : IsFormed contract)
    (broken : codeOf contract = .error e) :
    linked contract = .error { message := "bytecode is not linked" } ∧
      e = failed contract "bytecode is not linked" := by
  obtain ⟨s, code⟩ := formed.code
  rw [codeOf, code, Node.bytesOf, Node.bytesOfText] at broken
  rw [linked, code, Node.bytesOf, Node.bytesOfText]
  cases read : Bytes.ofPrefixedHex? s with
  | some bytes =>
    rw [read] at broken
    cases broken
  | none =>
    rw [read] at broken
    cases broken
    exact ⟨rfl, rfl⟩

theorem called_of_found {entry : String} {function : Json}
    (found : findFunction? contract.abi (some entry) = .ok (some function)) :
    called contract entry = .ok function := by
  rw [called, found]

theorem called_of_absent {entry : String}
    (absent : findFunction? contract.abi (some entry) = .ok none) :
    called contract entry = .error { message := "no function `" ++ entry ++ "`" } := by
  rw [called, absent]

theorem callData?_none (none : contract.entry = none) : callData? contract = .none := by
  rw [callData?, none]
  rfl

theorem callData?_absent {entry : String} {e : DeployFailure}
    (named : contract.entry = some entry) (absent : called contract entry = .error e) :
    callData? contract = none := by
  rw [callData?, named, Option.bind_eq_bind, Option.bind_some, absent]
  rfl

theorem callData?_found {entry : String} {function : Json} {data : Bytes}
    (named : contract.entry = some entry) (found : called contract entry = .ok function)
    (selects : selectorOf function = .ok data) : callData? contract = some data := by
  rw [callData?, named, Option.bind_eq_bind, Option.bind_some, found]
  show (selectorOf function).toOption = _
  rw [selects]
  rfl

/-- A contract that was made and has nothing to be called. -/
theorem questions_silent {code : Bytes} {address : Address} {call : Except DeployFailure Bytes}
    (linked : linked contract = .ok code) (silent : callData? contract = none) :
    questions gas sender contract ⟨.ok address, call⟩ =
      [.create sender code gas.deploy (.ok address)] := by
  rw [questions, linked, silent]
  rfl

/-- A contract that was made and is called. -/
theorem questions_spoken {code data : Bytes} {address : Address} {call : Except DeployFailure Bytes}
    (linked : linked contract = .ok code) (spoken : callData? contract = some data) :
    questions gas sender contract ⟨.ok address, call⟩ =
      [.create sender code gas.deploy (.ok address)] ++
        [.call sender address data gas.call (call.mapError .deployFailed)] := by
  rw [questions, linked, spoken]
  rfl

/-- A contract that was made, and of which nothing is left to be called. -/
theorem reported_placed {code : Bytes} {address : Address} {call : Except DeployFailure Bytes}
    (linked : linked contract = .ok code) (none : contract.entry = none) :
    reported contract ⟨.ok address, call⟩ = { contract, address := some address } := by
  rw [reported, valued, made, linked, none]
  rfl

/-- A contract that was made, and whose function came to a value. -/
theorem reported_spoken {code : Bytes} {address : Address} {call : Except DeployFailure Bytes}
    {entry : String} {value : Value} (linked : linked contract = .ok code)
    (named : contract.entry = some entry)
    (spoke : spoken contract ⟨.ok address, call⟩ entry = .ok value) :
    reported contract ⟨.ok address, call⟩ = { contract, address := some address, value } := by
  have all : valued contract ⟨.ok address, call⟩ = .ok value := by
    rw [valued, made, linked, named]
    exact spoke
  rw [reported, all, made, linked]
  rfl

/-- A contract that was made, and whose function failed. -/
theorem reported_unspoken {code : Bytes} {address : Address} {call : Except DeployFailure Bytes}
    {entry : String} {e : DeployFailure} (linked : linked contract = .ok code)
    (named : contract.entry = some entry)
    (fails : spoken contract ⟨.ok address, call⟩ entry = .error e) :
    reported contract ⟨.ok address, call⟩ =
      { contract, address := some address,
        error := some { e with contract := some contract.name } } := by
  have all : valued contract ⟨.ok address, call⟩ = .error e := by
    rw [valued, made, linked, named]
    exact fails
  rw [reported, all, made, linked]
  rfl

/-- A contract whose function answered, with what is found to be a value or to be none. -/
theorem result_answered {code : Bytes} {address : Address} {entry : String} {function : Json}
    {output : Bytes} (linked : linked contract = .ok code) (named : contract.entry = some entry)
    (called : called contract entry = .ok function)
    (undecodable : ∀ e, outputsOf function output = .error e → e.isUndecodable = true) :
    (Outcome.answered address function output).result contract =
      .ok (reported contract ⟨.ok address, .ok output⟩) := by
  have spoke : spoken contract ⟨.ok address, .ok output⟩ entry = decoded function output := by
    rw [spoken, called]
    rfl
  rw [decoded] at spoke
  rw [Outcome.result]
  cases read : outputsOf function output with
  | ok value =>
    rw [read] at spoke
    rw [reported_spoken linked named spoke]
  | error e =>
    rw [read] at spoke
    rw [reported_unspoken linked named spoke]
    exact if_pos (undecodable e read)

/-- With a journal a contract is made just the same. -/
theorem Makes.journaled {s t : W} {address : Address} {code : Bytes}
    (good : codeOf contract = .ok code)
    (created : (chain.create sender code gas.deploy).run s = (.ok address, t))
    (journal : List Query) :
    chain.journaled.Makes gas sender contract (s, journal) address
      (t, journal ++ [.create sender code gas.deploy (.ok address)]) := by
  refine ⟨code, good, ?_⟩
  show (writing _ (chain.create sender code gas.deploy)).run (s, journal) = _
  rw [writing, Act.run_ofRun, created]

theorem journaled_call {s t : W} {target : Address} {data : Bytes} {r : Except Failure Bytes}
    (called : (chain.call sender target data gas.call).run s = (r, t)) (journal : List Query) :
    (chain.journaled.call sender target data gas.call).run (s, journal) =
      (r, (t, journal ++ [.call sender target data gas.call r])) := by
  show (writing _ (chain.call sender target data gas.call)).run (s, journal) = _
  rw [writing, Act.run_ofRun, called]

/-- A contract comes to its outcome with a journal and without, and what is written down of it and
what was asked for it are told by the replies to its own questions. -/
structure Tells (chain : Chain W) (gas : GasLimits) (sender : Address) (contract : Contract)
    (s : W) (replies : Replies) (t : W) : Prop where
  plain : (chain.deployOne gas sender contract).run s = (.ok (reported contract replies), t)
  journaled : ∀ journal, (chain.journaled.deployOne gas sender contract).run (s, journal) =
    (.ok (reported contract replies), (t, journal ++ questions gas sender contract replies))

theorem Tells.of_course {s t : W} {outcome : Outcome} {replies : Replies}
    (course : Course chain gas sender contract s outcome t)
    (double : ∀ journal, Course chain.journaled gas sender contract (s, journal) outcome
      (t, journal ++ questions gas sender contract replies))
    (result : outcome.result contract = .ok (reported contract replies)) :
    Tells chain gas sender contract s replies t where
  plain := by rw [deployOne_run course, result]
  journaled journal := by rw [deployOne_run (double journal), result]

/-- **Every contract tells replies to its own questions.** -/
theorem exists_tells (nameless : chain.IsNameless) (decided : chain.IsDecided contract)
    (formed : IsFormed contract) (s : W) :
    ∃ replies t, Tells chain gas sender contract s replies t := by
  obtain ⟨outcome, t, course⟩ := exists_course chain gas sender formed s
  cases course with
  | unlinked broken =>
    obtain ⟨unlinked, rfl⟩ := linked_of_codeOf_error formed broken
    refine ⟨⟨.error default, .error default⟩, _,
      .of_course (.unlinked broken) (fun journal => ?_) ?_⟩
    · rw [questions, unlinked, List.append_nil]
      exact .unlinked broken
    · rw [reported, valued, made, unlinked]
      rfl
  | @unmade _ code e good fails =>
    obtain ⟨d, rfl, unnamed⟩ := nameless.create _ _ _ _ _ (congrArg Prod.fst fails)
    have linked := linked_of_codeOf good
    refine ⟨⟨.error d, .error d⟩, t, .of_course (.unmade good fails) (fun journal => ?_) ?_⟩
    · rw [questions, linked]
      refine .unmade good ?_
      show (writing _ (chain.create sender code gas.deploy)).run (s, journal) = _
      rw [writing, Act.run_ofRun, fails]
      rfl
    · rw [reported, valued, made, linked, Outcome.result, settled, recorded, unnamed]
      rfl
  | @placed _ address made none =>
    obtain ⟨code, good, created⟩ := made
    have linked := linked_of_codeOf good
    refine ⟨⟨.ok address, .error default⟩, t,
      .of_course (.placed ⟨code, good, created⟩ none) (fun journal => ?_) ?_⟩
    · rw [questions_silent linked (callData?_none none)]
      exact .placed (.journaled good created journal) none
    · rw [reported_placed linked none]
      rfl
  | @missing _ address entry made named absent =>
    obtain ⟨code, good, created⟩ := made
    have linked := linked_of_codeOf good
    have called := called_of_absent absent
    refine ⟨⟨.ok address, .error default⟩, t,
      .of_course (.missing ⟨code, good, created⟩ named absent) (fun journal => ?_) ?_⟩
    · rw [questions_silent linked (callData?_absent named called)]
      exact .missing (.journaled good created journal) named absent
    · rw [reported_unspoken linked named (by rw [spoken, called]; rfl)]
      rfl
  | @uncalled mid _ address entry function data e made named found selects fails =>
    obtain ⟨code, good, created⟩ := made
    obtain ⟨d, rfl, unnamed⟩ := nameless.call _ _ _ _ _ _ (congrArg Prod.fst fails)
    have linked := linked_of_codeOf good
    have called := called_of_found found
    refine ⟨⟨.ok address, .error d⟩, t,
      .of_course (.uncalled ⟨code, good, created⟩ named found selects fails) (fun journal => ?_) ?_⟩
    · rw [questions_spoken linked (callData?_found named called selects), ← List.append_assoc]
      exact .uncalled (.journaled good created journal) named found selects
        (journaled_call fails _)
    · rw [reported_unspoken linked named (by rw [spoken, called]; rfl), Outcome.result, settled,
        recorded, unnamed]
      rfl
  | @answered mid _ address entry function data output made named found selects answers =>
    obtain ⟨code, good, created⟩ := made
    have linked := linked_of_codeOf good
    have called := called_of_found found
    refine ⟨⟨.ok address, .ok output⟩, t,
      .of_course (.answered ⟨code, good, created⟩ named found selects answers)
        (fun journal => ?_) ?_⟩
    · rw [questions_spoken linked (callData?_found named called selects), ← List.append_assoc]
      exact .answered (.journaled good created journal) named found selects
        (journaled_call answers _)
    · exact result_answered linked named called fun e =>
        decided entry function named found _ _ _ _ _ _ (congrArg Prod.fst answers) e

/-! ## All contracts -/

def isCoded (contract : Contract) : Bool := contract.isDeployable.toOption.getD false

structure TellAll (chain : Chain W) (gas : GasLimits) (sender : Address)
    (contracts : List Contract) (s : W) (reports : List (Contract × Replies)) (t : W) :
    Prop where
  order : reports.map (·.1) = contracts.filter isCoded
  plain : (chain.deployAll gas sender contracts).run s =
    (.ok (reports.map fun r => reported r.1 r.2), t)
  journaled : ∀ journal, (chain.journaled.deployAll gas sender contracts).run (s, journal) =
    (.ok (reports.map fun r => reported r.1 r.2),
      (t, journal ++ reports.flatMap fun r => questions gas sender r.1 r.2))

theorem TellAll.skip {contracts : List Contract} {s t : W} {reports : List (Contract × Replies)}
    (codeless : contract.isDeployable = .ok false)
    (rest : TellAll chain gas sender contracts s reports t) :
    TellAll chain gas sender (contract :: contracts) s reports t where
  order := by
    have out : isCoded contract = false := by rw [isCoded, codeless]; rfl
    rw [List.filter_cons, out, rest.order]
    rfl
  plain := by
    rw [deployAll, Act.run_bind, Act.run_ofExcept, codeless]
    exact rest.plain
  journaled journal := by
    rw [deployAll, Act.run_bind, Act.run_ofExcept, codeless]
    exact rest.journaled journal

theorem TellAll.cons {contracts : List Contract} {s t u : W} {replies : Replies}
    {reports : List (Contract × Replies)} (coded : contract.isDeployable = .ok true)
    (first : Tells chain gas sender contract s replies t)
    (rest : TellAll chain gas sender contracts t reports u) :
    TellAll chain gas sender (contract :: contracts) s ((contract, replies) :: reports) u where
  order := by
    have kept : isCoded contract = true := by rw [isCoded, coded]; rfl
    rw [List.filter_cons, kept, List.map_cons, rest.order]
    rfl
  plain := by
    rw [deployAll, Act.run_bind, Act.run_ofExcept, coded]
    show (chain.deployOne gas sender contract >>= _).run s = _
    rw [Act.run_bind_ok first.plain, Act.run_bind_ok rest.plain]
    rfl
  journaled journal := by
    rw [deployAll, Act.run_bind, Act.run_ofExcept, coded]
    show (chain.journaled.deployOne gas sender contract >>= _).run (s, journal) = _
    rw [Act.run_bind_ok (first.journaled journal), Act.run_bind_ok (rest.journaled _),
      List.flatMap_cons, ← List.append_assoc]
    rfl

variable (gas sender) in
/-- **All contracts come to their own ends**, by induction on the contracts. -/
theorem exists_tellAll (nameless : chain.IsNameless) {contracts : List Contract}
    (formed : ∀ contract ∈ contracts, IsFormed contract)
    (decided : ∀ contract ∈ contracts, chain.IsDecided contract) (s : W) :
    ∃ reports t, TellAll chain gas sender contracts s reports t := by
  induction contracts generalizing s with
  | nil => exact ⟨[], s, rfl, rfl, fun journal => by rw [List.flatMap_nil, List.append_nil]; rfl⟩
  | cons contract contracts ih =>
    have own := formed contract List.mem_cons_self
    have others := ih (fun c among => formed c (List.mem_cons_of_mem _ among))
      fun c among => decided c (List.mem_cons_of_mem _ among)
    rcases own.deployable with coded | codeless
    · obtain ⟨replies, t, first⟩ :=
        exists_tells nameless (decided contract List.mem_cons_self) own s
      obtain ⟨reports, u, rest⟩ := others t
      exact ⟨_, u, .cons coded first rest⟩
    · obtain ⟨reports, u, rest⟩ := others s
      exact ⟨reports, u, rest.skip codeless⟩

end

/-! ## Deployments -/

/-- A deployment, contract by contract: those with code, the ones without an entry function first
and each group in its order, are made and called as the chain's replies to their own questions have
it, and what is written down of each tells how far it came. -/
structure Isolated (chain : Chain W) (gas : GasLimits) (contracts : Keyed Contract)
    (sender : Address) (s : W) (reports : List (Contract × Replies)) (after : W) : Prop where
  order : reports.map (·.1) =
    ((contracts.map (·.2)).filter isCoded).filter (·.entry.isNone) ++
      ((contracts.map (·.2)).filter isCoded).filter (·.entry.isSome)
  plain : (chain.deploy gas contracts).run s =
    (.ok (reports.map fun r => (r.1.name, reported r.1 r.2)), after)
  journaled : (chain.journaled.deploy gas contracts).run (s, []) =
    (.ok (reports.map fun r => (r.1.name, reported r.1 r.2)),
      (after, reports.flatMap fun r => questions gas sender r.1 r.2))
  reported : ∀ r ∈ reports, Reported r.1 r.2 (reported r.1 r.2)

theorem ordered_filter (contracts : List Contract) :
    (ordered contracts).filter isCoded = (contracts.filter isCoded).filter (·.entry.isNone) ++
      (contracts.filter isCoded).filter (·.entry.isSome) := by
  have swap (p : Contract → Bool) :
      (contracts.filter p).filter isCoded = (contracts.filter isCoded).filter p := by
    simp only [List.filter_filter, Bool.and_comm]
  rw [ordered, List.filter_append, swap, swap]

theorem byName_of_nodup {ds : List Deployed} (distinct : (ds.map (·.contract.name)).Nodup) :
    byName ds = ds.map fun d => (d.contract.name, d) := by
  rw [byName, Keyed.putAll_of_nodup, List.nil_append]
  rw [List.nil_append, Keyed.keys, List.map_map]
  exact distinct

/-- **A deployment isolates its contracts**, whatever becomes of each of them. -/
theorem deploy_isolates {chain : Chain W} {gas : GasLimits} {contracts : Keyed Contract}
    {sender : Address} {others : List Address} {s t : W} (nameless : chain.IsNameless)
    (formed : ∀ c ∈ contracts, IsFormed c.2) (decided : ∀ c ∈ contracts, chain.IsDecided c.2)
    (named : ∀ c ∈ contracts, c.1 = c.2.name) (distinct : (Keyed.keys contracts).Nodup)
    (accounts : chain.accounts.run s = (.ok (sender :: others), t)) :
    ∃ reports after, Isolated chain gas contracts sender s reports after := by
  obtain ⟨reports, after, all⟩ := exists_tellAll gas sender nameless
    (formed_ordered formed) (fun contract among => by
      obtain ⟨c, there, rfl⟩ := List.mem_map.mp ((perm_ordered _).mem_iff.mp among)
      exact decided c there) t
  have names : (reports.map fun r => r.1.name).Nodup := by
    have keys : Keyed.keys contracts = (contracts.map (·.2)).map Contract.name := by
      rw [Keyed.keys, List.map_map]
      exact List.map_congr_left named
    have part : (reports.map (·.1)).Sublist (ordered (contracts.map (·.2))) := by
      rw [all.order]
      exact List.filter_sublist
    have apart := (part.map Contract.name).nodup
      (((perm_ordered _).map Contract.name).nodup_iff.mpr (keys ▸ distinct))
    rwa [List.map_map] at apart
  have together : byName (reports.map fun r => reported r.1 r.2) =
      reports.map fun r => (r.1.name, reported r.1 r.2) := by
    rw [byName_of_nodup (by rwa [List.map_map]), List.map_map]
    rfl
  refine ⟨reports, after, ?_, ?_, ?_, fun r _ => reported_reported r.1 r.2⟩
  · rw [all.order, ordered_filter]
  · rw [deploy, Act.run_bind_ok accounts, ← together]
    exact Act.run_bind_ok all.plain
  · have accounts' : chain.journaled.accounts.run (s, []) = (.ok (sender :: others), (t, [])) := by
      show (Act.zoom Prod.fst (fun s w => (s, w.2)) chain.accounts).run (s, []) = _
      rw [Act.run_zoom, accounts]
    rw [deploy, Act.run_bind_ok accounts', ← together]
    exact (Act.run_bind_ok (all.journaled [])).trans rfl

/-! ## A chain that refuses some contracts -/

/-- A chain that makes no contract without code, and whose contracts answer nothing. -/
def picky : Chain Unit where
  accounts := pure [.ofNat 1]
  create _ code _ := Act.ofExcept <|
    if code.isEmpty then .error (.deployFailed { message := "no code" }) else .ok (.ofNat 2)
  call _ _ _ _ := pure []

theorem picky_nameless : picky.IsNameless where
  create _ code _ _ e fails := by
    change (if code.isEmpty then _ else _) = Except.error e at fails
    split at fails
    · cases fails
      exact ⟨_, rfl, rfl⟩
    · cases fails
  call _ _ _ _ _ _ fails := nomatch fails

/-- A contract whose code is marked and nothing else. -/
def hollow : Contract := { name := "H", abi := .arr [], bytecode := .str "0x" }

theorem hollow_formed : IsFormed hollow where
  code := ⟨_, rfl⟩
  entry _ called := nomatch called

theorem outputsOf_nothing : outputsOf (answering "string" []) [] = .error .tooFewBytes := by
  obtain ⟨outputs, given, described⟩ := Backend.string_returned
  rw [outputsOf_described given described ⟨trivial, trivial⟩]
  rfl

theorem speaker_decided : picky.IsDecided Backend.speaker := by
  intro entry function called found _ _ _ _ _ output answers e fails
  cases called
  cases found
  cases answers
  rw [outputsOf_nothing] at fails
  cases fails
  rfl

/-- A contract whose answer is no encoding, one that is refused, and one that is made. -/
def mixed : Keyed Contract :=
  [("S", Backend.speaker), ("H", hollow), ("L", Backend.library)]

theorem deploy_isolates_mixed :
    picky.IsNameless ∧ (∀ c ∈ mixed, IsFormed c.2) ∧ (∀ c ∈ mixed, picky.IsDecided c.2) ∧
    (∀ c ∈ mixed, c.1 = c.2.name) ∧ (Keyed.keys mixed).Nodup ∧
    picky.accounts.run () = (.ok [.ofNat 1], ()) ∧
    ∃ reports after, Isolated picky default mixed (.ofNat 1) () reports after := by
  have formed : ∀ c ∈ mixed, IsFormed c.2 := by
    simp only [mixed, List.forall_mem_cons]
    exact ⟨Backend.speaker_formed, hollow_formed, Backend.library_formed, nofun⟩
  have decided : ∀ c ∈ mixed, picky.IsDecided c.2 := by
    simp only [mixed, List.forall_mem_cons]
    exact ⟨speaker_decided, .of_silent rfl, .of_silent rfl, nofun⟩
  have named : ∀ c ∈ mixed, c.1 = c.2.name := by
    simp only [mixed, List.forall_mem_cons]
    exact ⟨rfl, rfl, rfl, nofun⟩
  have distinct : (Keyed.keys mixed).Nodup := by decide
  exact ⟨picky_nameless, formed, decided, named, distinct, rfl,
    deploy_isolates picky_nameless formed decided named distinct rfl⟩

end SolidityRepl.Chain
