import SolidityRepl.Proofs.Abi.Revert
import SolidityRepl.Proofs.Backend.Deployment
import SolidityRepl.Proofs.Node.Talk

/-!
# Errors that a node answers with

A node may answer any of the calls that a contract takes with an error. The error has a code and a
message, and perhaps data, in which there may be the payload of a revert.

* `Refusal`, `Refusal.reason`: an error, and the reason in its data;
* `Denies`: a node that refuses a contract, by any of the calls that it takes;
* `Denies.course`: what becomes of such a contract;
* `deploy_denied`: what a deployment leaves behind on a node that refuses some contracts.
-/

namespace SolidityRepl

/-- An error that a node answers with. Without data these are null. -/
structure Refusal where
  code : Json
  message : Json
  data : Json

namespace Refusal

/-- The fields that it is read from. There may be others. -/
structure IsIn (r : Refusal) (fields : Keyed Json) : Prop where
  code : Keyed.get? "code" fields = some r.code
  message : Keyed.get? "message" fields = some r.message
  data : (Keyed.get? "data" fields).getD .null = r.data

/-- The text of its data, which may be in an object. -/
def text (r : Refusal) : Option String := Node.dataOf r.data

def call (r : Refusal) : Failure := .refusedCall r.code r.message r.text

/-- The reason in its data, if these can be read. -/
def reason (r : Refusal) : Except Failure (Option String) := Node.reasonIn r.text

def failure (what : String) (r : Refusal) (reason : Option String) : DeployFailure :=
  { message := what ++ " failed: " ++ (r.code.shown ++ ": " ++ r.message.shown), reason }

/-- What the program makes of it: a failure to deploy, or the fault of its data. -/
def outcome (what : String) (r : Refusal) : Failure :=
  match r.reason with
  | .ok reason => .deployFailed (r.failure what reason)
  | .error e => e

/-- Its data are bytes that hold a payload. -/
def Tells (r : Refusal) (p : Abi.Payload) : Prop :=
  ∃ s bytes, r.text = some s ∧ Bytes.ofPrefixedHex? s = some bytes ∧ p.IsIn bytes

/-- Its data are no bytes, or the text in them cannot be held or is none. -/
def Garbles (r : Refusal) (e : Failure) : Prop :=
  ∃ s, r.text = some s ∧
    (Bytes.ofPrefixedHex? s = none ∧ e = .invalidValue ∨
      ∃ bytes, Bytes.ofPrefixedHex? s = some bytes ∧ bytes.take 4 = Abi.errorSelector ∧
        Abi.decodeAll [.string] (bytes.drop 4) = .error e ∧ (e = .tooLarge ∨ e = .badText))

variable {r : Refusal}

theorem IsIn.refusal {fields : Keyed Json} (given : r.IsIn fields) :
    Node.refusal (.obj fields) = r.call := by
  simp only [Node.refusal, Json.optional, Json.required, given.code, given.message, given.data]
  rfl

theorem reason_absent (absent : r.text = none) : r.reason = .ok none := by
  rw [reason, absent]
  rfl

theorem reason_unread {s : String} (given : r.text = some s)
    (unread : Bytes.ofPrefixedHex? s = none) : r.reason = .error .invalidValue := by
  have some : ¬ s.isEmpty = true := by
    intro empty
    rw [String.isEmpty_iff.mp empty] at unread
    cases unread
  rw [reason, given]
  simp only [Node.reasonIn, if_neg some, Node.bytesOfText, unread]
  rfl

/-- Data that are an empty text count as no bytes. -/
theorem reason_bytes {s : String} {bytes : Bytes} (given : r.text = some s)
    (read : Bytes.ofPrefixedHex? s = some bytes) : r.reason = Abi.revertReason bytes := by
  rw [reason, given]
  by_cases empty : s.isEmpty = true
  · rw [String.isEmpty_iff.mp empty] at read ⊢
    cases read
    rfl
  · simp only [Node.reasonIn, if_neg empty, Node.bytesOfText, read]
    rfl

/-- **The reason is that of the payload that the data hold.** -/
theorem reason_eq_some {t : String} :
    r.reason = .ok (some t) ↔ ∃ p : Abi.Payload, r.Tells p ∧ p.reason = t := by
  cases given : r.text with
  | none =>
    rw [reason_absent given]
    constructor
    · intro same
      cases same
    · rintro ⟨p, ⟨s, bytes, given', _⟩, _⟩
      cases given.symm.trans given'
  | some s =>
    cases read : Bytes.ofPrefixedHex? s with
    | none =>
      rw [reason_unread given read]
      constructor
      · intro same
        cases same
      · rintro ⟨p, ⟨s', bytes, given', read', _⟩, _⟩
        cases given.symm.trans given'
        cases read.symm.trans read'
    | some bytes =>
      rw [reason_bytes given read, Abi.revertReason_eq_some]
      constructor
      · rintro ⟨p, held, shown⟩
        exact ⟨p, ⟨s, bytes, given, read, held⟩, shown⟩
      · rintro ⟨p, ⟨s', bytes', given', read', held⟩, shown⟩
        cases given.symm.trans given'
        cases read.symm.trans read'
        exact ⟨p, held, shown⟩

/-- Data cannot be read if they are garbled, and only then. -/
theorem reason_error {e : Failure} : r.reason = .error e ↔ r.Garbles e := by
  cases given : r.text with
  | none =>
    rw [reason_absent given]
    constructor
    · intro fails
      cases fails
    · rintro ⟨s, given', _⟩
      cases given.symm.trans given'
  | some s =>
    cases read : Bytes.ofPrefixedHex? s with
    | none =>
      rw [reason_unread given read]
      constructor
      · intro fails
        cases fails
        exact ⟨s, given, .inl ⟨read, rfl⟩⟩
      · rintro ⟨s', given', faults⟩
        cases given.symm.trans given'
        rcases faults with ⟨_, rfl⟩ | ⟨bytes, read', _⟩
        · rfl
        · cases read.symm.trans read'
    | some bytes =>
      rw [reason_bytes given read, Abi.revertReason_error]
      constructor
      · intro fault
        exact ⟨s, given, .inr ⟨bytes, read, fault⟩⟩
      · rintro ⟨s', given', faults⟩
        cases given.symm.trans given'
        rcases faults with ⟨unread, _⟩ | ⟨bytes', read', fault⟩
        · cases read.symm.trans unread
        · cases read.symm.trans read'
          exact fault

end Refusal

namespace Node

variable {O T : Type}

/-! ## Calls that are refused -/

def Refuses (host : Host O) (method : String) (params : Json) (s : At O T) (r : Refusal)
    (t : At O T) : Prop :=
  ∃ text answer error,
    (inWorld (World.send host s.1.url
      (.post s.1.url (bodyOf method params (s.1.calls + 1))))).run
        ({ s.1 with calls := s.1.calls + 1 }, s.2) = (.ok text, t) ∧
    Json.read text = .ok (.obj answer) ∧ Keyed.get? "error" answer = some (.obj error) ∧
    r.IsIn error

variable {host : Host O}

/-- What a node answers is the result of a call, or an error. -/
theorem call_answered {method : String} {params : Json} {s t : At O T} {text : String}
    (sent : (inWorld (World.send host s.1.url
      (.post s.1.url (bodyOf method params (s.1.calls + 1))))).run
        ({ s.1 with calls := s.1.calls + 1 }, s.2) = (.ok text, t)) :
    (call host method params).run s = (resultOf text, t) := by
  rw [call, Act.run_bind, Act.run_modify]
  show ((get : Act (At O T) (At O T)) >>= _).run _ = _
  rw [Act.run_bind, Act.run_get]
  show (inWorld _ >>= _).run _ = _
  rw [Act.run_bind_ok sent, Act.run_ofExcept]

theorem call_refused {method : String} {params : Json} {s t : At O T} {r : Refusal}
    (refuses : Refuses host method params s r t) :
    (call host method params).run s = (.error r.call, t) := by
  obtain ⟨text, answer, error, sent, read, there, given⟩ := refuses
  rw [call_answered sent, resultOf, read]
  simp only [there]
  rw [given.refusal]

theorem throw_refused {α : Type} (what : String) (r : Refusal) (s : At O T) :
    (Act.ofExcept (refused what r.call r.text) >>= fun e => (throw e : Act (At O T) α)).run s =
      (.error (r.outcome what), s) := by
  have read : refused what r.call r.text =
      r.reason >>= fun reason => .ok (.deployFailed (r.failure what reason)) := rfl
  rw [Act.run_bind, Act.run_ofExcept, read, Refusal.outcome]
  cases r.reason <;> rfl

/-- The parameters of the transaction that makes a contract. -/
def making (sender : Address) (code : Bytes) (limit : String) : Json :=
  .arr [.obj [("from", .str sender.shown), ("data", .str (Bytes.prefixedHex code)),
    ("gas", .str limit)]]

def calling (sender target : Address) (data : Bytes) (limit : String) : Json :=
  .arr [.obj [("from", .str sender.shown), ("to", .str target.shown),
    ("data", .str (Bytes.prefixedHex data)), ("gas", .str limit)], .str "latest"]

/-- What is refused when a function is called. -/
theorem callContract_refused {sender target : Address} {data : Bytes} {gas : Json} {limit : String}
    {s t : At O T} {r : Refusal} (limited : quantity gas = .ok limit)
    (refuses : Refuses host "eth_call" (calling sender target data limit) s r t) :
    (callContract host sender target data gas).run s = (.error (r.outcome "call"), t) := by
  rw [callContract, Act.run_bind, Act.run_ofExcept, limited]
  show (Act.attempt (call host "eth_call" (calling sender target data limit)) >>= _).run s = _
  rw [Act.run_bind, Act.run_attempt, call_refused refuses]
  exact throw_refused "call" r t

variable [Duration T]

/-- The receipt of a transaction is asked for until the node answers with an error, at a certain
number of polls at most. -/
inductive Polled (host : Host O) (transaction : Json) (deadline latency : T) :
    Nat → At O T → Refusal → At O T → Prop
  | refused {polls : Nat} {s t : At O T} {r : Refusal} :
      Refuses host "eth_getTransactionReceipt" (.arr [transaction]) s r t →
      Polled host transaction deadline latency (polls + 1) s r t
  | later {polls : Nat} {s t u : At O T} {r : Refusal} :
      (call host "eth_getTransactionReceipt" (.arr [transaction])).run s = (.ok .null, t) →
      Duration.isBelow deadline (t.2.now + latency) = false →
      Polled host transaction deadline latency polls ((inWorld (World.sleep latency)).run t).2 r u →
      Polled host transaction deadline latency (polls + 1) s r u

/-- By induction on the polls. -/
theorem poll_refused {transaction : Json} {deadline latency : T} {polls : Nat} {s t : At O T}
    {r : Refusal} (polled : Polled host transaction deadline latency polls s r t) :
    (poll host transaction deadline latency polls).run s = (.error r.call, t) := by
  induction polled with
  | refused refuses => exact poll_ends (call_refused refuses) nofun
  | later absent early _ ih => exact (poll_again absent early).trans ih

/-! ## Contracts that are refused -/

/-- A node refuses a contract: the transaction that makes it, its receipt, or the call of its
function. The contract has an address in the last case only. -/
inductive Denies (host : Host O) (name : String) (timeout : T) (gas : GasLimits) (sender : Address)
    (contract : Contract) (s : At O T) : Option Address → String → Refusal → At O T → Prop
  | transaction {t : At O T} {code : Bytes} {limit : String} {r : Refusal} :
      Chain.codeOf contract = .ok code → quantity gas.deploy = .ok limit →
      Refuses host "eth_sendTransaction" (making sender code limit) s r t →
      Denies host name timeout gas sender contract s none "deployment" r t
  | receipt {t u : At O T} {code : Bytes} {limit : String} {hash : Json} {r : Refusal} :
      Chain.codeOf contract = .ok code → quantity gas.deploy = .ok limit →
      (call host "eth_sendTransaction" (making sender code limit)).run s = (.ok hash, t) →
      Polled host hash (t.2.now + timeout) usualLatency
        (enoughPolls timeout (usualLatency : T)) t r u →
      Denies host name timeout gas sender contract s none "deployment" r u
  | call {t u : At O T} {address : Address} {entry : String} {function : Json} {data : Bytes}
      {limit : String} {r : Refusal} :
      (chain host name timeout).Makes gas sender contract s address t →
      contract.entry = some entry →
      Abi.findFunction? contract.abi (some entry) = .ok (some function) →
      Abi.selectorOf function = .ok data → quantity gas.call = .ok limit →
      Refuses host "eth_call" (calling sender address data limit) t r u →
      Denies host name timeout gas sender contract s (some address) "call" r u

/-- What is refused while a contract is made. -/
theorem create_refused {timeout : T} {sender : Address} {code : Bytes} {gas : Json} {limit : String}
    {s t : At O T} {r : Refusal} (limited : quantity gas = .ok limit)
    (fails : (receiptOf host (.obj [("from", .str sender.shown),
      ("data", .str (Bytes.prefixedHex code)), ("gas", .str limit)]) timeout).run s =
        (.error r.call, t)) :
    (create host timeout sender code gas).run s = (.error (r.outcome "deployment"), t) := by
  rw [create, Act.run_bind, Act.run_ofExcept, limited]
  show (Act.attempt (receiptOf host _ timeout) >>= _).run s = _
  rw [Act.run_bind, Act.run_attempt, fails]
  exact throw_refused "deployment" r t

variable {name : String} {timeout : T} {gas : GasLimits} {sender : Address} {contract : Contract}
  {s t : At O T}

/-- **A contract that is refused comes to what the program makes of the error**, whichever call it
answers. -/
theorem Denies.course {address : Option Address} {what : String} {r : Refusal}
    (denied : Denies host name timeout gas sender contract s address what r t) :
    (chain host name timeout).Course gas sender contract s
      (.stopped address (r.outcome what)) t := by
  cases denied with
  | transaction linked limited refuses =>
    refine .unmade linked (create_refused limited ?_)
    rw [receiptOf]
    exact Act.run_bind_error (call_refused refuses)
  | receipt linked limited sent polled =>
    refine .unmade linked (create_refused limited ?_)
    rw [receiptOf]
    refine (Act.run_bind_ok sent).trans ?_
    rw [Node.receipt, Act.run_bind, Act.run_get]
    exact poll_refused polled
  | call made called found named limited refuses =>
    exact .uncalled made called found named (callContract_refused limited refuses)

/-! ## Deployments on a node -/

/-- What becomes of a contract: the node refuses it, or it comes to an outcome otherwise. -/
inductive Turn where
  | denied (address : Option Address) (what : String) (r : Refusal)
  | other (outcome : Chain.Outcome)

def Turn.outcome : Turn → Chain.Outcome
  | denied address what r => .stopped address (r.outcome what)
  | other outcome => outcome

def Turn.result (contract : Contract) (turn : Turn) : Except Failure Deployed :=
  turn.outcome.result contract

/-- How a contract takes its turn. -/
inductive Takes (host : Host O) (name : String) (timeout : T) (gas : GasLimits) (sender : Address)
    (contract : Contract) (s : At O T) : Turn → At O T → Prop
  | denied {address : Option Address} {what : String} {r : Refusal} {t : At O T} :
      Denies host name timeout gas sender contract s address what r t →
      Takes host name timeout gas sender contract s (.denied address what r) t
  | other {outcome : Chain.Outcome} {t : At O T} :
      (¬ ∃ address what r t, Denies host name timeout gas sender contract s address what r t) →
      (chain host name timeout).Course gas sender contract s outcome t →
      Takes host name timeout gas sender contract s (.other outcome) t

theorem Takes.course {turn : Turn} (takes : Takes host name timeout gas sender contract s turn t) :
    (chain host name timeout).Course gas sender contract s turn.outcome t := by
  cases takes with
  | denied denied => exact denied.course
  | other _ course => exact course

theorem takes_explains (host : Host O) (name : String) (timeout : T) (gas : GasLimits)
    (sender : Address) : (chain host name timeout).Explains gas sender
      (Takes host name timeout gas sender) Turn.result where
  run takes := Chain.deployOne_run takes.course
  contract written := Chain.contract_of_result written

theorem exists_turn (host : Host O) (name : String) (timeout : T) (gas : GasLimits)
    (sender : Address) (formed : Chain.IsFormed contract) (s : At O T) :
    ∃ turn t, Takes host name timeout gas sender contract s turn t := by
  by_cases refused : ∃ address what r t,
      Denies host name timeout gas sender contract s address what r t
  · obtain ⟨address, what, r, t, denied⟩ := refused
    exact ⟨_, t, .denied denied⟩
  · obtain ⟨outcome, t, course⟩ :=
      Chain.exists_course (chain host name timeout) gas sender formed s
    exact ⟨_, t, .other refused course⟩

/-- A refusal whose data can be read is written down. -/
theorem result_denied {address : Option Address} {what : String} {r : Refusal}
    {reason : Option String} (contract : Contract) (read : r.reason = .ok reason) :
    (Turn.denied address what r).result contract =
      .ok (Chain.recorded contract address (r.failure what reason)) := by
  simp only [Turn.result, Turn.outcome, Refusal.outcome, read]
  rfl

/-- One whose data are garbled is not. -/
theorem result_garbled {address : Option Address} {what : String} {r : Refusal} {e : Failure}
    (contract : Contract) (garbled : r.Garbles e) :
    (Turn.denied address what r).result contract = .error e := by
  simp only [Turn.result, Turn.outcome, Refusal.outcome, Refusal.reason_error.mpr garbled]
  obtain ⟨_, _, ⟨_, rfl⟩ | ⟨_, _, _, _, rfl | rfl⟩⟩ := garbled <;> rfl

end Node

namespace Backend

variable {O T : Type} [Duration T]

open Node (Takes Turn)

/-- What a deployment on a node gives after its course. -/
theorem deployAt_remote {host : Host O} {b : Backend O T} {world : World O T} {node : Node}
    {timeout : T} {contracts : Keyed Contract} {sender : Address} {others : List Address}
    {before after : Node.At O T} {turns : List (Contract × Turn)}
    (venue : b.venue = .remote node timeout)
    (accounts : (Node.accounts host nodeName).run (node, world) = (.ok (sender :: others), before))
    (courses : Chain.Courses (Takes host nodeName timeout b.gas sender) Turn.result
      (Chain.ordered (contracts.map (·.2))) before turns after) :
    (deployAt host b.gas contracts b.venue).run (b, world) =
      ((Chain.results Turn.result turns).map Chain.byName,
        ({ b with venue := .remote after.1 timeout }, after.2)) := by
  have explains := Node.takes_explains host nodeName timeout b.gas sender
  have chained := Chain.deploy_run explains accounts courses
  rw [venue]
  show (atVenue node (.remote · timeout)
    ((Node.chain host nodeName timeout).deploy b.gas contracts)).run (b, world) = _
  rw [atVenue, Act.run_ofRun, chained]

/-- What a deployment on a node leaves behind, by what became of its contracts: what the node
refused is written down, with the reason that its data hold, and all other contracts are deployed;
data that are garbled end the deployment. -/
structure Denied (host : Host O) (b : Backend O T) (world : World O T) (timeout : T)
    (contracts : Keyed Contract) (turns : List (Contract × Turn)) (after : Node.At O T) : Prop where
  kept : (∀ contract outcome, (contract, .other outcome) ∈ turns →
      ∃ d, outcome.result contract = .ok d) →
    (∀ contract address what r, (contract, .denied address what r) ∈ turns → ∀ e, ¬ r.Garbles e) →
    ∃ ds, Chain.Recorded contracts b.ledger ds ∧
      (deploy host contracts).run (b, world) =
        (.ok (Chain.byName ds),
          ({ b with venue := .remote after.1 timeout,
                    ledger := b.ledger.record (Chain.byName ds) }, after.2)) ∧
      ∀ contract address what r, (contract, .denied address what r) ∈ turns →
        ∃ reason, Chain.recorded contract address (r.failure what reason) ∈ ds ∧
          ∀ t, reason = some t ↔ ∃ p : Abi.Payload, r.Tells p ∧ p.reason = t
  ended : ∀ contract address what r e, (contract, .denied address what r) ∈ turns → r.Garbles e →
    (deploy host contracts).run (b, world) =
      (.error e, ({ b with venue := .remote after.1 timeout }, after.2))

/-- **A deployment on a node with an account has a course**, whichever contracts the node refuses,
and leaves behind what came of them. -/
theorem deploy_denied {host : Host O} {b : Backend O T} {world : World O T} {node : Node}
    {timeout : T} {contracts : Keyed Contract} {sender : Address} {others : List Address}
    {before : Node.At O T} (venue : b.venue = .remote node timeout)
    (accounts : (Node.accounts host nodeName).run (node, world) = (.ok (sender :: others), before))
    (formed : ∀ c ∈ contracts, Chain.IsFormed c.2) :
    ∃ turns after,
      Chain.Courses (Takes host nodeName timeout b.gas sender) Turn.result
        (Chain.ordered (contracts.map (·.2))) before turns after ∧
      Denied host b world timeout contracts turns after := by
  have explains := Node.takes_explains host nodeName timeout b.gas sender
  obtain ⟨turns, after, courses⟩ := Chain.exists_courses Turn.result (Chain.formed_ordered formed)
    (fun _ formed => Node.exists_turn host nodeName timeout b.gas sender formed) before
  have placed := deployAt_remote venue accounts courses
  refine ⟨turns, after, courses, ?_, ?_⟩
  · intro others readable
    have read (contract address what r) (there : (contract, Turn.denied address what r) ∈ turns) :
        ∃ reason, r.reason = .ok reason := by
      cases decoded : r.reason with
      | ok reason => exact ⟨reason, rfl⟩
      | error e =>
        exact absurd (Refusal.reason_error.mp decoded) (readable contract address what r there e)
    have each : ∀ c ∈ turns, ∃ d, Turn.result c.1 c.2 = .ok d := by
      rintro ⟨contract, turn⟩ there
      cases turn with
      | denied address what r =>
        obtain ⟨reason, decoded⟩ := read contract address what r there
        exact ⟨_, Node.result_denied contract decoded⟩
      | other outcome => exact others contract outcome there
    obtain ⟨ds, written⟩ := Chain.results_ok each
    refine ⟨ds, courses.recorded explains written b.ledger, ?_, ?_⟩
    · rw [written] at placed
      exact deploy_run_ok placed
    · intro contract address what r there
      obtain ⟨reason, decoded⟩ := read contract address what r there
      obtain ⟨d, listed, one⟩ := Chain.mem_results written there
      cases (Node.result_denied contract decoded).symm.trans one
      refine ⟨reason, listed, ?_⟩
      intro t
      rw [← Refusal.reason_eq_some, decoded, Except.ok.injEq]
  · intro contract address what r e there garbled
    rw [courses.stopped there (Node.result_garbled contract garbled)] at placed
    exact deploy_run_error placed

/-! ## A node that refuses everything -/

/-- What lists the accounts of a node with one. -/
def oneAccount : String :=
  "\x7b\"result\": [\"0x0000000000000000000000000000000000000001\"]\x7d"

/-- A node with one account that answers whatever else it is asked the same. -/
def refusing (answer : String) : Host Unit :=
  { silent with request := fun request =>
      match request with
      | .post _ (.obj fields) =>
        match Keyed.get? "method" fields with
        | some (.str "eth_accounts") => return ⟨200, "", oneAccount⟩
        | _ => return ⟨200, "", answer⟩
      | _ => throw .unsupported }

def distant : Backend Unit Rat :=
  { venue := .remote { url := "http://node" } 60, gas := ⟨.int 1, .int 1⟩ }

theorem ok_of_toOption {ε α : Type} {r : Except ε α} {a : α} (given : r.toOption = some a) :
    r = .ok a := by
  cases r with
  | error e => cases given
  | ok a' =>
    cases given
    rfl

theorem accounts_refusing (answer : String) (node : Node) (world : World Unit Rat) :
    ∃ before, (Node.accounts (refusing answer) nodeName).run (node, world) =
      (.ok [.ofNat 1], before) := by
  have one : (do (← (← Node.resultOf oneAccount).parts).mapM Address.ofJson).toOption =
      some [.ofNat 1] := by decide +kernel
  have called : (Node.call (refusing answer) "eth_accounts" (.arr [])).run (node, world) =
      (Node.resultOf oneAccount, _) := Node.call_answered rfl
  rw [Node.accounts, Act.run_bind, Act.run_attempt, called]
  cases listed : Node.resultOf oneAccount with
  | error e =>
    rw [listed] at one
    cases one
  | ok accounts =>
    rw [listed] at one
    exact ⟨_, Prod.ext (ok_of_toOption one) rfl⟩

/-- An answer with an error that has no data. -/
def declined : String := "\x7b\"error\": \x7b\"code\": 3, \"message\": \"declined\"\x7d\x7d"

/-- A node that refuses everything ends no deployment with that. -/
theorem deploy_denied_everything :
    ∃ before,
      distant.venue = .remote { url := "http://node" } 60 ∧
      (Node.accounts (refusing declined) nodeName).run ({ url := "http://node" }, bare) =
        (.ok [.ofNat 1], before) ∧
      (∀ c ∈ [("S", speaker), ("L", library)], Chain.IsFormed c.2) ∧
      ∃ turns after,
        Chain.Courses (Takes (refusing declined) nodeName 60 distant.gas (.ofNat 1)) Turn.result
          (Chain.ordered ([("S", speaker), ("L", library)].map (·.2))) before turns after ∧
        Denied (refusing declined) distant bare 60 [("S", speaker), ("L", library)] turns
          after := by
  obtain ⟨before, accounts⟩ := accounts_refusing declined { url := "http://node" } bare
  have venue : distant.venue = .remote { url := "http://node" } 60 := rfl
  exact ⟨before, venue, accounts, both_formed, deploy_denied venue accounts both_formed⟩

/-- An answer with an error whose data are words. -/
def reverted : String :=
  "\x7b\"error\": \x7b\"code\": 3, \"message\": \"reverted\", \"data\": \"no bytes\"\x7d\x7d"

def revertedField (key : String) : Option Json :=
  ((Json.read reverted).toOption.bind (·.get? "error")).bind (·.get? key)

theorem read_reverted :
    ∃ answer error r, Json.read reverted = .ok (.obj answer) ∧
      Keyed.get? "error" answer = some (.obj error) ∧ Refusal.IsIn r error ∧
      r.text = some "no bytes" := by
  have code : (revertedField "code").isSome = true := by decide +kernel
  have message : (revertedField "message").isSome = true := by decide +kernel
  have words : (revertedField "data").bind Json.text? = some "no bytes" := by decide +kernel
  obtain ⟨data, field, text⟩ := Option.bind_eq_some_iff.mp words
  obtain ⟨_, found, inError⟩ := Option.bind_eq_some_iff.mp field
  obtain ⟨_, read, inAnswer⟩ := Option.bind_eq_some_iff.mp found
  obtain ⟨answer, rfl, there⟩ := Abi.exists_fields inAnswer
  obtain ⟨error, rfl, given⟩ := Abi.exists_fields inError
  have fields (key : String) : revertedField key = Keyed.get? key error := by
    rw [revertedField, found]
    rfl
  rw [fields] at code message
  obtain ⟨code, hasCode⟩ := Option.isSome_iff_exists.mp code
  obtain ⟨message, hasMessage⟩ := Option.isSome_iff_exists.mp message
  have same : Refusal.IsIn ⟨code, message, data⟩ error := by
    refine ⟨hasCode, hasMessage, ?_⟩
    rw [given]
    rfl
  cases data with
  | str s => exact ⟨answer, error, _, ok_of_toOption read, there, same, text⟩
  | _ => cases text

theorem refuses_reverted (params : Json) (s : Node.At Unit Rat) :
    ∃ r t, Node.Refuses (refusing reverted) "eth_sendTransaction" params s r t ∧
      r.Garbles .invalidValue := by
  obtain ⟨answer, error, r, read, there, given, words⟩ := read_reverted
  have unread : Bytes.ofPrefixedHex? "no bytes" = none := by decide +kernel
  exact ⟨r, _, ⟨reverted, answer, error, rfl, read, there, given⟩,
    "no bytes", words, .inl ⟨unread, rfl⟩⟩

/-- Words in the data of an error end the deployment. -/
theorem deploy_garbled :
    ∃ before r after,
      (Node.accounts (refusing reverted) nodeName).run ({ url := "http://node" }, bare) =
        (.ok [.ofNat 1], before) ∧
      Node.Denies (refusing reverted) nodeName 60 distant.gas (.ofNat 1) library before none
        "deployment" r after ∧
      ((deploy (refusing reverted) [("L", library)]).run (distant, bare)).1 =
        .error .invalidValue := by
  obtain ⟨before, accounts⟩ := accounts_refusing reverted { url := "http://node" } bare
  obtain ⟨r, after, refuses, garbled⟩ :=
    refuses_reverted (Node.making (.ofNat 1) [0] (Text.hexShown 1)) before
  have denied : Node.Denies (refusing reverted) nodeName 60 distant.gas (.ofNat 1) library before
      none "deployment" r after := .transaction rfl rfl refuses
  have unwritten : (Turn.denied none "deployment" r).result library = .error .invalidValue :=
    Node.result_garbled library garbled
  have courses : Chain.Courses (Takes (refusing reverted) nodeName 60 distant.gas (.ofNat 1))
      Turn.result [library] before [(library, .denied none "deployment" r)] after :=
    .stop rfl (.denied denied) unwritten
  have placed : (deployAt (refusing reverted) distant.gas [("L", library)] distant.venue).run
      (distant, bare) = _ := deployAt_remote rfl accounts courses
  have ended : Chain.results Turn.result [(library, .denied none "deployment" r)] =
      .error .invalidValue := by
    rw [Chain.results_cons, unwritten]
    rfl
  rw [ended] at placed
  refine ⟨before, r, after, accounts, denied, ?_⟩
  rw [deploy_run_error placed]

end Backend

end SolidityRepl
