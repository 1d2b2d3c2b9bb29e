import SolidityRepl.Node.Chain
import SolidityRepl.Proofs.World.Deed

/-!
# Talk with nodes

Every call of a node is one request, and nothing else is done to get something from a node but to
wait between two requests. What a call comes to is decided by the answer to its request alone.
-/

namespace SolidityRepl

variable {O T : Type}

namespace World

variable [Duration T]

/-- The answer of a web server, unless it says that something went wrong. -/
def replied (url : String) (answer : Except Failure Reply) : Except Failure String :=
  answer >>= fun reply => match reply.fault? url with
    | some fault => .error fault
    | none => .ok reply.text

theorem send_run (host : Host O) (url : String) (request : Request) (w : World O T) :
    ∃ answer w', Does host w (.requested request answer) w' ∧
      (send host url request).run w = (replied url answer, w') := by
  simp only [send, record, Act.run_bind, Act.run_ofRun, ask, Act.run_zoom]
  generalize asked : (host.request request).run w.outside = answered
  obtain ⟨answer, outside⟩ := answered
  refine ⟨answer, { w with outside, journal := w.journal ++ [.requested request] },
    ⟨asked, rfl⟩, ?_⟩
  cases answer with
  | error e => rfl
  | ok reply =>
    simp only [replied, bind, Except.bind]
    cases reply.fault? url <;> rfl

end World

namespace Chain

variable {W : Type} {P : W → Prop} {chain : Chain W} (gas : GasLimits)

theorem blame_keeps {α : Type} (contract : Contract) (fail : DeployFailure → α) (e : Failure) :
    Act.Keeps P (blame contract fail e : Act W α) := by
  cases e with
  | deployFailed _ => exact .pure _
  | _ => exact .throw _

theorem callEntry_keeps
    (call : ∀ sender target data gas, Act.Keeps P (chain.call sender target data gas))
    (sender : Address) (contract : Contract) (entry : String) (address : Address) :
    Act.Keeps P (chain.callEntry gas sender contract entry address) := by
  refine .bind (.ofExcept _) fun function? => ?_
  cases function? with
  | none => exact .throw _
  | some function => exact .bind (.ofExcept _) fun _ => .bind (call _ _ _ _) fun _ => .ofExcept _

theorem deployOne_keeps (create : ∀ sender code gas, Act.Keeps P (chain.create sender code gas))
    (call : ∀ sender target data gas, Act.Keeps P (chain.call sender target data gas))
    (sender : Address) (contract : Contract) :
    Act.Keeps P (chain.deployOne gas sender contract) := by
  refine .bind (.attempt (.bind (.ofExcept _) fun _ => create _ _ _)) fun made => ?_
  cases made with
  | error e => exact blame_keeps contract _ e
  | ok address =>
    dsimp only
    rw [finish]
    split
    · exact .pure _
    · refine .bind (.attempt (callEntry_keeps gas call _ _ _ _)) fun value => ?_
      cases value with
      | ok value => exact .pure _
      | error e => exact blame_keeps contract _ e

theorem deployAll_keeps (create : ∀ sender code gas, Act.Keeps P (chain.create sender code gas))
    (call : ∀ sender target data gas, Act.Keeps P (chain.call sender target data gas))
    (sender : Address) (contracts : List Contract) :
    Act.Keeps P (chain.deployAll gas sender contracts) := by
  induction contracts with
  | nil => exact .pure _
  | cons contract rest ih =>
    refine .bind (.ofExcept _) fun deployable => ?_
    cases deployable with
    | false => exact ih
    | true =>
      refine .bind (deployOne_keeps gas create call sender contract) fun deployed => ?_
      exact .bind ih fun _ => .pure _

/-- **A deployment keeps what the chain keeps** in all that it is asked for. -/
theorem deploy_keeps (accounts : Act.Keeps P chain.accounts)
    (create : ∀ sender code gas, Act.Keeps P (chain.create sender code gas))
    (call : ∀ sender target data gas, Act.Keeps P (chain.call sender target data gas))
    (contracts : Keyed Contract) : Act.Keeps P (chain.deploy gas contracts) := by
  refine .bind accounts fun senders => ?_
  cases senders with
  | nil => exact .throw _
  | cons sender _ => exact .bind (deployAll_keeps gas create call sender _) fun _ => .pure _

end Chain

namespace Node

variable [Duration T]

def answered (url : String) (answer : Except Failure Reply) : Except Failure Json :=
  World.replied url answer >>= resultOf

/-- A call is one request. -/
theorem call_run (host : Host O) (method : String) (params : Json) (s : At O T) :
    ∃ answer w', World.Does host s.2
        (.requested (.post s.1.url (bodyOf method params (s.1.calls + 1))) answer) w' ∧
      (call host method params).run s =
        (answered s.1.url answer, ({ s.1 with calls := s.1.calls + 1 }, w')) := by
  obtain ⟨answer, w', does, sent⟩ := World.send_run host s.1.url
    (.post s.1.url (bodyOf method params (s.1.calls + 1))) s.2
  refine ⟨answer, w', does, ?_⟩
  simp only [call, Act.run_bind, Act.run_modify, Act.run_get, inWorld, Act.run_zoom, sent, answered]
  cases World.replied s.1.url answer <;> rfl

/-- Whether a node is there, by what it answered. -/
def listens (url : String) (answer : Except Failure Reply) : Except Failure Bool :=
  match answered url answer with
  | .ok _ => .ok true
  | .error e => if e.isUnreachable then .ok false else .error e

theorem isListening_run (host : Host O) (s : At O T) :
    ∃ answer w', World.Does host s.2
        (.requested (.post s.1.url (bodyOf "eth_accounts" (.arr []) (s.1.calls + 1))) answer) w' ∧
      (isListening host).run s =
        (listens s.1.url answer, ({ s.1 with calls := s.1.calls + 1 }, w')) := by
  obtain ⟨answer, w', does, called⟩ := call_run host "eth_accounts" (.arr []) s
  refine ⟨answer, w', does, ?_⟩
  simp only [isListening, Act.run_bind, Act.run_attempt, called, listens]
  cases answered s.1.url answer with
  | ok json => rfl
  | error e =>
    dsimp only
    split <;> rfl

/-! ## Talk -/

/-- A node that was talked to, and nothing else was done. -/
structure Talked (host : Host O) (s t : At O T) : Prop where
  url : t.1.url = s.1.url
  reaches : World.Reaches host Deed.isTalk s.2 t.2

variable {host : Host O} {s : At O T}

theorem Talked.refl (host : Host O) (s : At O T) : Talked host s s :=
  ⟨rfl, .refl host _ s.2⟩

theorem call_talks (method : String) (params : Json) :
    Act.Keeps (Talked host s) (call host method params) := by
  intro t talked
  obtain ⟨answer, w', does, called⟩ := call_run host method params t
  rw [called]
  exact ⟨talked.url, talked.reaches.trans (does.reaches rfl)⟩

theorem sleep_talks (time : T) : Act.Keeps (Talked host s) (inWorld (World.sleep time)) :=
  fun t talked => ⟨talked.url, talked.reaches.trans ((World.does_sleep host time t.2).reaches rfl)⟩

/-- By induction on the polls. -/
theorem poll_talks (transaction : Json) (deadline latency : T) (polls : Nat) :
    Act.Keeps (Talked host s) (poll host transaction deadline latency polls) := by
  induction polls with
  | zero => exact .throw _
  | succ polls ih =>
    refine .bind (call_talks _ _) fun receipt => ?_
    cases receipt with
    | null =>
      refine .bind .get fun t => ?_
      dsimp only
      split
      · exact .throw_bind _ _
      · exact .bind (sleep_talks latency) fun _ => ih
    | bool _ | int _ | real _ | str _ | arr _ | obj _ => exact .pure _

theorem receiptOf_talks (transaction : Json) (timeout : T) :
    Act.Keeps (Talked host s) (receiptOf host transaction timeout) :=
  .bind (call_talks _ _) fun _ => .bind .get fun _ => poll_talks _ _ _ _

theorem accounts_talks (name : String) :
    Act.Keeps (Talked host s) (accounts host name) := by
  refine .bind (.attempt (call_talks _ _)) fun answer => ?_
  cases answer with
  | ok answer => exact .ofExcept _
  | error e => exact .throw _

theorem create_talks (timeout : T) (sender : Address) (code : Bytes) (gas : Json) :
    Act.Keeps (Talked host s) (create host timeout sender code gas) := by
  refine .bind (.ofExcept _) fun limit => ?_
  refine .bind (.attempt (receiptOf_talks _ timeout)) fun answer => ?_
  cases answer with
  | ok receipt => exact .ofExcept _
  | error e =>
    dsimp only
    split
    · exact .bind (.ofExcept _) fun _ => .throw _
    · exact .throw _

theorem callContract_talks (sender target : Address) (data : Bytes) (gas : Json) :
    Act.Keeps (Talked host s) (callContract host sender target data gas) := by
  refine .bind (.ofExcept _) fun limit => ?_
  refine .bind (.attempt (call_talks _ _)) fun answer => ?_
  cases answer with
  | ok answer => exact .ofExcept _
  | error e =>
    dsimp only
    split
    · exact .bind (.ofExcept _) fun _ => .throw _
    · exact .throw _

/-- **A deployment on a node is talk with it.** -/
theorem deploy_talks (name : String) (timeout : T) (gas : GasLimits) (contracts : Keyed Contract) :
    Act.Keeps (Talked host s) ((chain host name timeout).deploy gas contracts) :=
  Chain.deploy_keeps gas (accounts_talks name) (create_talks timeout) callContract_talks contracts

/-! ## Polls for a receipt -/

section

variable {transaction : Json} {deadline latency : T} {t : At O T} {polls : Nat}

def receiptCall (host : Host O) (transaction : Json) : Act (At O T) Json :=
  call host "eth_getTransactionReceipt" (.arr [transaction])

/-- The pause after a poll, which is always the same. -/
def pauseFor (latency : T) (_ : Nat) : Act (At O T) Unit := inWorld (World.sleep latency)

def concluded (transaction : Json) : Except Failure Json → Except Failure Json
  | .ok .null => .error (.unanswered transaction)
  | r => r

/-- A poll after which there is no other. -/
theorem poll_ends {r : Except Failure Json} (asked : (receiptCall host transaction).run s = (r, t))
    (ends : r = .ok .null → Duration.isBelow deadline (t.2.now + latency) = true) :
    (poll host transaction deadline latency (polls + 1)).run s = (concluded transaction r, t) := by
  rw [receiptCall] at asked
  cases r with
  | error e => exact Act.run_bind_error asked
  | ok receipt =>
    rw [poll, Act.run_bind_ok asked]
    cases receipt with
    | null =>
      dsimp only
      rw [Act.run_bind_ok (Act.run_get t), ends rfl]
      rfl
    | bool _ | int _ | real _ | str _ | arr _ | obj _ => rfl

/-- A poll after which there is another one. -/
theorem poll_again (asked : (receiptCall host transaction).run s = (.ok .null, t))
    (early : Duration.isBelow deadline (t.2.now + latency) = false) :
    (poll host transaction deadline latency (polls + 1)).run s =
      (poll host transaction deadline latency polls).run ((pauseFor latency 0).run t).2 := by
  rw [receiptCall] at asked
  rw [poll, Act.run_bind_ok asked]
  dsimp only
  rw [Act.run_bind_ok (Act.run_get t), early]
  rfl

end

end Node

end SolidityRepl
