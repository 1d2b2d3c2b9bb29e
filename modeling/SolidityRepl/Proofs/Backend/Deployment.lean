import SolidityRepl.Proofs.Backend.Course

/-!
# Answers that are no encodings

A function of a contract may answer with any bytes. Those that are no encoding of what it declares
are a failure that is written down; those that fail to be decoded in another way end the deployment.
-/

namespace SolidityRepl.Chain

open Abi

variable {W : Type} {chain : Chain W} {gas : GasLimits} {sender : Address}

/-! ## Outcomes that can be written down -/

/-- A chain whose failures to make and to call contracts are failures to deploy. -/
structure IsRecording (chain : Chain W) : Prop where
  create : ∀ sender code gas s e, ((chain.create sender code gas).run s).1 = .error e →
    ∃ d, e = .deployFailed d
  call : ∀ sender target data gas s e, ((chain.call sender target data gas).run s).1 = .error e →
    ∃ d, e = .deployFailed d

/-- What a function answered is its value, or no encoding. -/
def Outcome.IsKept : Outcome → Prop
  | answered _ function output =>
    ∀ e, outputsOf function output = .error e → e.isUndecodable = true
  | _ => True

theorem codeOf_error {contract : Contract} {e : Failure} (formed : IsFormed contract)
    (unlinked : codeOf contract = .error e) : ∃ d, e = .deployFailed d := by
  obtain ⟨s, code⟩ := formed.code
  rw [codeOf, code, Node.bytesOf, Node.bytesOfText] at unlinked
  cases read : Bytes.ofPrefixedHex? s with
  | some bytes =>
    rw [read] at unlinked
    cases unlinked
  | none =>
    rw [read] at unlinked
    cases unlinked
    exact ⟨_, rfl⟩

/-- What ends a deployment: a function's answer that is neither its value nor no encoding. -/
def Outcome.Ends (outcome : Outcome) (e : Failure) : Prop :=
  ∃ address function output, outcome = .answered address function output ∧
    outputsOf function output = .error e ∧ (e = .tooLarge ∨ e = .badText ∨ e = .invalidValue)

/-- What can be written down, or ends the deployment. -/
def Outcome.Decides (contract : Contract) (outcome : Outcome) : Prop :=
  (outcome.IsKept ∧ ∃ d, outcome.result contract = .ok d) ∨
    ∃ e, ¬ outcome.IsKept ∧ outcome.Ends e ∧ outcome.result contract = .error e

theorem answered_decides (contract : Contract) (address : Address) {function : Json}
    (output : Bytes) (described : IsDescribed function) :
    (Outcome.answered address function output).Decides contract := by
  cases decoded : outputsOf function output with
  | ok v =>
    refine .inl ⟨fun e fails => ?_, { contract, address := some address, value := v }, ?_⟩
    · rw [decoded] at fails
      cases fails
    · rw [Outcome.result, decoded]
  | error e =>
    by_cases undecodable : e.isUndecodable = true
    · refine .inl ⟨fun e' fails => ?_,
        recorded contract (some address) { message := "cannot decode return value" }, ?_⟩
      · cases decoded.symm.trans fails
        exact undecodable
      · rw [Outcome.result, decoded]
        exact if_pos undecodable
    · have kinds := (outputsOf_error described decoded).resolve_left undecodable
      refine .inr ⟨e, fun kept => undecodable (kept e decoded), ⟨_, _, _, rfl, decoded, kinds⟩, ?_⟩
      rw [Outcome.result, decoded]
      simp only [if_neg undecodable]
      rcases kinds with rfl | rfl | rfl <;> rfl

/-- On such a chain a contract that is well formed is written down, or ends the deployment by what
its function answered. -/
theorem Course.decides {contract : Contract} {s t : W} {outcome : Outcome}
    (recording : chain.IsRecording) (formed : IsFormed contract)
    (course : Course chain gas sender contract s outcome t) : outcome.Decides contract := by
  cases course with
  | unlinked broken =>
    obtain ⟨d, rfl⟩ := codeOf_error formed broken
    exact .inl ⟨trivial, _, rfl⟩
  | unmade _ fails =>
    obtain ⟨d, rfl⟩ := recording.create _ _ _ _ _ (congrArg Prod.fst fails)
    exact .inl ⟨trivial, _, rfl⟩
  | placed _ _ => exact .inl ⟨trivial, _, rfl⟩
  | missing _ _ _ => exact .inl ⟨trivial, _, rfl⟩
  | uncalled _ _ _ _ fails =>
    obtain ⟨d, rfl⟩ := recording.call _ _ _ _ _ _ (congrArg Prod.fst fails)
    exact .inl ⟨trivial, _, rfl⟩
  | answered _ called found _ _ =>
    obtain ⟨function?, found', named⟩ := formed.entry _ called
    cases found.symm.trans found'
    exact answered_decides contract _ _ (named _ rfl).2

/-- Contracts are all written down if the answers of all their functions can be; otherwise one of
these ends the deployment. -/
theorem Courses.decides {contracts : List Contract} {s t : W}
    {outcomes : List (Contract × Outcome)} (recording : chain.IsRecording)
    (formed : ∀ contract ∈ contracts, IsFormed contract)
    (courses : Courses (Course chain gas sender) Outcome.result contracts s outcomes t) :
    ((∀ c ∈ outcomes, c.2.IsKept) → ∃ ds, results Outcome.result outcomes = .ok ds) ∧
      ((∃ c ∈ outcomes, ¬ c.2.IsKept) → ∃ e, (∃ c ∈ outcomes, c.2.Ends e) ∧
        results Outcome.result outcomes = .error e) := by
  have each : ∀ c ∈ outcomes, c.2.Decides c.1 :=
    courses.forall fun contract there _ _ _ course =>
      course.decides recording (formed contract there)
  constructor
  · intro kept
    refine results_ok fun c among => ?_
    rcases each c among with ⟨_, written⟩ | ⟨_, unkept, _⟩
    · exact written
    · exact absurd (kept c among) unkept
  · rintro ⟨c, among, unkept⟩
    rcases each c among with ⟨kept, _⟩ | ⟨e, _, ends, unwritten⟩
    · exact absurd kept unkept
    · exact ⟨e, ⟨c, among, ends⟩, courses.stopped among unwritten⟩

end SolidityRepl.Chain

namespace SolidityRepl.Backend

open Abi

variable {O T : Type} [Duration T]

/-! ## Deployments on a chain of a host -/

/-- What a deployment on a chain of a host gives after its course. -/
theorem deployAt_plugged (host : Host O) {b : Backend O T} {world : World O T} {plugin : Plugin O}
    {contracts : Keyed Contract} {sender : Address} {others : List Address} {before after : O}
    {outcomes : List (Contract × Chain.Outcome)} (venue : b.venue = .plugged plugin)
    (accounts : plugin.chain.accounts.run world.outside = (.ok (sender :: others), before))
    (courses : Chain.Courses (plugin.chain.Course b.gas sender) Chain.Outcome.result
      (Chain.ordered (contracts.map (·.2))) before outcomes after) :
    (deployAt host b.gas contracts b.venue).run (b, world) =
      ((Chain.results Chain.Outcome.result outcomes).map Chain.byName,
        (b, { world with outside := after })) := by
  have explains := Chain.course_explains plugin.chain b.gas sender
  have chained := Chain.deploy_run explains accounts courses
  rw [venue]
  show (byHost (plugin.chain.deploy b.gas contracts)).run (b, world) = _
  simp only [byHost, World.ask, Act.run_zoom, chained]

/-- What a deployment on a chain of a host leaves behind, by what its contracts came to: what a
function answered that is no encoding is written down, and the rest is kept; an answer of too many
bytes, or one that is no text, or one with a struct that gets no name ends the deployment. -/
structure Answered (host : Host O) (b : Backend O T) (world : World O T)
    (contracts : Keyed Contract) (outcomes : List (Contract × Chain.Outcome)) (after : O) :
    Prop where
  kept : (∀ c ∈ outcomes, c.2.IsKept) → ∃ ds, Chain.Recorded contracts b.ledger ds ∧
    (deploy host contracts).run (b, world) =
      (.ok (Chain.byName ds), ({ b with ledger := b.ledger.record (Chain.byName ds) },
        { world with outside := after })) ∧
    ∀ contract address function output e,
      (contract, .answered address function output) ∈ outcomes →
      outputsOf function output = .error e →
      Chain.recorded contract (some address) { message := "cannot decode return value" } ∈ ds
  ended : (∃ c ∈ outcomes, ¬ c.2.IsKept) → ∃ e, (∃ c ∈ outcomes, c.2.Ends e) ∧
    (deploy host contracts).run (b, world) = (.error e, (b, { world with outside := after }))

/-- **A deployment of contracts that are well formed has a course**, whatever their functions
answer, and leaves behind what they came to. -/
theorem deploy_answered {host : Host O} {b : Backend O T} {world : World O T} {plugin : Plugin O}
    {contracts : Keyed Contract} {sender : Address} {others : List Address} {before : O}
    (venue : b.venue = .plugged plugin) (recording : plugin.chain.IsRecording)
    (accounts : plugin.chain.accounts.run world.outside = (.ok (sender :: others), before))
    (formed : ∀ c ∈ contracts, Chain.IsFormed c.2) :
    ∃ outcomes after,
      Chain.Courses (plugin.chain.Course b.gas sender) Chain.Outcome.result
        (Chain.ordered (contracts.map (·.2))) before outcomes after ∧
      Answered host b world contracts outcomes after := by
  have explains := Chain.course_explains plugin.chain b.gas sender
  have formed' := Chain.formed_ordered formed
  obtain ⟨outcomes, after, courses⟩ :=
    Chain.exists_courses Chain.Outcome.result formed'
      (fun _ formed => Chain.exists_course plugin.chain b.gas sender formed) before
  have placed := deployAt_plugged host venue accounts courses
  obtain ⟨all, ended⟩ := courses.decides recording formed'
  refine ⟨outcomes, after, courses, ?_, ?_⟩
  · intro kept
    obtain ⟨ds, written⟩ := all kept
    refine ⟨ds, courses.recorded explains written b.ledger, ?_, ?_⟩
    · rw [written] at placed
      exact deploy_run_ok placed
    · intro contract address function output e there fails
      have undecodable := kept _ there e fails
      obtain ⟨d, listed, one⟩ := Chain.mem_results written there
      rw [Chain.Outcome.result, fails] at one
      simp only [undecodable, if_true] at one
      cases one
      exact listed
  · intro unkept
    obtain ⟨e, ends, fails⟩ := ended unkept
    refine ⟨e, ends, ?_⟩
    rw [fails] at placed
    exact deploy_run_error placed

/-! ## A chain that always answers the same -/

def silent : Host Unit where
  compile _ _ := throw .unsupported
  request _ := throw .unsupported
  spawn _ := throw .unsupported
  poll := throw .unsupported
  wait _ := throw .unsupported
  installable := []

def bare : World Unit Rat := ⟨(), default, 0, [], [], []⟩

def echoing (output : Bytes) : Plugin Unit where
  chain :=
    { accounts := pure [.ofNat 1]
      create := fun _ _ _ => pure (.ofNat 2)
      call := fun _ _ _ _ => pure output }
  answer _ _ := throw .unsupported
  start := pure ()
  stop := pure ()

/-- A backend with such a chain. -/
def echo (output : Bytes) : Backend Unit Rat :=
  { venue := .plugged (echoing output), gas := default }

theorem echoing_records (output : Bytes) : (echoing output).chain.IsRecording where
  create _ _ _ _ _ fails := nomatch fails
  call _ _ _ _ _ _ fails := nomatch fails

def library : Contract := { name := "L", abi := .arr [], bytecode := .str "00" }

def speaker : Contract :=
  { name := "S", abi := .arr [answering "string" []], bytecode := .str "00", entry := some "main" }

theorem library_formed : Chain.IsFormed library where
  code := ⟨_, rfl⟩
  entry _ called := nomatch called

theorem string_returned :
    Returns (named Text.isFreeIdentifier) (answering "string" []) [.leaf .string] :=
  ⟨_, rfl, ⟨rfl, rfl⟩, trivial⟩

theorem speaker_formed : Chain.IsFormed speaker where
  code := ⟨_, rfl⟩
  entry entry called := by
    cases called
    refine ⟨some (answering "string" []), rfl, fun function found => ?_⟩
    cases found
    exact ⟨⟨_, rfl⟩, _, _, _, named_gives, string_returned, trivial, trivial⟩

theorem both_formed : ∀ c ∈ [("S", speaker), ("L", library)], Chain.IsFormed c.2 := by
  intro c among
  rcases List.mem_cons.mp among with rfl | among
  · exact speaker_formed
  · rw [List.mem_singleton.mp among]
    exact library_formed

/-- Bytes that are no text, where a text should be. -/
def noText : Bytes := Bytes.ofNat 32 32 ++ counted [255]

/-- The answer that is no text ends the deployment: nothing is remembered, not even of the other
contract. -/
theorem deploy_noText :
    (deploy silent [("S", speaker), ("L", library)]).run (echo noText, bare) =
      (.error .badText, (echo noText, bare)) := by
  have decoded : outputsOf (answering "string" []) noText = .error .badText := by
    obtain ⟨outputs, given, described⟩ := string_returned
    rw [outputsOf_described given described ⟨trivial, trivial⟩]
    show decodeAll [.string] noText >>= _ = _
    rw [noText, decodeAll_noText (by decide) rfl]
    rfl
  have called : (Chain.Outcome.answered (.ofNat 2) (answering "string" []) noText).result speaker =
      .error .badText := by
    rw [Chain.Outcome.result, decoded]
    rfl
  have courses : Chain.Courses ((echoing noText).chain.Course default (.ofNat 1))
      Chain.Outcome.result [library, speaker] ()
      [(library, .placed (.ofNat 2)),
        (speaker, .answered (.ofNat 2) (answering "string" []) noText)] () := by
    refine .cons rfl (.placed ⟨_, rfl, rfl⟩ rfl) rfl ?_
    exact .stop rfl (.answered ⟨_, rfl, rfl⟩ rfl rfl rfl rfl) called
  have written : Chain.results Chain.Outcome.result [(library, .placed (.ofNat 2)),
      (speaker, .answered (.ofNat 2) (answering "string" []) noText)] = .error .badText := by
    rw [Chain.results_cons, Chain.results_cons, called]
    rfl
  apply deploy_run_error
  have placed : (deployAt silent (echo noText).gas [("S", speaker), ("L", library)]
      (echo noText).venue).run (echo noText, bare) = _ := deployAt_plugged silent rfl rfl courses
  rw [placed, written]
  rfl

/-- An answer that is nothing is written down. -/
theorem deploy_answered_nothing :
    (echo []).venue = .plugged (echoing []) ∧ (echoing []).chain.IsRecording ∧
    (echoing []).chain.accounts.run bare.outside = (.ok [.ofNat 1], ()) ∧
    (∀ c ∈ [("S", speaker), ("L", library)], Chain.IsFormed c.2) ∧
    ∃ outcomes after,
      Chain.Courses ((echoing []).chain.Course (echo []).gas (.ofNat 1)) Chain.Outcome.result
        (Chain.ordered ([("S", speaker), ("L", library)].map (·.2))) () outcomes after ∧
      Answered silent (echo []) bare [("S", speaker), ("L", library)] outcomes after := by
  have venue : (echo []).venue = .plugged (echoing []) := rfl
  have recording := echoing_records []
  have accounts : (echoing []).chain.accounts.run bare.outside = (.ok [.ofNat 1], ()) := rfl
  exact ⟨venue, recording, accounts, both_formed,
    deploy_answered venue recording accounts both_formed⟩

end SolidityRepl.Backend
