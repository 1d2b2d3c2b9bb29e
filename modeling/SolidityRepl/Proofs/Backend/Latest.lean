import SolidityRepl.Proofs.Backend.Results
import SolidityRepl.Proofs.Keyed

/-!
# The last contract with an entry function

A backend remembers by its name which contract with an entry function was deployed last, and what
became of the last contract of every name. If that contract is deployed again without an entry
function, the name stays and what became of the contract does not.

* `Ledger.entryIn`: what a deployment gave of its contract with an entry function;
* `Ledger.latest?_recordAll`: the ledger after several deployments;
* `Backend.Given`: what a deployment that succeeds gives, by its contracts;
* `Backend.latest?_history`: the last contract with an entry function after some deployments.
-/

namespace SolidityRepl

/-! ## What is remembered -/

namespace Ledger

/-- What a deployment gave of its last contract with an entry function. -/
def entryIn (results : Keyed Deployed) : Option Deployed :=
  (results.filter fun d => d.2.contract.entry.isSome).getLast?.map (·.2)

/-- Results under the names of their contracts. -/
structure IsNamed (results : Keyed Deployed) : Prop where
  distinct : (Keyed.keys results).Nodup
  named : ∀ d ∈ results, d.1 = d.2.contract.name

theorem entryAmong_eq (results : Keyed Deployed) :
    entryAmong results = (entryIn results).map fun d => d.contract.name := by
  rw [entryAmong, entryIn, Option.map_map]
  rfl

theorem mem_of_entryIn {results : Keyed Deployed} {d : Deployed}
    (entry : entryIn results = some d) :
    ∃ name, (name, d) ∈ results ∧ d.contract.entry.isSome = true := by
  obtain ⟨⟨name, _⟩, last, rfl⟩ := Option.map_eq_some_iff.mp entry
  exact ⟨name, List.mem_filter.mp (List.mem_of_getLast? last)⟩

/-- The contract with an entry function is found under its name. -/
theorem IsNamed.get?_entryIn {results : Keyed Deployed} (named : IsNamed results) {d : Deployed}
    (entry : entryIn results = some d) : Keyed.get? d.contract.name results = some d := by
  obtain ⟨name, among, _⟩ := mem_of_entryIn entry
  obtain rfl : name = d.contract.name := named.named _ among
  exact Keyed.get?_of_mem named.distinct among

def recordAll (ledger : Ledger) (given : List (Keyed Deployed)) : Ledger :=
  given.foldl record ledger

theorem recordAll_entry {ledger : Ledger} {given : List (Keyed Deployed)}
    (silent : ∀ results ∈ given, entryIn results = none) :
    (ledger.recordAll given).entry = ledger.entry := by
  induction given generalizing ledger with
  | nil => rfl
  | cons results rest ih =>
    obtain ⟨first, later⟩ := List.forall_mem_cons.mp silent
    show ((ledger.record results).recordAll rest).entry = _
    rw [ih later, record, entryAmong_eq, first]
    rfl

theorem recordAll_deployed (ledger : Ledger) (given : List (Keyed Deployed)) :
    (ledger.recordAll given).deployed = Keyed.putAll given.flatten ledger.deployed := by
  induction given generalizing ledger with
  | nil => rfl
  | cons results rest ih =>
    show ((ledger.record results).recordAll rest).deployed = _
    rw [ih, List.flatten_cons, Keyed.putAll_append]
    rfl

/-- Under every name is what became of the last contract of that name. -/
theorem get?_recordAll {given : List (Keyed Deployed)}
    (named : ∀ results ∈ given, IsNamed results) (ledger : Ledger) (name : String) :
    Keyed.get? name (ledger.recordAll given).deployed =
      ((given.filterMap (Keyed.get? name)).getLast?).or (Keyed.get? name ledger.deployed) := by
  rw [recordAll_deployed,
    Keyed.get?_putAll_flatten fun results among => (named results among).distinct]

/-- **The ledger after several deployments**: the last contract with an entry function, or the last
one of its name that was deployed after it. -/
theorem latest?_recordAll {ledger : Ledger} {front back : List (Keyed Deployed)}
    {results : Keyed Deployed} {d : Deployed} (first : IsNamed results)
    (named : ∀ results ∈ back, IsNamed results) (entry : entryIn results = some d)
    (silent : ∀ results ∈ back, entryIn results = none) :
    (ledger.recordAll (front ++ results :: back)).latest? =
      ((back.filterMap (Keyed.get? d.contract.name)).getLast?).or (some d) := by
  have last : ledger.recordAll (front ++ results :: back) =
      ((ledger.recordAll front).record results).recordAll back := List.foldl_append
  have name : ((ledger.recordAll front).record results).entry = some d.contract.name := by
    rw [record, entryAmong_eq, entry]
    rfl
  have there : Keyed.get? d.contract.name ((ledger.recordAll front).record results).deployed =
      some d := by
    rw [record, Keyed.get?_putAll first.distinct, first.get?_entryIn entry]
    rfl
  rw [last, latest?, recordAll_entry silent, name, Option.bind_some, get?_recordAll named, there]

end Ledger

/-! ## What a deployment gives -/

namespace Chain

theorem isNamed_byName (ds : List Deployed) : Ledger.IsNamed (byName ds) where
  distinct := Keyed.nodup_keys_putAll _ List.nodup_nil
  named d among := by
    rcases Keyed.mem_of_mem_putAll among with among | among
    · obtain ⟨d, _, rfl⟩ := List.mem_map.mp among
      rfl
    · cases among

theorem mem_of_mem_byName {ds : List Deployed} {name : String} {d : Deployed}
    (among : (name, d) ∈ byName ds) : d ∈ ds := by
  rcases Keyed.mem_of_mem_putAll among with among | among
  · obtain ⟨d', there, same⟩ := List.mem_map.mp among
    cases same
    exact there
  · cases among

theorem byName_concat (ds : List Deployed) (d : Deployed) :
    byName (ds ++ [d]) = Keyed.put d.contract.name d (byName ds) := by
  rw [byName, List.map_append, Keyed.putAll, List.foldl_append]
  rfl

/-- What a deployment that succeeds gives, by its contracts: something of every contract with code
and of no other, and of its last contract with an entry function. -/
structure Given (contracts : Keyed Contract) (results : Keyed Deployed) : Prop where
  named : Ledger.IsNamed results
  present : ∀ name, (Keyed.get? name results).isSome ↔
    ∃ c ∈ contracts, isCoded c.2 = true ∧ c.2.name = name
  entered : (∃ d, Ledger.entryIn results = some d) ↔
    ∃ c ∈ contracts, isCoded c.2 = true ∧ c.2.entry.isSome = true
  /-- One contract with an entry function is deployed last, so that what became of it is there. -/
  single : ∀ c, (contracts.map (·.2)).filter (fun c => isCoded c && c.entry.isSome) = [c] →
    ∃ d, Ledger.entryIn results = some d ∧ d.contract = c ∧ Keyed.get? c.name results = some d

/-- The contracts that are deployed are those without an entry function, and then the others. -/
theorem filter_ordered (contracts : List Contract) :
    (ordered contracts).filter isCoded =
      contracts.filter (fun c => isCoded c && c.entry.isNone) ++
      contracts.filter (fun c => isCoded c && c.entry.isSome) := by
  rw [ordered, List.filter_append, List.filter_filter, List.filter_filter]

theorem mem_keys_byName {ds : List Deployed} {name : String} :
    name ∈ Keyed.keys (byName ds) ↔ ∃ d ∈ ds, d.contract.name = name := by
  rw [byName, Keyed.mem_keys_putAll, Keyed.keys, List.map_map]
  exact (or_iff_left List.not_mem_nil).trans List.mem_map

/-- A result with an entry function that comes last is found. -/
theorem entryIn_isSome {results : Keyed Deployed} {name : String} {d : Deployed}
    (among : (name, d) ∈ results) (entry : d.contract.entry.isSome = true) :
    ∃ d', Ledger.entryIn results = some d' := by
  have listed : (name, d) ∈ results.filter fun d => d.2.contract.entry.isSome :=
    List.mem_filter.mpr ⟨among, entry⟩
  cases last : (results.filter fun d => d.2.contract.entry.isSome).getLast? with
  | none =>
    rw [List.getLast?_eq_none_iff.mp last] at listed
    cases listed
  | some e =>
    refine ⟨e.2, ?_⟩
    rw [Ledger.entryIn, last]
    rfl

/-- What became of contracts, the ones with an entry function last. -/
theorem exists_split {contracts : Keyed Contract} {ds : List Deployed}
    (coded : ds.map (·.contract) = (ordered (contracts.map (·.2))).filter isCoded) :
    ∃ plain entered, ds = plain ++ entered ∧ (∀ d ∈ plain, d.contract.entry.isSome = false) ∧
      entered.map (·.contract) =
        (contracts.map (·.2)).filter fun c => isCoded c && c.entry.isSome := by
  rw [filter_ordered] at coded
  obtain ⟨plain, entered, rfl, first, second⟩ := List.map_eq_append_iff.mp coded
  refine ⟨plain, entered, rfl, ?_, second⟩
  intro d among
  have listed := first ▸ List.mem_map_of_mem among
  simp only [List.mem_filter, Bool.and_eq_true, Option.isNone_iff_eq_none] at listed
  rw [listed.2.2]
  rfl

theorem get?_byName_concat (ds : List Deployed) (d : Deployed) :
    Keyed.get? d.contract.name (byName (ds ++ [d])) = some d := by
  rw [byName_concat, Keyed.get?_put, if_pos rfl]

/-- A last contract with an entry function is found, for no other takes its place. -/
theorem entryIn_byName_concat (ds : List Deployed) {d : Deployed}
    (enters : d.contract.entry.isSome = true) :
    ∃ d', Ledger.entryIn (byName (ds ++ [d])) = some d' :=
  entryIn_isSome (Keyed.mem_of_get? (get?_byName_concat ds d)) enters

/-- The one contract with an entry function, which is deployed last. -/
theorem entryIn_byName_single {plain : List Deployed} {d : Deployed}
    (silent : ∀ e ∈ plain, e.contract.entry.isSome = false)
    (enters : d.contract.entry.isSome = true) :
    Ledger.entryIn (byName (plain ++ [d])) = some d := by
  have before : (byName plain).filter (fun e => e.2.contract.entry.isSome) = [] := by
    refine List.filter_eq_nil_iff.mpr fun e among => ?_
    rw [silent e.2 (mem_of_mem_byName among)]
    exact Bool.false_ne_true
  have alone : (byName (plain ++ [d])).filter (fun e => e.2.contract.entry.isSome) =
      [(d.contract.name, d)] := by
    rw [byName_concat]
    exact Keyed.filter_put before enters
  rw [Ledger.entryIn, alone]
  rfl

/-- What was deployed of some kind is what there was with code. -/
theorem exists_coded_iff {contracts : Keyed Contract} {ds : List Deployed}
    (coded : ds.map (·.contract) = (ordered (contracts.map (·.2))).filter isCoded)
    (P : Contract → Prop) :
    (∃ d ∈ ds, P d.contract) ↔ ∃ c ∈ contracts, isCoded c.2 = true ∧ P c.2 := by
  have mem_iff (c : Contract) :
      c ∈ ds.map (·.contract) ↔ c ∈ contracts.map (·.2) ∧ isCoded c = true := by
    rw [coded, List.mem_filter, (perm_ordered _).mem_iff]
  constructor
  · rintro ⟨d, among, holds⟩
    obtain ⟨there, code⟩ := (mem_iff _).mp (List.mem_map_of_mem among)
    obtain ⟨c, listed, same⟩ := List.mem_map.mp there
    exact ⟨c, listed, same ▸ code, same ▸ holds⟩
  · rintro ⟨c, listed, code, holds⟩
    obtain ⟨d, among, same⟩ :=
      List.mem_map.mp ((mem_iff c.2).mpr ⟨List.mem_map_of_mem listed, code⟩)
    exact ⟨d, among, same ▸ holds⟩

theorem given_byName {contracts : Keyed Contract} {ds : List Deployed}
    (coded : ds.map (·.contract) = (ordered (contracts.map (·.2))).filter isCoded) :
    Given contracts (byName ds) := by
  have among_iff := exists_coded_iff coded
  have kind {c : Contract} : (isCoded c && c.entry.isSome) = true → c.entry.isSome = true :=
    fun both => (Bool.and_eq_true_iff.mp both).2
  obtain ⟨plain, entered, rfl, silent, last⟩ := exists_split coded
  refine ⟨isNamed_byName _, ?_, ?_, ?_⟩
  · intro name
    rw [Keyed.get?_isSome_iff, mem_keys_byName]
    exact among_iff fun c => c.name = name
  · rw [← among_iff fun c => c.entry.isSome = true]
    constructor
    · rintro ⟨d, entry⟩
      obtain ⟨name, among, enters⟩ := Ledger.mem_of_entryIn entry
      exact ⟨d, mem_of_mem_byName among, enters⟩
    · rintro ⟨d, among, enters⟩
      rcases List.eq_nil_or_concat' entered with rfl | ⟨others, d', rfl⟩
      · rw [List.append_nil] at among
        rw [silent d among] at enters
        cases enters
      · have own : d'.contract ∈ (others ++ [d']).map (·.contract) :=
          List.mem_map_of_mem (List.mem_append_right others List.mem_cons_self)
        rw [last] at own
        rw [← List.append_assoc]
        exact entryIn_byName_concat _ (kind (List.mem_filter.mp own).2)
  · intro c only
    have own : c ∈ (contracts.map (·.2)).filter fun c => isCoded c && c.entry.isSome :=
      only ▸ List.mem_cons_self
    rw [only] at last
    obtain ⟨d, rfl, rfl⟩ := List.map_eq_singleton_iff.mp last
    exact ⟨d, entryIn_byName_single silent (kind (List.mem_filter.mp own).2), rfl,
      get?_byName_concat plain d⟩

/-- **What a deployment that succeeds gives**, on every chain. -/
theorem deploy_given {W : Type} {chain : Chain W} {gas : GasLimits} {contracts : Keyed Contract}
    {s : W} {results : Keyed Deployed}
    (deployed : ((chain.deploy gas contracts).run s).1 = .ok results) :
    Given contracts results := by
  obtain ⟨ds, rfl, coded⟩ := deploy_gives deployed
  exact given_byName coded

end Chain

/-! ## Backends -/

namespace Backend

variable {O T : Type} [Duration T]

theorem deployAt_given {host : Host O} {gas : GasLimits} {contracts : Keyed Contract}
    {venue : Venue O T} {b : At O T} {results : Keyed Deployed}
    (deployed : ((deployAt host gas contracts venue).run b).1 = .ok results) :
    Chain.Given contracts results := by
  cases venue with
  | simulated s =>
    have ran : ((Simulator.primitives.deploy gas contracts).run s).1 = .ok results := deployed
    exact Chain.deploy_given ran
  | remote node timeout =>
    have ran : (((Node.chain host nodeName timeout).deploy gas contracts).run (node, b.2)).1 =
        .ok results := deployed
    exact Chain.deploy_given ran
  | own own timeout =>
    have ran : (((Node.chain host OwnNode.name timeout).deploy gas contracts).run
        (own.node, b.2)).1 = .ok results := deployed
    exact Chain.deploy_given ran
  | plugged plugin =>
    have ran : ((plugin.chain.deploy gas contracts).run b.2.outside).1 = .ok results := deployed
    exact Chain.deploy_given ran

/-- What is remembered is left alone until the end of a deployment. -/
theorem deployAt_ledger (host : Host O) (gas : GasLimits) (contracts : Keyed Contract)
    (venue : Venue O T) (b : At O T) :
    ((deployAt host gas contracts venue).run b).2.1.ledger = b.1.ledger := by
  cases venue <;> rfl

/-- Deployments one after the other, of which any may fail, with what each of them gave. -/
def deployEach (host : Host O) : List (Keyed Contract) → At O T →
    List (Keyed Contract × Except Failure (Keyed Deployed)) × At O T
  | [], b => ([], b)
  | contracts :: rest, b =>
    let (r, mid) := (deploy host contracts).run b
    let (later, after) := deployEach host rest mid
    ((contracts, r) :: later, after)

def givenBy (history : List (Keyed Contract × Except Failure (Keyed Deployed))) :
    List (Keyed Deployed) :=
  history.filterMap fun call => call.2.toOption

/-- **What is remembered after some deployments** is what was given by those that succeeded, by
induction on the deployments. -/
theorem deployEach_records (host : Host O) (calls : List (Keyed Contract)) (b : At O T) :
    let history := (deployEach host calls b).1
    history.map Prod.fst = calls ∧
    (∀ call ∈ history, ∀ results, call.2 = .ok results → Chain.Given call.1 results) ∧
    (deployEach host calls b).2.1.ledger = b.1.ledger.recordAll (givenBy history) := by
  induction calls generalizing b with
  | nil => exact ⟨rfl, nofun, rfl⟩
  | cons contracts rest ih =>
    obtain ⟨r, mid, ran⟩ : ∃ r mid, (deploy host contracts).run b = (r, mid) := ⟨_, _, rfl⟩
    obtain ⟨asked, given, recorded⟩ := ih mid
    simp only [deployEach, ran]
    have first : (∀ results, r = .ok results → Chain.Given contracts results) ∧
        mid.1.ledger = b.1.ledger.recordAll r.toOption.toList := by
      have kept := deployAt_ledger host b.1.gas contracts b.1.venue b
      cases placed : (deployAt host b.1.gas contracts b.1.venue).run b with
      | mk r' after =>
        rw [placed] at kept
        cases r' with
        | error e =>
          cases (deploy_run_error placed).symm.trans ran
          exact ⟨nofun, kept⟩
        | ok results =>
          cases (deploy_run_ok placed).symm.trans ran
          refine ⟨?_, congrArg (Ledger.record · results) kept⟩
          rintro _ ⟨⟩
          exact deployAt_given (congrArg Prod.fst placed)
    refine ⟨congrArg (contracts :: ·) asked, List.forall_mem_cons.mpr ⟨first.1, given⟩, ?_⟩
    rw [recorded, first.2]
    cases r <;> rfl

/-- What a deployment gave of its last contract with an entry function, if it succeeded. -/
def enteredBy (call : Keyed Contract × Except Failure (Keyed Deployed)) : Option Deployed :=
  call.2.toOption.bind Ledger.entryIn

/-- What a deployment gave of the contract of some name, if it succeeded. -/
def gaveFor (name : String) (call : Keyed Contract × Except Failure (Keyed Deployed)) :
    Option Deployed :=
  call.2.toOption.bind (Keyed.get? name)

theorem filterMap_gaveFor (name : String)
    (history : List (Keyed Contract × Except Failure (Keyed Deployed))) :
    history.filterMap (gaveFor name) = (givenBy history).filterMap (Keyed.get? name) := by
  rw [givenBy, List.filterMap_filterMap]
  rfl

/-- A deployment that gave something of no contract with an entry function gave nothing of one that
has one. -/
theorem gaveFor_ne {name : String} {call : Keyed Contract × Except Failure (Keyed Deployed)}
    {d : Deployed} (silent : enteredBy call = none) (entry : d.contract.entry.isSome = true) :
    gaveFor name call ≠ some d := by
  intro gave
  obtain ⟨results, ok, found⟩ := Option.bind_eq_some_iff.mp gave
  obtain ⟨d', entered⟩ := Chain.entryIn_isSome (Keyed.mem_of_get? found) entry
  rw [enteredBy, ok, Option.bind_some, entered] at silent
  cases silent

/-- What became of a contract with an entry function is not what a later deployment gave, if none of
these has one: it is the last only if nothing else has its name. -/
theorem getLast?_gaveFor_iff {back : List (Keyed Contract × Except Failure (Keyed Deployed))}
    {d : Deployed} (silent : ∀ later ∈ back, enteredBy later = none)
    (enters : d.contract.entry.isSome = true) :
    ((back.filterMap (gaveFor d.contract.name)).getLast?).or (some d) = some d ↔
      ∀ later ∈ back, gaveFor d.contract.name later = none := by
  rw [← List.filterMap_eq_nil_iff]
  constructor
  · intro same
    cases last : (back.filterMap (gaveFor d.contract.name)).getLast? with
    | none => exact List.getLast?_eq_none_iff.mp last
    | some d' =>
      rw [last] at same
      cases same
      obtain ⟨later, listed, gave⟩ := List.mem_filterMap.mp (List.mem_of_getLast? last)
      exact absurd gave (gaveFor_ne (silent later listed) enters)
  · intro nothing
    rw [nothing]
    rfl

/-- **The last contract with an entry function** of a new backend, after deployments of which any
may have failed. There is none until a deployment succeeds that has one with code. From then on it
is what the latest such deployment gave of it, if no later deployment gives anything of a contract
of the same name, and otherwise what the last of these gave of that contract, which has no entry
function. -/
theorem latest?_history (host : Host O) (venue : Venue O T) (gas : GasLimits) (w : World O T)
    (calls : List (Keyed Contract)) :
    let b : Backend O T := { venue, gas }
    let history := (deployEach host calls (b, w)).1
    let ledger := (deployEach host calls (b, w)).2.1.ledger
    history.map Prod.fst = calls ∧
    (∀ call ∈ history, ∀ results, call.2 = .ok results → Chain.Given call.1 results) ∧
    ((∀ call ∈ history, enteredBy call = none) → ledger.latest? = none) ∧
    ∀ front call back d, history = front ++ call :: back → enteredBy call = some d →
      (∀ later ∈ back, enteredBy later = none) →
      ledger.latest? = ((back.filterMap (gaveFor d.contract.name)).getLast?).or (some d) ∧
      (ledger.latest? = some d ↔ ∀ later ∈ back, gaveFor d.contract.name later = none) := by
  intro b history ledger
  obtain ⟨asked, given, recorded⟩ := deployEach_records host calls (b, w)
  have named {call : Keyed Contract × Except Failure (Keyed Deployed)} {results : Keyed Deployed}
      (among : call ∈ history) (ok : call.2.toOption = some results) : Ledger.IsNamed results := by
    obtain ⟨contracts, r⟩ := call
    cases r with
    | error e => cases ok
    | ok _ =>
      cases ok
      exact (given _ among _ rfl).named
  refine ⟨asked, given, ?_, ?_⟩
  · intro silent
    have none : ∀ results ∈ givenBy history, Ledger.entryIn results = none := by
      intro results among
      obtain ⟨call, there, ok⟩ := List.mem_filterMap.mp among
      have unentered := silent call there
      rwa [enteredBy, ok] at unentered
    show (deployEach host calls (b, w)).2.1.ledger.latest? = _
    rw [recorded, Ledger.latest?, Ledger.recordAll_entry none]
    rfl
  · intro front call back d split entered silent
    obtain ⟨results, ok, entry⟩ := Option.bind_eq_some_iff.mp entered
    have there : call ∈ history := split ▸ List.mem_append_right front List.mem_cons_self
    have parts : givenBy history = givenBy front ++ results :: givenBy back := by
      have own : givenBy (call :: back) = results :: givenBy back := List.filterMap_cons_some ok
      rw [← own, split]
      exact List.filterMap_append
    have latest : ledger.latest? =
        ((back.filterMap (gaveFor d.contract.name)).getLast?).or (some d) := by
      show (deployEach host calls (b, w)).2.1.ledger.latest? = _
      rw [recorded, parts, filterMap_gaveFor]
      refine Ledger.latest?_recordAll (named there ok) ?_ entry ?_
      · intro results among
        obtain ⟨later, listed, ok⟩ := List.mem_filterMap.mp among
        have present : later ∈ history :=
          split ▸ List.mem_append_right front (List.mem_cons_of_mem call listed)
        exact named present ok
      · intro results among
        obtain ⟨later, listed, ok⟩ := List.mem_filterMap.mp among
        have unentered := silent later listed
        rwa [enteredBy, ok] at unentered
    obtain ⟨_, _, enters⟩ := Ledger.mem_of_entryIn entry
    exact ⟨latest, latest ▸ getLast?_gaveFor_iff silent enters⟩

def doer : Contract where
  name := "D"
  abi := .arr [.obj [("type", .str "function"), ("name", .str "main"), ("inputs", .arr []),
    ("outputs", .arr [])]]
  bytecode := .str "00"
  entry := some "main"

/-- The contract without its entry function. -/
def idler : Contract := { doer with entry := none }

/-- A contract that is deployed again without its entry function takes the place of the last
contract with one, though no contract with one was deployed since. -/
theorem latest?_redeployed :
    let history := (deployEach silent [[("D", doer)], [("D", idler)]] (echo [], bare)).1
    let ledger := (deployEach silent [[("D", doer)], [("D", idler)]] (echo [], bare)).2.1.ledger
    let placed (contract : Contract) : Deployed := { contract, address := some (.ofNat 2) }
    history.map Prod.snd = [.ok [("D", placed doer)], .ok [("D", placed idler)]] ∧
    history.map enteredBy = [some (placed doer), none] ∧
    ledger.latest? = some (placed idler) ∧ ledger.latest? ≠ some (placed doer) := by
  intro history ledger placed
  have latest : ledger.latest? = some (placed idler) := rfl
  refine ⟨rfl, rfl, latest, ?_⟩
  intro same
  rw [latest] at same
  have entry := congrArg (Option.map fun d => d.contract.entry) same
  cases entry

end Backend

end SolidityRepl
