import SolidityRepl.Proofs.Backend.Entry
import SolidityRepl.Proofs.Backend.Process

/-!
# What a deployment asks and gives

A contract is made or not, and if it is made its function is called or not. What is written down of
it is told by that, whatever its interface looks like, and several contracts are written down in
their order.

* `Deploys`: the ways in which one contract can go;
* `deployOne_deploys`: all contracts go one of these ways;
* `deployAll_contracts`, `deploy_gives`: what is written down are the contracts with code;
* `Asked`: questions one after the other, each answered by the chain;
* `deploy_asked`: what a deployment asks, and where the addresses come from that are written down.
-/

namespace SolidityRepl

theorem Chained.append {α ε : Type} {step : α → ε → α → Prop} {a b c : α} {front back : List ε}
    (first : Chained step a front b) (second : Chained step b back c) :
    Chained step a (front ++ back) c := by
  induction first with
  | nil _ => exact second
  | cons taken _ ih => exact .cons taken (ih second)

namespace Chain

open Abi

variable {W : Type} {chain : Chain W} {gas : GasLimits} {sender : Address} {contract : Contract}

/-! ## One contract -/

/-- What is written down, if anything is, is of one contract at one address. -/
def Notes (contract : Contract) (address : Option Address) (r : Except Failure Deployed) : Prop :=
  ∀ d, r = .ok d → d.contract = contract ∧ d.address = address

variable (chain gas sender contract) in
/-- The ways in which one contract can go: its code is not linked, it is not made, or it is made and
its function is called once at most. -/
inductive Deploys (s : W) : Except Failure Deployed → W → Prop
  | unlinked {r : Except Failure Deployed} : Notes contract none r → Deploys s r s
  | unmade {r : Except Failure Deployed} {code : Bytes} {e : Failure} {t : W} :
      (chain.create sender code gas.deploy).run s = (.error e, t) → Notes contract none r →
      Deploys s r t
  | silent {r : Except Failure Deployed} {code : Bytes} {address : Address} {t : W} :
      (chain.create sender code gas.deploy).run s = (.ok address, t) →
      Notes contract (some address) r → Deploys s r t
  | called {r : Except Failure Deployed} {code data : Bytes} {address : Address} {t u : W}
      {answer : Except Failure Bytes} :
      (chain.create sender code gas.deploy).run s = (.ok address, t) →
      (chain.call sender address data gas.call).run t = (answer, u) →
      Notes contract (some address) r → Deploys s r u

theorem notes_settled (contract : Contract) (address : Option Address) (e : Failure) :
    Notes contract address (settled contract address e) :=
  fun _ written => settled_ok written

theorem notes_heard (contract : Contract) (address : Address) (function : Json)
    (answer : Except Failure Bytes) :
    Notes contract (some address) (heard contract address function answer) :=
  fun _ written => heard_ok written

/-- A contract that was made is finished by one call at most. -/
theorem finish_calls (chain : Chain W) (gas : GasLimits) (sender : Address) (contract : Contract)
    (address : Address) (t : W) :
    ∃ r u, (chain.finish gas sender contract address).run t = (r, u) ∧
      Notes contract (some address) r ∧
      (u = t ∨ ∃ data answer, (chain.call sender address data gas.call).run t = (answer, u)) := by
  by_cases called : ∃ function data, Entry contract function data
  · obtain ⟨function, data, entry, named, found, selects⟩ := called
    obtain ⟨answer, u, answers⟩ : ∃ answer u,
        (chain.call sender address data gas.call).run t = (answer, u) := ⟨_, _, rfl⟩
    refine ⟨heard contract address function answer, u, ?_, notes_heard _ _ _ _,
      .inr ⟨data, answer, answers⟩⟩
    cases answer with
    | error e =>
      apply finish_run_error named
      rw [callEntry_run found selects, answers]
    | ok output =>
      apply finish_run_answered named
      rw [callEntry_run found selects, answers]
  · have none : ∀ function data, ¬Entry contract function data :=
      fun function data own => called ⟨function, data, own⟩
    cases named : contract.entry with
    | none =>
      refine ⟨.ok { contract, address := some address }, t, ?_, ?_, .inl rfl⟩
      · rw [finish, named]
        rfl
      · rintro d ⟨⟩
        exact ⟨rfl, rfl⟩
    | some entry =>
      obtain ⟨e, fails⟩ : ∃ e,
          (chain.callEntry gas sender contract entry address).run t = (.error e, t) :=
        callEntry_uncalled chain named none address t
      exact ⟨settled contract (some address) e, t, finish_run_error named fails,
        notes_settled _ _ _, .inl rfl⟩

/-- **Every contract goes one of these ways**, on every chain. -/
theorem deployOne_deploys (chain : Chain W) (gas : GasLimits) (sender : Address)
    (contract : Contract) (s : W) :
    Deploys chain gas sender contract s ((chain.deployOne gas sender contract).run s).1
      ((chain.deployOne gas sender contract).run s).2 := by
  cases linked : codeOf contract with
  | error e =>
    have ran : (chain.deployOne gas sender contract).run s = (settled contract none e, s) := by
      apply deployOne_run_unmade
      rw [Act.run_bind, Act.run_ofExcept, linked]
    rw [ran]
    exact .unlinked (notes_settled contract none e)
  | ok code =>
    cases created : (chain.create sender code gas.deploy).run s with
    | mk made t =>
      cases made with
      | error e =>
        have ran : (chain.deployOne gas sender contract).run s = (settled contract none e, t) := by
          apply deployOne_run_unmade
          rw [Act.run_bind, Act.run_ofExcept, linked]
          exact created
        rw [ran]
        exact .unmade created (notes_settled contract none e)
      | ok address =>
        obtain ⟨r, u, finished, notes, calls⟩ := finish_calls chain gas sender contract address t
        rw [deployOne_run_made ⟨code, linked, created⟩, finished]
        rcases calls with rfl | ⟨data, answer, answers⟩
        · exact .silent created notes
        · exact .called created answers notes

theorem Deploys.own {s t : W} {r : Except Failure Deployed}
    (deploys : Deploys chain gas sender contract s r t) :
    ∀ d, r = .ok d → d.contract = contract := by
  intro d written
  cases deploys with
  | unlinked notes | unmade _ notes | silent _ notes | called _ _ notes =>
    exact (notes d written).1

/-! ## All contracts -/

/-- **The contracts with code are written down**, by induction on the contracts. -/
theorem deployAll_contracts {contracts : List Contract} {s : W} {ds : List Deployed}
    (deployed : ((chain.deployAll gas sender contracts).run s).1 = .ok ds) :
    ds.map (·.contract) = contracts.filter isCoded := by
  induction contracts generalizing s ds with
  | nil =>
    cases deployed
    rfl
  | cons contract rest ih =>
    rw [deployAll, Act.run_bind, Act.run_ofExcept] at deployed
    cases coded : contract.isDeployable with
    | error e =>
      rw [coded] at deployed
      cases deployed
    | ok coded' =>
      have known : isCoded contract = coded' := by
        rw [isCoded, coded]
        rfl
      simp only [coded] at deployed
      cases coded' with
      | false =>
        rw [List.filter_cons_of_neg (by simp [known])]
        exact ih deployed
      | true =>
        rw [List.filter_cons_of_pos known]
        simp only [if_true, Act.run_bind] at deployed
        have deploys := deployOne_deploys chain gas sender contract s
        cases ran : (chain.deployOne gas sender contract).run s with
        | mk r t =>
          rw [ran] at deployed deploys
          cases r with
          | error e => cases deployed
          | ok d =>
            cases later : (chain.deployAll gas sender rest).run t with
            | mk r u =>
              simp only [later] at deployed
              cases r with
              | error e => cases deployed
              | ok ds' =>
                cases deployed
                have others := ih (congrArg Prod.fst later)
                rw [List.map_cons, deploys.own d rfl, others]

/-- **What a deployment gives** are the contracts with code, those with an entry function last,
under their names. -/
theorem deploy_gives {contracts : Keyed Contract} {s : W} {results : Keyed Deployed}
    (deployed : ((chain.deploy gas contracts).run s).1 = .ok results) :
    ∃ ds, results = byName ds ∧
      ds.map (·.contract) = (ordered (contracts.map (·.2))).filter isCoded := by
  rw [deploy, Act.run_bind] at deployed
  cases accounts : chain.accounts.run s with
  | mk r t =>
    rw [accounts] at deployed
    cases r with
    | error e => cases deployed
    | ok addresses =>
      cases addresses with
      | nil => cases deployed
      | cons sender others =>
        simp only [Act.run_bind] at deployed
        cases ran : (chain.deployAll gas sender (ordered (contracts.map (·.2)))).run t with
        | mk r u =>
          rw [ran] at deployed
          cases r with
          | error e => cases deployed
          | ok ds =>
            cases deployed
            exact ⟨ds, rfl, deployAll_contracts (congrArg Prod.fst ran)⟩

/-! ## Questions -/

/-- A question is asked of a chain, and answered as it says. -/
def Asked (chain : Chain W) (s : W) : Query → W → Prop
  | .create sender code gas answer, t => (chain.create sender code gas).run s = (answer, t)
  | .call sender target data gas answer, t =>
    (chain.call sender target data gas).run s = (answer, t)

def Query.asker : Query → Address
  | .create sender _ _ _ | .call sender _ _ _ _ => sender

/-- The double of an act does the same beside its journal. -/
def Mirrors {α : Type} (double : Act (W × List Query) α) (act : Act W α) : Prop :=
  ∀ s journal, (double.run (s, journal)).1 = (act.run s).1 ∧
    (double.run (s, journal)).2.1 = (act.run s).2

namespace Mirrors

variable {α β : Type}

theorem bind {double : Act (W × List Query) α} {act : Act W α}
    {nextDouble : α → Act (W × List Query) β} {next : α → Act W β} (first : Mirrors double act)
    (second : ∀ x, Mirrors (nextDouble x) (next x)) :
    Mirrors (double >>= nextDouble) (act >>= next) := by
  intro s journal
  obtain ⟨same, mid⟩ := first s journal
  rw [Act.run_bind, Act.run_bind]
  cases ran : act.run s with
  | mk r t =>
    cases doubled : double.run (s, journal) with
    | mk r' t' =>
      rw [ran, doubled] at same mid
      obtain rfl : r' = r := same
      obtain ⟨_, journal'⟩ := t'
      obtain rfl : _ = t := mid
      cases r' with
      | error e => exact ⟨rfl, rfl⟩
      | ok x => exact second x _ journal'

theorem pure (x : α) : Mirrors (Pure.pure x : Act (W × List Query) α) (Pure.pure x : Act W α) :=
  fun _ _ => ⟨rfl, rfl⟩

theorem throw (e : Failure) : Mirrors (MonadExcept.throw e : Act (W × List Query) α)
    (MonadExcept.throw e : Act W α) :=
  fun _ _ => ⟨rfl, rfl⟩

theorem ofExcept (r : Except Failure α) :
    Mirrors (Act.ofExcept r : Act (W × List Query) α) (Act.ofExcept r : Act W α) :=
  fun _ _ => ⟨rfl, rfl⟩

theorem attempt {double : Act (W × List Query) α} {act : Act W α} (h : Mirrors double act) :
    Mirrors (Act.attempt double) (Act.attempt act) := by
  intro s journal
  obtain ⟨same, mid⟩ := h s journal
  exact ⟨congrArg Except.ok same, mid⟩

theorem writing (query : Except Failure α → Query) (act : Act W α) :
    Mirrors (Chain.writing query act) act :=
  fun _ _ => ⟨rfl, rfl⟩

theorem blame (contract : Contract) (fail : DeployFailure → α) (e : Failure) :
    Mirrors (Chain.blame contract fail e : Act (W × List Query) α)
      (Chain.blame contract fail e : Act W α) := by
  cases e with
  | deployFailed e => exact .pure _
  | _ => exact .throw _

end Mirrors

variable (chain gas sender) in
theorem callEntry_mirrors (contract : Contract) (entry : String) (address : Address) :
    Mirrors (chain.journaled.callEntry gas sender contract entry address)
      (chain.callEntry gas sender contract entry address) := by
  refine (Mirrors.ofExcept _).bind fun function => ?_
  cases function with
  | none => exact .throw _
  | some function =>
    exact (Mirrors.ofExcept _).bind fun data => (Mirrors.writing _ _).bind fun output => .ofExcept _

variable (chain gas sender) in
theorem finish_mirrors (contract : Contract) (address : Address) :
    Mirrors (chain.journaled.finish gas sender contract address)
      (chain.finish gas sender contract address) := by
  unfold finish
  cases contract.entry with
  | none => exact .pure _
  | some entry =>
    refine (callEntry_mirrors chain gas sender contract entry address).attempt.bind fun value => ?_
    cases value with
    | ok value => exact .pure _
    | error e => exact .blame _ _ _

variable (chain gas sender) in
theorem deployOne_mirrors (contract : Contract) :
    Mirrors (chain.journaled.deployOne gas sender contract)
      (chain.deployOne gas sender contract) := by
  refine ((Mirrors.ofExcept _).bind fun code => Mirrors.writing _ _).attempt.bind fun made => ?_
  cases made with
  | ok address => exact finish_mirrors chain gas sender contract address
  | error e => exact .blame _ _ _

variable (chain gas sender) in
theorem deployAll_mirrors (contracts : List Contract) :
    Mirrors (chain.journaled.deployAll gas sender contracts)
      (chain.deployAll gas sender contracts) := by
  induction contracts with
  | nil => exact .pure _
  | cons contract rest ih =>
    refine (Mirrors.ofExcept _).bind fun coded => ?_
    cases coded with
    | false => exact ih
    | true =>
      exact (deployOne_mirrors chain gas sender contract).bind fun d => ih.bind fun ds => .pure _

/-- **A journal changes nothing** of a deployment. -/
theorem deploy_mirrors (chain : Chain W) (gas : GasLimits) (contracts : Keyed Contract) :
    Mirrors (chain.journaled.deploy gas contracts) (chain.deploy gas contracts) := by
  have accounts : Mirrors chain.journaled.accounts chain.accounts := fun _ _ => ⟨rfl, rfl⟩
  refine accounts.bind fun addresses => ?_
  cases addresses with
  | nil => exact .throw _
  | cons sender others => exact (deployAll_mirrors chain gas sender _).bind fun ds => .pure _

/-- Questions from a state on that lead to another, all asked by one account. -/
structure Talks (chain : Chain W) (sender : Address) (s : W) (asked : List Query) (t : W) :
    Prop where
  chained : Chained chain.Asked s asked t
  askers : ∀ q ∈ asked, q.asker = sender

theorem Talks.nil (s : W) : chain.Talks sender s [] s := ⟨.nil s, List.forall_mem_nil _⟩

theorem Talks.append {s t u : W} {asked later : List Query} (first : chain.Talks sender s asked t)
    (second : chain.Talks sender t later u) : chain.Talks sender s (asked ++ later) u where
  chained := first.chained.append second.chained
  askers := List.forall_mem_append.mpr ⟨first.askers, second.askers⟩

theorem talks_one {s t : W} {q : Query} (asked : chain.Asked s q t) (own : q.asker = sender) :
    chain.Talks sender s [q] t where
  chained := .cons asked (.nil t)
  askers := List.forall_mem_singleton.mpr own

theorem talks_create {s t : W} {code : Bytes} {limit : Json} {answer : Except Failure Address}
    (ran : (chain.create sender code limit).run s = (answer, t)) :
    chain.Talks sender s [.create sender code limit answer] t := talks_one ran rfl

theorem talks_call {s t : W} {target : Address} {data : Bytes} {limit : Json}
    {answer : Except Failure Bytes}
    (ran : (chain.call sender target data limit).run s = (answer, t)) :
    chain.Talks sender s [.call sender target data limit answer] t := talks_one ran rfl

/-- Every address that is written down is one that the chain gave for a new contract. -/
def Places (asked : List Query) (ds : List Deployed) : Prop :=
  ∀ d ∈ ds, ∀ address, d.address = some address →
    ∃ sender code limit, .create sender code limit (.ok address) ∈ asked

theorem writing_eq {α : Type} {query : Except Failure α → Query} {act : Act W α} {s : W}
    {journal : List Query} {r : Except Failure α} {t : W × List Query}
    (ran : (writing query act).run (s, journal) = (r, t)) :
    act.run s = (r, t.1) ∧ t.2 = journal ++ [query r] := by
  obtain rfl : (act.run s).1 = r := congrArg Prod.fst ran
  obtain rfl : ((act.run s).2, journal ++ [query (act.run s).1]) = t := congrArg Prod.snd ran
  exact ⟨rfl, rfl⟩

theorem Notes.places {address : Option Address} {r : Except Failure Deployed} {asked : List Query}
    (notes : Notes contract address r)
    (there : ∀ a, address = some a →
      ∃ sender code limit, .create sender code limit (.ok a) ∈ asked) :
    Places asked (writtenDown r) := by
  cases r with
  | error e => exact nofun
  | ok d =>
    intro d' among a placed
    rw [List.mem_singleton.mp among, (notes d rfl).2] at placed
    exact there a placed

/-- What one contract asks, read off its journal. -/
theorem Deploys.asked {s : W} {journal : List Query} {r : Except Failure Deployed}
    {t : W × List Query}
    (deploys : Deploys chain.journaled gas sender contract (s, journal) r t) :
    ∃ asked, t.2 = journal ++ asked ∧ chain.Talks sender s asked t.1 ∧
      Places asked (writtenDown r) := by
  cases deploys with
  | unlinked notes =>
    exact ⟨[], (List.append_nil _).symm, .nil s, notes.places nofun⟩
  | unmade created notes =>
    obtain ⟨asked, written⟩ := writing_eq created
    exact ⟨_, written, talks_create asked, notes.places nofun⟩
  | silent created notes =>
    obtain ⟨asked, written⟩ := writing_eq created
    refine ⟨_, written, talks_create asked, notes.places ?_⟩
    rintro _ ⟨⟩
    exact ⟨_, _, _, List.mem_cons_self⟩
  | called created answers notes =>
    obtain ⟨asked, written⟩ := writing_eq created
    obtain ⟨later, written'⟩ := writing_eq answers
    rw [written, List.append_assoc] at written'
    refine ⟨_, written', (talks_create asked).append (talks_call later), notes.places ?_⟩
    rintro _ ⟨⟩
    exact ⟨_, _, _, List.mem_cons_self⟩

theorem Places.mono {asked more : List Query} {ds : List Deployed} (places : Places asked ds)
    (wider : asked ⊆ more) : Places more ds := by
  intro d among address placed
  obtain ⟨sender, code, limit, there⟩ := places d among address placed
  exact ⟨sender, code, limit, wider there⟩

/-- Nothing is written down by a deployment that fails. -/
theorem places_of_error (asked : List Query) (e : Failure) :
    ∀ ds, (.error e : Except Failure (List Deployed)) = .ok ds → Places asked ds := by
  rintro _ ⟨⟩

/-- What several contracts ask, by induction on the contracts. -/
theorem deployAll_asked (chain : Chain W) (gas : GasLimits) (sender : Address)
    (contracts : List Contract) (s : W) (journal : List Query) :
    ∃ asked r t, (chain.journaled.deployAll gas sender contracts).run (s, journal) =
        (r, (t, journal ++ asked)) ∧
      chain.Talks sender s asked t ∧ ∀ ds, r = .ok ds → Places asked ds := by
  induction contracts generalizing s journal with
  | nil =>
    refine ⟨[], .ok [], s, ?_, .nil s, ?_⟩
    · rw [List.append_nil]
      rfl
    · rintro _ ⟨⟩
      exact List.forall_mem_nil _
  | cons contract rest ih =>
    rw [deployAll, Act.run_bind, Act.run_ofExcept]
    cases contract.isDeployable with
    | error e =>
      refine ⟨[], .error e, s, ?_, .nil s, places_of_error [] e⟩
      rw [List.append_nil]
    | ok coded =>
      cases coded with
      | false => exact ih s journal
      | true =>
        simp only [if_true, Act.run_bind]
        have deploys := deployOne_deploys chain.journaled gas sender contract (s, journal)
        cases ran : (chain.journaled.deployOne gas sender contract).run (s, journal) with
        | mk r mid =>
          rw [ran] at deploys
          obtain ⟨asked, written, talks, places⟩ := deploys.asked
          obtain ⟨mid, journal'⟩ := mid
          obtain rfl : journal' = journal ++ asked := written
          cases r with
          | error e => exact ⟨asked, .error e, mid, rfl, talks, places_of_error asked e⟩
          | ok d =>
            obtain ⟨later, r, t, ran', talks', places'⟩ := ih mid (journal ++ asked)
            simp only [ran', List.append_assoc]
            cases r with
            | error e =>
              exact ⟨asked ++ later, .error e, t, rfl, talks.append talks', places_of_error _ e⟩
            | ok ds =>
              refine ⟨asked ++ later, .ok (d :: ds), t, rfl, talks.append talks', ?_⟩
              rintro _ ⟨⟩
              refine List.forall_mem_cons.mpr ⟨?_, ?_⟩
              · exact places.mono (List.subset_append_left _ _) d List.mem_cons_self
              · exact (places' ds rfl).mono (List.subset_append_right _ _)

/-- **What a deployment asks**, told by its journal: questions of the first account, each answered
by the chain, and all addresses that are written down come from their answers. -/
theorem deploy_asked {chain : Chain W} (gas : GasLimits) (contracts : Keyed Contract)
    {sender : Address} {others : List Address} {s t : W}
    (accounts : chain.accounts.run s = (.ok (sender :: others), t)) :
    ∃ asked r u, (chain.deploy gas contracts).run s = (r, u) ∧
      (chain.journaled.deploy gas contracts).run (s, []) = (r, (u, asked)) ∧
      chain.Talks sender t asked u ∧
      ∀ results, r = .ok results → Places asked (results.map (·.2)) := by
  have accounts' : chain.journaled.accounts.run (s, []) = (.ok (sender :: others), (t, [])) := by
    show (Act.zoom Prod.fst (fun s w => (s, w.2)) chain.accounts).run (s, []) = _
    rw [Act.run_zoom, accounts]
  obtain ⟨asked, r, u, ran, talks, places⟩ :=
    deployAll_asked chain gas sender (ordered (contracts.map (·.2))) t []
  have doubled : (chain.journaled.deploy gas contracts).run (s, []) =
      (r.map byName, (u, asked)) := by
    rw [deploy, Act.run_bind_ok accounts']
    show (chain.journaled.deployAll gas sender _ >>= _).run _ = _
    rw [Act.run_bind, ran]
    cases r <;> rfl
  have mirrored := deploy_mirrors chain gas contracts s []
  rw [doubled] at mirrored
  refine ⟨asked, r.map byName, u, (Prod.ext mirrored.1 mirrored.2).symm, doubled, talks, ?_⟩
  intro results given d among
  cases r with
  | error e => cases given
  | ok ds =>
    cases given
    obtain ⟨named, listed, rfl⟩ := List.mem_map.mp among
    rcases Keyed.mem_of_mem_putAll listed with put | before
    · obtain ⟨d, written, rfl⟩ := List.mem_map.mp put
      exact places ds rfl d written
    · cases before

end Chain

end SolidityRepl
