import SolidityRepl.Proofs.Abi.Overload
import SolidityRepl.Proofs.Backend.Isolation

/-!
# The function that is called

Of a contract with an entry function the first function of that name is called, and what it answers
is decoded as its value. If the interface describes another function of the name before the one
without inputs, that other one is called.

* `Entry`, `heard`: the function that is called, with its bytes, and what is written down of its
  answer;
* `Speaks`, `deployOne_asks`: what one contract asks, and what is written down of it;
* `deploy_calls_first`: what a deployment asks.
-/

namespace SolidityRepl.Chain

open Abi

variable {W : Type}

/-- The function that a contract is called by, with the bytes of the call. -/
def Entry (contract : Contract) (function : Json) (data : Bytes) : Prop :=
  ∃ entry, contract.entry = some entry ∧
    findFunction? contract.abi (some entry) = .ok (some function) ∧ selectorOf function = .ok data

/-- What is written down of a contract by what its function answered. -/
def heard (contract : Contract) (address : Address) (function : Json) :
    Except Failure Bytes → Except Failure Deployed
  | .ok output => (Outcome.answered address function output).result contract
  | .error e => settled contract (some address) e

/-- Questions that call nothing but the functions of some contracts, and what is written down of
their answers: of each contract that was made and has a function to be called, what that function
answered. -/
structure Speaks (gas : GasLimits) (sender : Address) (contracts : List Contract)
    (asked : List Query) (results : List Deployed) : Prop where
  calls : ∀ sender' target data limit answer, .call sender' target data limit answer ∈ asked →
    ∃ contract ∈ contracts, ∃ function, Entry contract function data
  heard : ∀ d ∈ results, ∀ address function data, d.address = some address →
    Entry d.contract function data → ∃ answer,
      .call sender address data gas.call answer ∈ asked ∧
      heard d.contract address function answer = .ok d

namespace Speaks

variable {gas : GasLimits} {sender : Address} {contracts more : List Contract}
  {asked later : List Query} {results others : List Deployed}

theorem silent (gas : GasLimits) (sender : Address) (contracts : List Contract) :
    Speaks gas sender contracts [] [] where
  calls _ _ _ _ _ among := absurd among List.not_mem_nil
  heard _ among := absurd among List.not_mem_nil

theorem mono (speaks : Speaks gas sender contracts asked results) (wider : contracts ⊆ more)
    (fewer : others ⊆ results) : Speaks gas sender more asked others where
  calls sender' target data limit answer among := by
    obtain ⟨contract, listed, called⟩ := speaks.calls sender' target data limit answer among
    exact ⟨contract, wider listed, called⟩
  heard d among := speaks.heard d (fewer among)

theorem append (first : Speaks gas sender contracts asked results)
    (second : Speaks gas sender contracts later others) :
    Speaks gas sender contracts (asked ++ later) (results ++ others) where
  calls sender' target data limit answer among := by
    rcases List.mem_append.mp among with among | among
    · exact first.calls sender' target data limit answer among
    · exact second.calls sender' target data limit answer among
  heard d among address function data placed entry := by
    rcases List.mem_append.mp among with among | among
    · obtain ⟨answer, there, written⟩ := first.heard d among address function data placed entry
      exact ⟨answer, List.mem_append_left _ there, written⟩
    · obtain ⟨answer, there, written⟩ := second.heard d among address function data placed entry
      exact ⟨answer, List.mem_append_right _ there, written⟩

end Speaks

variable {chain : Chain W} {gas : GasLimits} {sender : Address} {contract : Contract}

/-- What is asked when something is done with a journal, and how it goes with what is asked. -/
def Asks {α : Type} (act : Act (W × List Query) α)
    (goes : List Query → Except Failure α → Prop) : Prop :=
  ∀ s journal, ∃ asked r t, act.run (s, journal) = (r, (t, journal ++ asked)) ∧ goes asked r

def writtenDown : Except Failure Deployed → List Deployed
  | .ok d => [d]
  | .error _ => []

theorem settled_ok {address : Option Address} {e : Failure} {d : Deployed}
    (written : settled contract address e = .ok d) :
    d.contract = contract ∧ d.address = address := by
  cases e with
  | deployFailed e =>
    cases written
    exact ⟨rfl, rfl⟩
  | _ => cases written

theorem heard_ok {address : Address} {function : Json} {answer : Except Failure Bytes}
    {d : Deployed} (written : heard contract address function answer = .ok d) :
    d.contract = contract ∧ d.address = some address := by
  cases answer with
  | error e => exact settled_ok written
  | ok output =>
    rw [heard, Outcome.result] at written
    split at written
    · cases written
      exact ⟨rfl, rfl⟩
    · split at written
      · cases written
        exact ⟨rfl, rfl⟩
      · exact settled_ok written

/-- Questions that call nothing. -/
def Quiet (asked : List Query) : Prop :=
  ∀ sender target data limit answer, .call sender target data limit answer ∉ asked

theorem quiet_nil : Quiet [] := by
  intro _ _ _ _ _ among
  cases among

theorem quiet_create (sender : Address) (code : Bytes) (limit : Json)
    (answer : Except Failure Address) : Quiet [.create sender code limit answer] := by
  intro _ _ _ _ _ among
  cases List.mem_singleton.mp among

/-- A contract of which no function is called. -/
theorem speaks_uncalled {asked : List Query}
    (quiet : Quiet asked) {r : Except Failure Deployed}
    (uncalled : ∀ d, r = .ok d → ∀ address function data,
      d.address = some address → ¬Entry d.contract function data) :
    Speaks gas sender [contract] asked (writtenDown r) where
  calls sender' target data limit answer among :=
    absurd among (quiet sender' target data limit answer)
  heard d among address function data placed entry := by
    cases r with
    | error e => cases among
    | ok d' =>
      obtain rfl := List.mem_singleton.mp among
      exact absurd entry (uncalled d rfl address function data placed)

/-- A contract that has no address, since it failed before it got one. -/
theorem speaks_unmade {asked : List Query}
    (quiet : Quiet asked) (e : Failure) :
    Speaks gas sender [contract] asked (writtenDown (settled contract none e)) := by
  refine speaks_uncalled quiet ?_
  intro d written address _ _ placed
  cases (settled_ok written).2.symm.trans placed

/-- A contract whose function is called. -/
theorem speaks_called {address : Address} {function : Json} {data : Bytes}
    (entry : Entry contract function data) (answer : Except Failure Bytes) :
    Speaks gas sender [contract] [.call sender address data gas.call answer]
      (writtenDown (heard contract address function answer)) where
  calls sender' target data' limit answer' among := by
    cases List.mem_singleton.mp among
    exact ⟨contract, List.mem_singleton_self contract, function, entry⟩
  heard d among address' function' data' placed entry' := by
    cases written : heard contract address function answer with
    | error e =>
      rw [written] at among
      cases among
    | ok d' =>
      rw [written] at among
      obtain rfl := List.mem_singleton.mp among
      obtain ⟨rfl, there⟩ := heard_ok written
      cases there.symm.trans placed
      obtain ⟨name, named, found, selects⟩ := entry
      obtain ⟨name', named', found', selects'⟩ := entry'
      cases named.symm.trans named'
      cases found.symm.trans found'
      cases selects.symm.trans selects'
      exact ⟨answer, List.mem_singleton_self _, written⟩

/-- Where there is no function to be called, nothing is. -/
theorem callEntry_uncalled (chain : Chain W) {entry : String} (named : contract.entry = some entry)
    (none : ∀ function data, ¬Entry contract function data) (address : Address) (s : W) :
    ∃ e, (chain.callEntry gas sender contract entry address).run s = (.error e, s) := by
  rw [callEntry, Act.run_bind, Act.run_ofExcept]
  cases found : findFunction? contract.abi (some entry) with
  | error e => exact ⟨e, rfl⟩
  | ok function? =>
    cases function? with
    | none => exact ⟨_, rfl⟩
    | some function =>
      show ∃ e, (Act.ofExcept (selectorOf function) >>= _).run s = _
      rw [Act.run_bind, Act.run_ofExcept]
      cases selects : selectorOf function with
      | error e => exact ⟨e, rfl⟩
      | ok data => exact absurd ⟨entry, named, found, selects⟩ (none function data)

/-- **A contract that was made is finished by one call at most**, that of its function. -/
theorem finish_asks (chain : Chain W) (gas : GasLimits) (sender : Address) (contract : Contract)
    (address : Address) : Asks (chain.journaled.finish gas sender contract address)
      fun asked r => Speaks gas sender [contract] asked (writtenDown r) := by
  intro s journal
  by_cases called : ∃ function data, Entry contract function data
  · obtain ⟨function, data, own⟩ := called
    obtain ⟨entry, named, found, selects⟩ := id own
    obtain ⟨answer, t, answers⟩ : ∃ answer t,
        (chain.call sender address data gas.call).run s = (answer, t) := ⟨_, _, rfl⟩
    have call := journaled_call answers journal
    refine ⟨[.call sender address data gas.call answer], heard contract address function answer, t,
      ?_, speaks_called own answer⟩
    cases answer with
    | error e =>
      apply finish_run_error named
      rw [callEntry_run found selects, call]
    | ok output =>
      apply finish_run_answered named
      rw [callEntry_run found selects, call]
  · have none : ∀ function data, ¬Entry contract function data :=
      fun function data own => called ⟨function, data, own⟩
    cases named : contract.entry with
    | none =>
      refine ⟨[], .ok { contract, address := some address }, s, ?_,
        speaks_uncalled quiet_nil ?_⟩
      · rw [finish, named, List.append_nil]
        rfl
      · intro d written _ function data _
        cases written
        exact none function data
    | some entry =>
      obtain ⟨e, fails⟩ := callEntry_uncalled chain.journaled named none address (s, journal)
      refine ⟨[], settled contract (some address) e, s, ?_, speaks_uncalled quiet_nil ?_⟩
      · rw [finish_run_error named fails, List.append_nil]
      · intro d written _ function data _
        rw [(settled_ok written).1]
        exact none function data

/-- **What one contract asks**: it is made, and then finished. -/
theorem deployOne_asks (chain : Chain W) (gas : GasLimits) (sender : Address)
    (contract : Contract) : Asks (chain.journaled.deployOne gas sender contract)
      fun asked r => Speaks gas sender [contract] asked (writtenDown r) := by
  intro s journal
  cases linked : codeOf contract with
  | error e =>
    refine ⟨[], settled contract none e, s, ?_, speaks_unmade quiet_nil e⟩
    rw [List.append_nil]
    apply deployOne_run_unmade
    rw [Act.run_bind, Act.run_ofExcept, linked]
  | ok code =>
    obtain ⟨created, t, creates⟩ : ∃ created t,
        (chain.create sender code gas.deploy).run s = (created, t) := ⟨_, _, rfl⟩
    have quiet := quiet_create sender code gas.deploy created
    cases created with
    | error e =>
      refine ⟨[.create sender code gas.deploy (.error e)], settled contract none e, t, ?_,
        speaks_unmade quiet e⟩
      apply deployOne_run_unmade
      rw [Act.run_bind, Act.run_ofExcept, linked]
      show (writing _ (chain.create sender code gas.deploy)).run (s, journal) = _
      rw [writing, Act.run_ofRun, creates]
    | ok address =>
      obtain ⟨asked, r, u, finished, speaks⟩ := finish_asks chain gas sender contract address t
        (journal ++ [.create sender code gas.deploy (.ok address)])
      have made : Speaks gas sender [contract] [.create sender code gas.deploy (.ok address)] [] :=
        by
        refine speaks_uncalled (r := .error .unsupported) quiet ?_
        intro d written
        cases written
      refine ⟨[.create sender code gas.deploy (.ok address)] ++ asked, r, u, ?_,
        made.append speaks⟩
      rw [deployOne_run_made (.journaled linked creates journal), finished, List.append_assoc]

/-- **What several contracts ask**, one after the other, by induction on the contracts. -/
theorem deployAll_asks (chain : Chain W) (gas : GasLimits) (sender : Address)
    (contracts : List Contract) : Asks (chain.journaled.deployAll gas sender contracts)
      fun asked r => Speaks gas sender contracts asked (r.toOption.getD []) := by
  induction contracts with
  | nil =>
    intro s journal
    exact ⟨[], .ok [], s, by rw [List.append_nil]; rfl, .silent gas sender []⟩
  | cons contract rest ih =>
    intro s journal
    have others : rest ⊆ contract :: rest := List.subset_cons_self contract rest
    have own : [contract] ⊆ contract :: rest := by simp
    rw [deployAll, Act.run_bind, Act.run_ofExcept]
    cases coded : contract.isDeployable with
    | error e => exact ⟨[], .error e, s, by rw [List.append_nil], .silent gas sender _⟩
    | ok b =>
      cases b with
      | false =>
        obtain ⟨asked, r, t, ran, speaks⟩ := ih s journal
        exact ⟨asked, r, t, ran, speaks.mono others (List.Subset.refl _)⟩
      | true =>
        obtain ⟨asked, r, t, ran, speaks⟩ := deployOne_asks chain gas sender contract s journal
        show ∃ asked r t, (chain.journaled.deployOne gas sender contract >>= _).run _ = _ ∧ _
        cases r with
        | error e =>
          exact ⟨asked, .error e, t, Act.run_bind_error ran,
            speaks.mono own (List.Subset.refl _)⟩
        | ok d =>
          obtain ⟨later, r', u, ran', speaks'⟩ := ih t (journal ++ asked)
          have both := (speaks.mono own (List.Subset.refl _)).append
            (speaks'.mono others (List.Subset.refl _))
          refine ⟨asked ++ later, r'.map (d :: ·), u, ?_, ?_⟩
          · rw [Act.run_bind_ok ran, Act.run_bind, ran', List.append_assoc]
            cases r' <;> rfl
          · cases r' with
            | error e => exact both.mono (List.Subset.refl _) (List.nil_subset _)
            | ok ds => exact both

/-- **What a deployment asks**: to call the functions of its contracts and no others. -/
theorem deploy_asks {chain : Chain W} (gas : GasLimits) (contracts : Keyed Contract)
    {sender : Address} {others : List Address} {s t : W}
    (accounts : chain.accounts.run s = (.ok (sender :: others), t)) :
    ∃ asked r after, (chain.journaled.deploy gas contracts).run (s, []) = (r, (after, asked)) ∧
      Speaks gas sender (contracts.map (·.2)) asked ((r.toOption.getD []).map (·.2)) := by
  have accounts' : chain.journaled.accounts.run (s, []) = (.ok (sender :: others), (t, [])) := by
    show (Act.zoom Prod.fst (fun s w => (s, w.2)) chain.accounts).run (s, []) = _
    rw [Act.run_zoom, accounts]
  obtain ⟨asked, r, after, ran, speaks⟩ :=
    deployAll_asks chain gas sender (ordered (contracts.map (·.2))) t []
  have all := speaks.mono (perm_ordered _).subset (List.Subset.refl _)
  refine ⟨asked, r.map byName, after, ?_, ?_⟩
  · rw [deploy, Act.run_bind_ok accounts']
    show (chain.journaled.deployAll gas sender _ >>= _).run _ = _
    rw [Act.run_bind, ran]
    cases r <;> rfl
  · cases r with
    | error e => exact all
    | ok ds =>
      refine all.mono (List.Subset.refl _) ?_
      intro d among
      obtain ⟨named, listed, rfl⟩ := List.mem_map.mp among
      rcases Keyed.mem_of_mem_putAll listed with put | before
      · obtain ⟨d, written, rfl⟩ := List.mem_map.mp put
        exact written
      · cases before

/-- A contract with an entry function, and an item of its interface that describes this function as
one without inputs. -/
structure HasEntry (contract : Contract) (entry : String) (items : List Json) (item : Json) :
    Prop where
  called : contract.entry = some entry
  interface : contract.abi = .arr items
  objects : ∀ i ∈ items, ∃ fields, i = .obj fields
  listed : item ∈ items
  own : IsFunctionOf entry item
  plain : item.get? "inputs" = some (.arr [])

/-- **The function that is called is the first of its name.** -/
theorem entry_iff {entry : String} {items : List Json} (called : contract.entry = some entry)
    (interface : contract.abi = .arr items) (objects : ∀ i ∈ items, ∃ fields, i = .obj fields)
    (function : Json) (data : Bytes) :
    Entry contract function data ↔
      IsFirst entry items function ∧ selectorOf function = .ok data := by
  have found : findFunction? contract.abi (some entry) = findIn? (some entry) items := by
    rw [interface]
    rfl
  rw [← findIn?_eq_some objects, ← found]
  constructor
  · rintro ⟨entry', called', found, selects⟩
    cases called.symm.trans called'
    exact ⟨found, selects⟩
  · rintro ⟨found, selects⟩
    exact ⟨entry, called, found, selects⟩

/-- **A deployment calls the first function that has the name of the entry**, and its value is what
that function's outputs say. The one without inputs it is if no other stands before it. -/
theorem deploy_calls_first {chain : Chain W} (gas : GasLimits) (contracts : Keyed Contract)
    {sender : Address} {others : List Address} {s t : W}
    (accounts : chain.accounts.run s = (.ok (sender :: others), t)) :
    (∃ asked r after, (chain.journaled.deploy gas contracts).run (s, []) = (r, (after, asked)) ∧
      Speaks gas sender (contracts.map (·.2)) asked ((r.toOption.getD []).map (·.2))) ∧
    ∀ contract entry items item, HasEntry contract entry items item →
      (∃ first, IsFirst entry items first ∧ ∀ function data,
        Entry contract function data ↔ function = first ∧ selectorOf first = .ok data) ∧
      (IsFirst entry items item → ∀ function data,
        Entry contract function data ↔ function = item ∧ data = selector (entry ++ "()")) := by
  refine ⟨deploy_asks gas contracts accounts, ?_⟩
  intro contract entry items item has
  have calls : ∀ first, IsFirst entry items first → ∀ function data,
      Entry contract function data ↔ function = first ∧ selectorOf first = .ok data := by
    intro first isFirst function data
    rw [entry_iff has.called has.interface has.objects]
    constructor
    · rintro ⟨own, selects⟩
      obtain rfl := own.unique isFirst
      exact ⟨rfl, selects⟩
    · rintro ⟨rfl, selects⟩
      exact ⟨isFirst, selects⟩
  constructor
  · obtain ⟨first, isFirst⟩ := exists_isFirst has.listed has.own
    exact ⟨first, isFirst, calls first isFirst⟩
  · intro isFirst function data
    rw [calls item isFirst, selectorOf_plain has.own has.plain, Except.ok.injEq,
      eq_comm (a := data)]

/-! ## A contract with two functions of one name -/

/-- The description of a function that takes a number and gives nothing back. -/
def taking : Json :=
  .obj [("type", .str "function"), ("name", .str "main"),
    ("inputs", .arr [.obj [("name", .str "n"), ("type", .str "uint256")]]), ("outputs", .arr [])]

/-- The description of a function that takes nothing and gives a number back. -/
def giving : Json := answering "uint256" []

def offering (items : List Json) : Contract :=
  { name := "C", abi := .arr items, bytecode := .str "00", entry := some "main" }

theorem offering_hasEntry {items : List Json} (both : items = [taking, giving] ∨
    items = [giving, taking]) : HasEntry (offering items) "main" items giving where
  called := rfl
  interface := rfl
  objects := by
    rcases both with rfl | rfl <;> simp only [List.forall_mem_cons] <;>
      exact ⟨⟨_, rfl⟩, ⟨_, rfl⟩, List.forall_mem_nil _⟩
  listed := by rcases both with rfl | rfl <;> simp
  own := ⟨rfl, rfl⟩
  plain := rfl

/-- A chain whose contracts all answer with the number seven. -/
def seven : Chain Unit := (Backend.echoing (Bytes.ofNat 32 7)).chain

theorem deploy_calls_giving :
    seven.accounts.run () = (.ok [.ofNat 1], ()) ∧
    HasEntry (offering [giving, taking]) "main" [giving, taking] giving ∧
    IsFirst "main" [giving, taking] giving ∧
    (∃ asked r after,
      (seven.journaled.deploy default [("C", offering [giving, taking])]).run ((), []) =
        (r, (after, asked)) ∧
      Speaks default (.ofNat 1) [offering [giving, taking]] asked
        ((r.toOption.getD []).map (·.2))) ∧
    ∀ function data, Entry (offering [giving, taking]) function data ↔
      function = giving ∧ data = selector ("main" ++ "()") := by
  have accounts : seven.accounts.run () = (.ok [.ofNat 1], ()) := rfl
  have has := offering_hasEntry (.inr rfl)
  have first : IsFirst "main" [giving, taking] giving := .head has.own [taking]
  obtain ⟨asks, calls⟩ :=
    deploy_calls_first default [("C", offering [giving, taking])] accounts
  exact ⟨accounts, has, first, asks, (calls _ _ _ _ has).2 first⟩

/-- The function that takes a number is called, without one, and the seven is lost. -/
theorem deploy_calls_overload :
    HasEntry (offering [taking, giving]) "main" [taking, giving] giving ∧
    (seven.journaled.deploy default [("C", offering [taking, giving])]).run ((), []) =
      (.ok [("C", { contract := offering [taking, giving], address := some (.ofNat 2) })],
        ((), [.create (.ofNat 1) [0] default (.ok (.ofNat 2)),
          .call (.ofNat 1) (.ofNat 2) (selector "main(uint256)") default
            (.ok (Bytes.ofNat 32 7))])) ∧
    selector "main(uint256)" ≠ selector "main()" := by
  refine ⟨offering_hasEntry (.inl rfl), ?_, by decide +kernel⟩
  rfl

end SolidityRepl.Chain
