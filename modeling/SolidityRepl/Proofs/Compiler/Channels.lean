import SolidityRepl.Proofs.Compilation
import SolidityRepl.Proofs.Compiler.Transparency

/-!
# Two ways to refuse a program

A compiler refuses a program by remarks in its output, or by breaking down with the same remarks at
hand. Both come to one result. A breakdown without remarks is passed on, and nothing else becomes a
breakdown.

* `Failure.PassedOn`: causes that are breakdowns only if somebody broke down with them;
* `Import.gather_passes`, `Store.lookUp_passes`: what is done around a compiler passes on breakdowns
  and makes none;
* `Compiler.IsAsked`, `Compiler.answer_asked`: a compiler that is asked for an output;
* `Compiler.compile_channels`: the results of a compiler, whichever way it takes.
-/

namespace SolidityRepl

/-! ## Breakdowns -/

def Failure.isBreakdown : Failure → Bool
  | .compilerBroke _ => true
  | _ => false

/-- A cause that is a breakdown only if somebody broke down with it. -/
def Failure.PassedOn (Broke : Failure → Prop) (e : Failure) : Prop := e.isBreakdown = true → Broke e

variable {Broke : Failure → Prop}

theorem Failure.passedOn_of_not {e : Failure} (other : e.isBreakdown = false) :
    e.PassedOn Broke := fun broke => absurd (other.symm.trans broke) Bool.false_ne_true

open Failure

namespace Json

theorem optional_passes (value : Json) (key : String) (fallback : Json) :
    FailsBy (PassedOn Broke) (value.optional key fallback) := by
  cases value with
  | obj fields => exact .ok _
  | _ => exact .error (passedOn_of_not rfl)

theorem asFields_passes (value : Json) : FailsBy (PassedOn Broke) value.asFields := by
  cases value with
  | obj fields => exact .ok _
  | _ => exact .error (passedOn_of_not rfl)

theorem asText_passes (value : Json) : FailsBy (PassedOn Broke) value.asText := by
  cases value with
  | str s => exact .ok _
  | _ => exact .error (passedOn_of_not rfl)

theorem parts_passes (value : Json) : FailsBy (PassedOn Broke) value.parts := by
  cases value with
  | arr items => exact .ok _
  | obj fields => exact .ok _
  | str s => exact .ok _
  | _ => exact .error (passedOn_of_not rfl)

end Json

namespace CompileResult

theorem remarks_passes (errors : Json) : FailsBy (PassedOn Broke) (remarks errors) :=
  errors.parts_passes.bind fun items => .mapM (fun e => e.asFields_passes.map _) items

theorem ofJson_passes (name : String) (data : Json) :
    FailsBy (PassedOn Broke) (Contract.ofJson name data) :=
  (data.optional_passes _ _).bind fun evm => (evm.optional_passes _ _).bind fun code =>
    (data.optional_passes _ _).bind fun _ => (code.optional_passes _ _).bind fun _ =>
      (code.optional_passes _ _).bind fun _ => (data.optional_passes _ _).bind fun _ => .ok _

theorem contractsOf_passes (all : Json) (unit : String) :
    FailsBy (PassedOn Broke) (contractsOf all unit) :=
  (all.optional_passes _ _).bind fun unit => unit.asFields_passes.bind fun fields =>
    .mapM (fun c => (ofJson_passes c.1 c.2).map _) fields

/-- An output that cannot be read is no breakdown. -/
theorem ofOutput_passes (output : Json) (units : List String) :
    FailsBy (PassedOn Broke) (ofOutput output units) := by
  refine (output.optional_passes _ _).bind fun errors => (remarks_passes errors).bind fun ds => ?_
  split
  · exact .ok _
  · exact (output.optional_passes _ _).bind fun all =>
      (FailsBy.mapM (contractsOf_passes all) units).bind fun _ => .ok _

end CompileResult

namespace Import

variable {W : Type} {lookUp : String → Act W Answer}

theorem textOf_passes (source : Json) : FailsBy (PassedOn Broke) (textOf source) :=
  (source.optional_passes _ _).bind Json.asText_passes

theorem unitName_passes (importer path : String) :
    FailsBy (PassedOn Broke) (unitName importer path) := by
  rcases unitName_ok_or_invalid importer path with ⟨name, named⟩ | unnamed
  · rw [named]
    exact .ok name
  · rw [unnamed]
    exact .error (passedOn_of_not rfl)

namespace Gathering

theorem want_passes (asks : ∀ name, (lookUp name).FailsBy (PassedOn Broke)) (g : Gathering)
    (name : String) : (want lookUp g name).FailsBy (PassedOn Broke) := by
  rw [want]
  split
  · exact .pure g
  · refine (asks name).bind fun answer => ?_
    cases answer with
    | found text => exact .pure _
    | refused why => exact .pure g

theorem wantAll_passes (asks : ∀ name, (lookUp name).FailsBy (PassedOn Broke)) (importer : String)
    (g : Gathering) (paths : List String) :
    (wantAll lookUp importer g paths).FailsBy (PassedOn Broke) := by
  induction paths generalizing g with
  | nil => exact .pure g
  | cons path more ih =>
    rw [wantAll]
    exact (Act.FailsBy.ofExcept (unitName_passes importer path)).bind fun name =>
      (want_passes asks g name).bind ih

theorem visit_passes (asks : ∀ name, (lookUp name).FailsBy (PassedOn Broke)) (g : Gathering)
    (unit : String × Json) : (visit lookUp g unit).FailsBy (PassedOn Broke) :=
  (Act.FailsBy.ofExcept (textOf_passes unit.2)).bind fun text =>
    wantAll_passes asks unit.1 g (pathsOf text)

/-- By induction on the units that are looked through. -/
theorem run_passes (asks : ∀ name, (lookUp name).FailsBy (PassedOn Broke)) {g : Gathering} {w : W}
    (ends : Acc (Follows lookUp) (g, w)) : FailsBy (PassedOn Broke) (run lookUp g w).1 := by
  generalize start : (g, w) = now at ends
  induction ends generalizing g w with
  | intro now ends ih =>
    subst start
    have ends : Acc (Follows lookUp) (g, w) := .intro _ ends
    cases waiting : g.pending with
    | nil =>
      rw [run_done ends waiting]
      exact .ok g
    | cons unit pending =>
      have one := visit_passes asks { g with pending } unit w
      cases visited : (visit lookUp { g with pending } unit).run w with
      | mk r w' =>
        rw [visited] at one
        cases r with
        | ok g' =>
          rw [run_visited ends waiting visited]
          exact ih (g', w') ⟨unit, pending, waiting, visited⟩ rfl
        | error e =>
          rw [run_failed ends waiting visited]
          exact one

end Gathering

/-- **A breakdown while sources are gathered is that of whoever was asked.** -/
theorem gather_passes {lookUp : Option (String → Act W Answer)} {sources : Keyed Json} {w : W}
    (ends : Ends lookUp sources w) :
    FailsBy (PassedOn fun e => ∃ l ∈ lookUp, ∃ name u, ((l name).run u).1 = .error e)
      ((gather lookUp sources).run w).1 := by
  cases lookUp with
  | none => exact .ok sources
  | some l =>
    rw [run_gather]
    exact (Gathering.run_passes (fun name u e raised _ => ⟨l, rfl, name, u, raised⟩)
      (ends l rfl)).map _

end Import

namespace Folder

variable {T : Type}

theorem make_passes {root : Folder T} {step : String} {before : List String}
    {made : Folder T × Except Failure Unit} (ran : root.make step before = .ok made) :
    FailsBy (PassedOn Broke) made.2 := by
  rw [make] at ran
  cases placed : place [] [] root before with
  | error lost =>
    rw [placed] at ran
    cases ran
  | ok at' =>
    rw [placed] at ran
    obtain rfl := Except.ok.inj ran
    dsimp only
    split
    · exact .ok ()
    · split
      · exact .error (passedOn_of_not rfl)
      · split
        · exact .ok ()
        · exact .ok ()
        · exact .error (passedOn_of_not rfl)

theorem Lost.failure_passes (lost : Lost) :
    FailsBy (PassedOn Broke) (.error lost.failure : Except Failure Unit) := by
  cases lost <;> exact .error (passedOn_of_not rfl)

theorem makeAll_passes (root : Folder T) (steps : List String) :
    FailsBy (PassedOn Broke) (root.makeAll steps).2 := by
  induction steps with
  | nil => exact .ok ()
  | cons step before ih =>
    rw [makeAll]
    split
    · rename_i ran
      exact make_passes ran
    · split
      · split
        · rename_i ran
          exact make_passes ran
        · exact Lost.failure_passes _
      · exact ih
    · exact Lost.failure_passes _

end Folder

namespace Store

variable {O T : Type} [Duration T]

theorem ofFolder_passes (folder salt : String) :
    FailsBy (PassedOn Broke) (ofFolder folder salt) := by
  refine FailsBy.bind ?_ fun _ => .ok _
  rw [stepsTo]
  split
  · exact .ok _
  · split
    · exact .error (passedOn_of_not rfl)
    · exact .ok _
  · exact .ok _

theorem sweep_passes (store : Store) (all : Bool) :
    (store.sweep all : Act (World O T) Unit).FailsBy (PassedOn Broke) := by
  rw [sweep]
  cases Path.isNowhere store.folder with
  | true => exact fun _ => .error (passedOn_of_not rfl)
  | false => exact fun _ => .ok ()

omit [Duration T] in
theorem keep_passes (store : Store) (key : String) (content : Content) :
    (store.keep key content : Act (World O T) Unit).FailsBy (PassedOn Broke) := by
  intro w
  rw [keep, Act.run_ofRun]
  split
  · exact .error (passedOn_of_not rfl)
  · split
    · exact .ok ()
    · exact .error (passedOn_of_not rfl)

omit [Duration T] in
theorem prepare_passes (store : Store) :
    (store.prepare : Act (World O T) Unit).FailsBy (PassedOn Broke) := by
  rw [prepare]
  cases Path.isNowhere store.steps with
  | true => exact fun _ => .error (passedOn_of_not rfl)
  | false =>
    cases Path.isEndless store.steps with
    | true => exact fun _ => .error (passedOn_of_not rfl)
    | false => exact fun w => w.disk.makeAll_passes store.steps.reverse

/-- **A breakdown while a value is looked up is that of its maker**, in a world that the store has
made ready for it. -/
theorem lookUp_passes (store : Store) (key : String) {make : Act (World O T) Json} {w : World O T}
    (making : ∀ u : World O T, u.outside = w.outside → FailsBy (PassedOn Broke) (make.run u).1) :
    FailsBy (PassedOn Broke) ((store.lookUp key make).run w).1 := by
  have taking : ∀ u : World O T, u.outside = w.outside →
      FailsBy (PassedOn Broke) ((store.take key make).run u).1 := by
    intro u outside
    refine .bind_run (prepare_passes store u) fun _ => .bind_run (.ok _) fun v => ?_
    have outside' := (store.prepare_tended u).1.outside.trans outside
    split
    · exact ((keep_passes store key _).bind fun _ => .pure _) _
    · exact .error (passedOn_of_not rfl)
    · exact .bind_run (making _ outside') fun value =>
        ((keep_passes store key _).bind fun _ => .pure value) _
  refine .bind_run (.ok w) fun v => ?_
  split
  · exact .bind_run (sweep_passes store false w) fun _ =>
      taking _ (store.sweep_tended false w).1.outside
  · exact taking w rfl

end Store

namespace Compiler

variable {O T : Type} [Duration T] {c : Compiler} {host : Host O}

/-- **A breakdown that comes with an answer is that of the compiler.** -/
theorem answer_passes (c : Compiler) (host : Host O) (input : Json) (w : World O T) :
    FailsBy (PassedOn fun e => ((host.compile c.version input).run w.outside).1 = .error e)
      ((c.answer host input).run w).1 := by
  have running : ∀ u : World O T, u.outside = w.outside →
      FailsBy (PassedOn fun e => ((host.compile c.version input).run w.outside).1 = .error e)
        ((c.run host input).run u).1 := by
    intro u outside e raised _
    rw [← outside]
    exact raised
  rw [answer]
  split
  · exact running w rfl
  · exact .bind_run (Store.ofFolder_passes _ _) fun store => store.lookUp_passes _ running
  · exact .error (passedOn_of_not rfl)

/-! ## What a compiler is asked for -/

/-- The compiler itself is asked for an output: either none are stored, or there is none for this
input in a store that can be written to. -/
inductive IsAsked (c : Compiler) (input : Json) (w : World O T) : Prop
  | alone (unstored : c.store = .null)
  | stored {folder : String} {store : Store} (kept : c.store = .str folder)
      (opened : Store.ofFolder folder salt = .ok store)
      (writable : store.IsWritable (c.keyOf input) w)
      (absent : store.contentOf (c.keyOf input) (store.looked w) = none)

omit [Duration T] in
/-- What a compiler has done outside does not matter to a file that is kept. -/
theorem keep_after (store : Store) (key : String) (content : Content) {w u : World O T}
    (disk : u.disk = w.disk) (now : u.now = w.now) :
    ((store.keep key content).run u).1 = ((store.keep key content).run w).1 := by
  rw [Store.keep, Act.run_ofRun, Act.run_ofRun, disk, now]
  split
  · rfl
  · cases w.disk.putFile content w.now (store.fileName key) store.steps <;> rfl

/-- **A compiler that is asked gives the answer**, whether its outputs are stored or not. -/
theorem answer_asked {input : Json} {t : World O T} (asked : c.IsAsked input t) :
    ((c.answer host input).run t).1 = ((host.compile c.version input).run t.outside).1 := by
  cases asked with
  | alone unstored =>
    rw [answer, unstored]
    rfl
  | @stored folder store kept opened writable absent =>
    have opening : (Act.ofExcept (Store.ofFolder folder salt) : Act (World O T) Store).run t =
        (.ok store, t) := by
      rw [Act.run_ofExcept, opened]
    have outside : (store.looked t).outside = t.outside := (store.looked_tended t).1.outside
    have answered : (c.answer host input).run t = (do
        let value ← c.run host input
        store.keep (c.keyOf input) (.value value)
        return value : Act (World O T) Json).run (store.looked t) := by
      rw [answer, kept]
      refine (Act.run_bind_ok opening).trans ((Store.lookUp_run writable _).trans ?_)
      rw [absent]
    obtain ⟨u, ran, disk, now⟩ : ∃ u, (c.run host input).run (store.looked t) =
        (((host.compile c.version input).run t.outside).1, u) ∧
        u.disk = (store.looked t).disk ∧ u.now = (store.looked t).now := by
      rw [← outside]
      exact ⟨_, rfl, rfl, rfl⟩
    rw [answered]
    cases said : ((host.compile c.version input).run t.outside).1 with
    | error e =>
      rw [said] at ran
      rw [Act.run_bind_error ran]
    | ok output =>
      rw [said] at ran
      have put := (keep_after store (c.keyOf input) (.value output) disk now).trans
        (writable.kept (.value output))
      rw [Act.run_bind_ok ran, Act.run_bind_ok (Store.keep_run _ _ put)]
      rfl

/-- A compiler is asked if no file is in the way of its store, and none is there for the input. -/
theorem isAsked_of_clear {folder : String} {store : Store} {input : Json} {w : World O T}
    (kept : c.store = .str folder) (opened : Store.ofFolder folder salt = .ok store)
    (proper : store.IsProper) (clear : w.disk.Clear store.spot)
    (absent : ∀ content, ¬w.disk.Holds (store.spot ++ [store.fileName (c.keyOf input)]) content) :
    c.IsAsked input w := by
  refine .stored kept opened (Store.isWritable_of_clear proper clear) ?_
  cases there : store.contentOf (c.keyOf input) (store.looked w) with
  | none => rfl
  | some content =>
    exact absurd ((store.looked_tended w).2 _ _ (Store.holds_of_contentOf there)) (absent content)

/-! ## Both ways -/

open CompileResult

/-- The two ways in which a compiler refuses a program with some remarks. -/
inductive Refuses (errors : List (Keyed Json)) : Except Failure Json → Prop
  | output {output : Json} (reports : Reports output errors) : Refuses errors (.ok output)
  | breakdown : Refuses errors (.error (.compilerBroke (errors.map .obj)))

theorem verdict_refused {errors : List (Keyed Json)} {said : Except Failure Json}
    (refuses : Refuses errors said) (refused : ∃ e ∈ errors, IsRefusal e) (names : List String) :
    verdict names said = .ok (.failed (errors.map Diagnostic.ofFields)) := by
  cases refuses with
  | output reports => exact ofOutput_refused reports refused names
  | breakdown =>
    cases errors with
    | nil =>
      obtain ⟨e, among, _⟩ := refused
      cases among
    | cons first rest =>
      show (remarks (.arr ((first :: rest).map .obj))).map CompileResult.failed = _
      rw [remarks_objects]
      rfl

/-- A verdict that is a breakdown is one without remarks. -/
theorem verdict_broke {names : List String} {said : Except Failure Json} {remarks : List Json}
    (broke : verdict names said = .error (.compilerBroke remarks)) :
    remarks = [] ∧ said = .error (.compilerBroke []) := by
  cases said with
  | ok output => exact (@ofOutput_passes (fun _ => False) output names _ broke rfl).elim
  | error e =>
    cases e with
    | compilerBroke left =>
      cases left with
      | nil =>
        cases broke
        exact ⟨rfl, rfl⟩
      | cons first rest =>
        exact ((@remarks_passes (fun _ => False) _).map _ _ broke rfl).elim
    | _ => cases broke

section

variable {lookUp : Option (String → Act (World O T) Import.Answer)}
  {sources gathered : Keyed Json} {machine : Json} {w t : World O T}

theorem compile_asked (found : (Import.gather lookUp sources).run w = (.ok gathered, t))
    (asked : c.IsAsked (inputOf gathered machine) t) :
    ((c.compile host lookUp sources machine).run w).1 = verdict (Keyed.keys sources)
      ((host.compile c.version (inputOf gathered machine)).run t.outside).1 := by
  rw [compile_run found rfl]
  exact congrArg (verdict _) (answer_asked asked)

theorem compile_broke (ends : Import.Ends lookUp sources w) {remarks : List Json}
    (broke : ((c.compile host lookUp sources machine).run w).1 = .error (.compilerBroke remarks)) :
    (∃ l ∈ lookUp, ∃ name u, ((l name).run u).1 = .error (.compilerBroke remarks)) ∨
      remarks = [] ∧ ∃ gathered t, (Import.gather lookUp sources).run w = (.ok gathered, t) ∧
        ((host.compile c.version (inputOf gathered machine)).run t.outside).1 =
          .error (.compilerBroke []) := by
  have gathering := Import.gather_passes ends
  cases found : (Import.gather lookUp sources).run w with
  | mk r t =>
    rw [found] at gathering
    cases r with
    | error e =>
      rw [compile_run_error found] at broke
      cases broke
      exact .inl (gathering _ rfl rfl)
    | ok gathered =>
      rw [compile_run found rfl] at broke
      obtain ⟨rfl, answered⟩ := verdict_broke broke
      exact .inr ⟨rfl, gathered, t, rfl, answer_passes c host _ t _ answered rfl⟩

end

/-- **Whichever way a compiler refuses a program, there is one result.** An output with an error
gives all remarks in their order, and any other the contracts of the given units and the warnings.
A compiler that breaks down with the same remarks gives the same as with that output. A breakdown
without remarks is passed on, and no other comes out of a compilation, if whoever is asked for
imports does not break down. -/
theorem compile_channels (c : Compiler) (host : Host O)
    (lookUp : Option (String → Act (World O T) Import.Answer)) (sources : Keyed Json)
    (machine : Json) (w : World O T) :
    (∀ output errors, Reports output errors → ∀ units diagnostics,
      ofOutput output units = .ok (.failed diagnostics) ↔
        (∃ e ∈ errors, IsRefusal e) ∧ diagnostics = errors.map Diagnostic.ofFields) ∧
    (∀ output errors contracts, Describes output errors contracts →
      (¬∃ e ∈ errors, IsRefusal e) → ∀ units, ∃ found, ofOutput output units =
        .ok (.ok found ((errors.filter IsCaution).map Diagnostic.ofFields)) ∧
        Finds contracts units found) ∧
    (∀ gathered t, (Import.gather lookUp sources).run w = (.ok gathered, t) →
      c.IsAsked (inputOf gathered machine) t → ∀ said,
      ((host.compile c.version (inputOf gathered machine)).run t.outside).1 = said →
      (∀ errors, Refuses errors said → (∃ e ∈ errors, IsRefusal e) →
        ((c.compile host lookUp sources machine).run w).1 =
          .ok (.failed (errors.map Diagnostic.ofFields))) ∧
      (said = .error (.compilerBroke []) →
        ((c.compile host lookUp sources machine).run w).1 = .error (.compilerBroke []))) ∧
    (Import.Ends lookUp sources w → ∀ remarks,
      ((c.compile host lookUp sources machine).run w).1 = .error (.compilerBroke remarks) →
      (∃ l ∈ lookUp, ∃ name u, ((l name).run u).1 = .error (.compilerBroke remarks)) ∨
      remarks = [] ∧ ∃ gathered t, (Import.gather lookUp sources).run w = (.ok gathered, t) ∧
        ((host.compile c.version (inputOf gathered machine)).run t.outside).1 =
          .error (.compilerBroke [])) := by
  refine ⟨fun _ _ reports _ _ => ofOutput_failed_iff reports,
    fun _ _ _ described accepted => ofOutput_accepted described accepted,
    fun gathered t found asked said told => ?_, fun ends _ broke => compile_broke ends broke⟩
  rw [compile_asked found asked, told]
  refine ⟨fun _ refuses refused => verdict_refused refuses refused _, ?_⟩
  rintro rfl
  rfl

def saying (said : Except Failure Json) : Host Unit :=
  { terse with compile _ _ := Act.ofExcept said }

def storing : Compiler := { version := { release := [0, 8, 26] }, store := .str "cache" }

/-- A warning, and a remark that says not how severe it is. -/
def remarked : List (Keyed Json) :=
  [[("severity", .str "warning"), ("message", .str "unused")], [("message", .str "no such type")]]

def units : Keyed (Keyed Json) :=
  [("Library.sol", [("Main", .obj [])]), ("Main.sol", [("Main", .obj [("abi", .arr [])])])]

/-- What a compiler says for a program that is no good, and what there is for one that is. -/
theorem compile_channels_remarked :
    ((storing.compile (saying (.ok (.obj [("errors", .arr (remarked.map .obj))]))) none
      [("Main.sol", Import.sourceOf "contract Main {}")] .null).run bare).1 =
        .ok (.failed (remarked.map Diagnostic.ofFields)) ∧
    ((storing.compile (saying (.error (.compilerBroke (remarked.map .obj)))) none
      [("Main.sol", Import.sourceOf "contract Main {}")] .null).run bare).1 =
        .ok (.failed (remarked.map Diagnostic.ofFields)) ∧
    ((storing.compile (saying (.error (.compilerBroke []))) none
      [("Main.sol", Import.sourceOf "contract Main {}")] .null).run bare).1 =
        .error (.compilerBroke []) ∧
    (∃ found, ofOutput (.obj [("contracts", .obj (units.map fun unit => (unit.1, .obj unit.2)))])
      ["Main.sol", "Library.sol"] = .ok (.ok found []) ∧
      Finds units ["Main.sol", "Library.sol"] found) := by
  have refused : ∃ e ∈ remarked, IsRefusal e :=
    ⟨_, List.mem_cons_of_mem _ List.mem_cons_self, .inl rfl⟩
  have asked (input : Json) : storing.IsAsked input bare :=
    isAsked_of_clear rfl rfl shared_proper (fun _ _ _ held => nomatch held)
      fun _ held => nomatch held
  have results (said : Except Failure Json) :=
    compile_channels storing (saying said) none [("Main.sol", Import.sourceOf "contract Main {}")]
      .null bare
  have kept (said : Except Failure Json) := (results said).2.2.1 _ bare rfl (asked _) said rfl
  have described : Describes
      (.obj [("contracts", .obj (units.map fun unit => (unit.1, .obj unit.2)))]) [] units :=
    { object := ⟨_, rfl⟩
      errors := rfl
      units := rfl
      distinct := by decide
      written := by
        simp only [units, List.forall_mem_cons]
        exact ⟨⟨⟨⟨_, rfl⟩, ⟨_, rfl⟩, ⟨_, rfl⟩⟩, nofun⟩,
          ⟨⟨⟨_, rfl⟩, ⟨_, rfl⟩, ⟨_, rfl⟩⟩, nofun⟩, nofun⟩ }
  refine ⟨(kept _).1 remarked (.output ⟨⟨_, rfl⟩, rfl⟩) refused,
    (kept _).1 remarked .breakdown refused, (kept _).2 rfl, ?_⟩
  exact (results (.ok .null)).2.1 _ [] units described (fun ⟨_, among, _⟩ => nomatch among) _

end Compiler

end SolidityRepl
