import SolidityRepl.Compiler.Shelf
import SolidityRepl.Proofs.Act

/-!
# Requests to a shelf

What a shelf asks of its registry is seen by giving it a registry that notes every question with its
answer. For one key that is little: its version while none is known, and then a compiler of that
version while none is loaded.

* `Shelf.resolve_run`: what one request does;
* `Ask`, `Builds.noted`: a question with its answer, and a registry that notes them;
* `Shelf.served`: every way in which one request is served, with what is asked for it;
* `Shelf.Asking`: questions for one key, each asked only while there is no answer to it;
* `Served.asking`: what one request asks, and what is known afterwards.
-/

namespace SolidityRepl

inductive Ask where
  | version (key : String) (answer : Except Failure (Option Version))
  | compiler (version : Version) (answer : Except Failure Compiler)

namespace Builds

variable {W α : Type}

def noting (ask : Except Failure α → Ask) (act : Act W α) : Act (W × List Ask) α :=
  Act.ofRun fun w =>
    let (r, t) := act.run w.1
    (r, (t, w.2 ++ [ask r]))

def noted (builds : Builds W) : Builds (W × List Ask) where
  resolve key := noting (.version key) (builds.resolve key)
  load v := noting (.compiler v) (builds.load v)

theorem run_noting (ask : Except Failure α → Ask) (act : Act W α) (w : W) (asks : List Ask) :
    (noting ask act).run (w, asks) =
      ((act.run w).1, ((act.run w).2, asks ++ [ask (act.run w).1])) := rfl

end Builds

namespace Shelf

variable {W : Type} {builds : Builds W} {shelf : Shelf} {w : W} {spec : String}

/-! ## What is done -/

/-- What a shelf starts with. -/
theorem ofInstalled_cases {installed : Json} (made : ofInstalled installed = .ok shelf) :
    installed = .null ∧ shelf = {} ∨
      ∃ text v, installed = .str text ∧ Version.read (Range.normalized text) = .ok v ∧
        shelf = { resolved := [(Range.normalized text, v)] } := by
  cases installed with
  | null =>
    cases made
    exact .inl ⟨rfl, rfl⟩
  | str text =>
    rw [ofInstalled] at made
    cases read : Version.read (Range.normalized text) with
    | error e =>
      rw [read] at made
      cases made
    | ok v =>
      rw [read] at made
      cases made
      exact .inr ⟨text, v, rfl, read, rfl⟩
  | bool _ | int _ | real _ | arr _ | obj _ => cases made

theorem run_byBuilds {α : Type} (act : Act W α) (shelf : Shelf) (s : W) :
    (byBuilds act).run (shelf, s) = ((act.run s).1, (shelf, (act.run s).2)) := rfl

theorem versionFor_run (builds : Builds W) (spec key : String) (shelf : Shelf) (s : W) :
    (versionFor builds spec key).run (shelf, s) =
      match Keyed.get? key shelf.resolved with
      | some v => (.ok v, (shelf, s))
      | none =>
        match (builds.resolve key).run s with
        | (.ok (some v), t) =>
          (.ok v, ({ shelf with resolved := Keyed.put key v shelf.resolved }, t))
        | (.ok none, t) => (.error (.unresolvedVersion spec), (shelf, t))
        | (.error e, t) => (.error e, (shelf, t)) := by
  rw [versionFor, Act.run_bind_ok (Act.run_get (shelf, s))]
  cases Keyed.get? key shelf.resolved with
  | some v => rfl
  | none =>
    dsimp only
    rw [Act.run_bind, run_byBuilds]
    obtain ⟨answer, t⟩ := (builds.resolve key).run s
    cases answer with
    | error e => rfl
    | ok v? => cases v? <;> rfl

def fetch (builds : Builds W) (key : String) (v : Version) (shelf : Shelf) (s : W) :
    Except Failure Compiler × (Shelf × W) :=
  match (builds.load v).run s with
  | (.ok compiler, t) =>
    (.ok compiler, ({ shelf with loaded := Keyed.put key compiler shelf.loaded }, t))
  | (.error e, t) => (.error e, (shelf, t))

/-- **What one request does**: it takes what is there, and finds and loads what is not. -/
theorem resolve_run (builds : Builds W) (spec : String) (shelf : Shelf) (s : W) :
    (resolve builds spec).run (shelf, s) =
      match Keyed.get? (Range.normalized spec) shelf.loaded with
      | some compiler => (.ok compiler, (shelf, s))
      | none =>
        match (versionFor builds spec (Range.normalized spec)).run (shelf, s) with
        | (.ok v, (shelf', t)) => fetch builds (Range.normalized spec) v shelf' t
        | (.error e, u) => (.error e, u) := by
  rw [resolve, Act.run_bind_ok (Act.run_get (shelf, s))]
  cases Keyed.get? (Range.normalized spec) shelf.loaded with
  | some compiler => rfl
  | none =>
    dsimp only
    rw [Act.run_bind]
    obtain ⟨answer, shelf', t⟩ :=
      (versionFor builds spec (Range.normalized spec)).run (shelf, s)
    cases answer with
    | error e => rfl
    | ok v =>
      dsimp only
      rw [Act.run_bind, run_byBuilds, fetch]
      obtain ⟨answer, t'⟩ := (builds.load v).run t
      cases answer <;> rfl

/-! ## What is asked -/

def asked (builds : Builds W) (spec : String) (s : Shelf × W) : List Ask :=
  ((resolve builds.noted spec).run (s.1, (s.2, []))).2.2.2

/-- How the version for a range comes about: what is asked, what is answered, and what is left. -/
inductive Versioned (builds : Builds W) (spec : String) (shelf : Shelf) (w : W) :
    List Ask → Except Failure Version → Shelf × W → Prop
  | known {v : Version} (there : Keyed.get? (Range.normalized spec) shelf.resolved = some v) :
      Versioned builds spec shelf w [] (.ok v) (shelf, w)
  | found {v : Version} {t : W}
      (new : Keyed.get? (Range.normalized spec) shelf.resolved = none)
      (ran : (builds.resolve (Range.normalized spec)).run w = (.ok (some v), t)) :
      Versioned builds spec shelf w [.version (Range.normalized spec) (.ok (some v))] (.ok v)
        ({ shelf with resolved := Keyed.put (Range.normalized spec) v shelf.resolved }, t)
  | missing {t : W} (new : Keyed.get? (Range.normalized spec) shelf.resolved = none)
      (ran : (builds.resolve (Range.normalized spec)).run w = (.ok none, t)) :
      Versioned builds spec shelf w [.version (Range.normalized spec) (.ok none)]
        (.error (.unresolvedVersion spec)) (shelf, t)
  | failed {e : Failure} {t : W} (new : Keyed.get? (Range.normalized spec) shelf.resolved = none)
      (ran : (builds.resolve (Range.normalized spec)).run w = (.error e, t)) :
      Versioned builds spec shelf w [.version (Range.normalized spec) (.error e)] (.error e)
        (shelf, t)

/-- A shelf with what was loaded for a range, if it was. -/
def keeping (spec : String) (loaded : Except Failure Compiler) (shelf : Shelf) : Shelf :=
  match loaded with
  | .ok c => { shelf with loaded := Keyed.put (Range.normalized spec) c shelf.loaded }
  | .error _ => shelf

inductive Served (builds : Builds W) (spec : String) (shelf : Shelf) (w : W) :
    List Ask → Except Failure Compiler → Shelf × W → Prop
  | kept {c : Compiler} (there : Keyed.get? (Range.normalized spec) shelf.loaded = some c) :
      Served builds spec shelf w [] (.ok c) (shelf, w)
  | unversioned {asks : List Ask} {e : Failure} {s : Shelf × W}
      (new : Keyed.get? (Range.normalized spec) shelf.loaded = none)
      (versioned : Versioned builds spec shelf w asks (.error e) s) :
      Served builds spec shelf w asks (.error e) s
  | loads {asks : List Ask} {v : Version} {shelf' : Shelf} {t u : W}
      {loaded : Except Failure Compiler}
      (new : Keyed.get? (Range.normalized spec) shelf.loaded = none)
      (versioned : Versioned builds spec shelf w asks (.ok v) (shelf', t))
      (ran : (builds.load v).run t = (loaded, u)) :
      Served builds spec shelf w (asks ++ [.compiler v loaded]) loaded
        (keeping spec loaded shelf', u)

theorem versionFor_versioned (builds : Builds W) (spec : String) (shelf : Shelf) (w : W) :
    ∃ asks r shelf' t,
      (versionFor builds spec (Range.normalized spec)).run (shelf, w) = (r, (shelf', t)) ∧
      (versionFor builds.noted spec (Range.normalized spec)).run (shelf, (w, [])) =
        (r, (shelf', (t, asks))) ∧
      Versioned builds spec shelf w asks r (shelf', t) := by
  rw [versionFor_run, versionFor_run]
  cases there : Keyed.get? (Range.normalized spec) shelf.resolved with
  | some v => exact ⟨[], .ok v, shelf, w, rfl, rfl, .known there⟩
  | none =>
    dsimp only [Builds.noted]
    rw [Builds.run_noting]
    cases ran : (builds.resolve (Range.normalized spec)).run w with
    | mk r t =>
      cases r with
      | error e => exact ⟨_, _, _, t, rfl, rfl, .failed there ran⟩
      | ok v? =>
        cases v? with
        | none => exact ⟨_, _, _, t, rfl, rfl, .missing there ran⟩
        | some v => exact ⟨_, _, _, t, rfl, rfl, .found there ran⟩

/-- **Every request is served in one of these ways.** -/
theorem served (builds : Builds W) (spec : String) (shelf : Shelf) (w : W) :
    Served builds spec shelf w (asked builds spec (shelf, w))
      ((resolve builds spec).run (shelf, w)).1 ((resolve builds spec).run (shelf, w)).2 := by
  rw [asked, resolve_run, resolve_run]
  cases there : Keyed.get? (Range.normalized spec) shelf.loaded with
  | some c => exact .kept there
  | none =>
    dsimp only
    obtain ⟨asks, r, shelf', t, ran, noted, versioned⟩ :=
      versionFor_versioned builds spec shelf w
    rw [ran, noted]
    cases r with
    | error e => exact .unversioned there versioned
    | ok v =>
      dsimp only [fetch, Builds.noted]
      rw [Builds.run_noting]
      cases ran : (builds.load v).run t with
      | mk loaded u =>
        have loads := Served.loads there versioned ran
        cases loaded <;> exact loads

/-! ## Questions for one key -/

/-- Questions asked for a key, each only while there is no answer to it: its version while none is
known, and a compiler of the known version while none is loaded. -/
inductive Asking (key : String) :
    Option Version → Option Compiler → List Ask → Option Version → Option Compiler → Prop
  | nil {known : Option Version} {there : Option Compiler} : Asking key known there [] known there
  | version {answer : Except Failure (Option Version)} {there there' : Option Compiler}
      {known : Option Version} {asks : List Ask}
      (rest : Asking key answer.toOption.join there asks known there') :
      Asking key none there (.version key answer :: asks) known there'
  | compiler {v : Version} {answer : Except Failure Compiler} {known : Option Version}
      {there : Option Compiler} {asks : List Ask}
      (rest : Asking key (some v) answer.toOption asks known there) :
      Asking key (some v) none (.compiler v answer :: asks) known there

section

variable {key : String} {known known' known'' : Option Version}
  {there there' there'' : Option Compiler} {asks more : List Ask} {v : Version} {c : Compiler}

theorem Asking.append (first : Asking key known there asks known' there')
    (second : Asking key known' there' more known'' there'') :
    Asking key known there (asks ++ more) known'' there'' := by
  induction first with
  | nil => exact second
  | version _ ih => exact .version (ih second)
  | compiler _ ih => exact .compiler (ih second)

theorem Asking.split (all : Asking key known there (asks ++ more) known'' there'') :
    ∃ known' there', Asking key known there asks known' there' ∧
      Asking key known' there' more known'' there'' := by
  induction asks generalizing known there with
  | nil => exact ⟨known, there, .nil, all⟩
  | cons a asks ih =>
    cases all with
    | version rest =>
      obtain ⟨known', there', first, second⟩ := ih rest
      exact ⟨known', there', .version first, second⟩
    | compiler rest =>
      obtain ⟨known', there', first, second⟩ := ih rest
      exact ⟨known', there', .compiler first, second⟩

/-- Once a version is known, only compilers of this version are asked for. -/
theorem Asking.of_known (asking : Asking key known there asks known' there')
    (found : known = some v) : known' = some v ∧ ∀ a ∈ asks, ∃ r, a = .compiler v r := by
  induction asking with
  | nil => exact ⟨found, fun a among => absurd among List.not_mem_nil⟩
  | version => cases found
  | compiler _ ih =>
    cases found
    obtain ⟨kept, loads⟩ := ih rfl
    refine ⟨kept, fun a among => ?_⟩
    obtain rfl | among := List.mem_cons.mp among
    · exact ⟨_, rfl⟩
    · exact loads a among

/-- Once the compiler is there, nothing is asked. -/
theorem Asking.of_there (asking : Asking key (some v) (some c) asks known' there') :
    asks = [] ∧ there' = some c := by
  cases asking
  exact ⟨rfl, rfl⟩

/-- A compiler that was not there was loaded by the last question. -/
theorem Asking.last (asking : Asking key known there asks known' there') (absent : there = none)
    (last : there' = some c) : ∃ front v, asks = front ++ [.compiler v (.ok c)] := by
  induction asking with
  | nil =>
    rw [absent] at last
    cases last
  | version _ ih =>
    obtain ⟨front, v, rfl⟩ := ih absent last
    exact ⟨_ :: front, v, rfl⟩
  | @compiler v answer _ _ _ rest ih =>
    cases answer with
    | error e =>
      obtain ⟨front, v', rfl⟩ := ih rfl last
      exact ⟨_ :: front, v', rfl⟩
    | ok c' =>
      subst last
      obtain ⟨rfl, same⟩ := Asking.of_there rest
      cases same
      exact ⟨[], v, rfl⟩

theorem Asking.of_found {front back : List Ask} {k : String}
    (asking : Asking key known there (front ++ .version k (.ok (some v)) :: back) known' there') :
    ∀ a ∈ back, ∃ r, a = .compiler v r := by
  obtain ⟨_, _, -, second⟩ := asking.split
  cases second with
  | version rest => exact (rest.of_known rfl).2

theorem Asking.of_loaded {front back : List Ask}
    (asking : Asking key known there (front ++ .compiler v (.ok c) :: back) known' there') :
    back = [] ∧ there' = some c := by
  obtain ⟨_, _, -, second⟩ := asking.split
  cases second with
  | compiler rest => exact rest.of_there

theorem Asking.key_eq (asking : Asking key known there asks known' there') {k : String}
    {r : Except Failure (Option Version)} (among : .version k r ∈ asks) : k = key := by
  induction asking with
  | nil => cases among
  | version _ ih =>
    obtain same | among := List.mem_cons.mp among
    · cases same
      rfl
    · exact ih among
  | compiler _ ih =>
    obtain same | among := List.mem_cons.mp among
    · cases same
    · exact ih among

end

/-! ## One request -/

section

variable {asks : List Ask} {s : Shelf × W} {k : String}

theorem Versioned.loaded {r : Except Failure Version}
    (versioned : Versioned builds spec shelf w asks r s) : s.1.loaded = shelf.loaded := by
  cases versioned <;> rfl

theorem Versioned.resolved_of_ne {r : Except Failure Version}
    (versioned : Versioned builds spec shelf w asks r s) (other : k ≠ Range.normalized spec) :
    Keyed.get? k s.1.resolved = Keyed.get? k shelf.resolved := by
  cases versioned with
  | found new ran => rw [Keyed.get?_put, if_neg other.symm]
  | known there => rfl
  | missing new ran => rfl
  | failed new ran => rfl

theorem Versioned.resolved {v : Version}
    (versioned : Versioned builds spec shelf w asks (.ok v) s) :
    Keyed.get? (Range.normalized spec) s.1.resolved = some v := by
  cases versioned with
  | known there => exact there
  | found new ran => rw [Keyed.get?_put, if_pos rfl]

theorem Versioned.asking {r : Except Failure Version}
    (versioned : Versioned builds spec shelf w asks r s) (there : Option Compiler) :
    Asking (Range.normalized spec) (Keyed.get? (Range.normalized spec) shelf.resolved) there asks
      (Keyed.get? (Range.normalized spec) s.1.resolved) there := by
  cases versioned with
  | known there => exact .nil
  | found new ran =>
    rw [new, Keyed.get?_put, if_pos rfl]
    exact .version .nil
  | missing new ran =>
    rw [new]
    exact .version .nil
  | failed new ran =>
    rw [new]
    exact .version .nil

theorem keeping_resolved (loaded : Except Failure Compiler) (shelf : Shelf) :
    (keeping spec loaded shelf).resolved = shelf.resolved := by
  cases loaded <;> rfl

theorem keeping_loaded (loaded : Except Failure Compiler)
    (new : Keyed.get? (Range.normalized spec) shelf.loaded = none) :
    Keyed.get? (Range.normalized spec) (keeping spec loaded shelf).loaded = loaded.toOption := by
  cases loaded with
  | error e => exact new
  | ok c => exact (Keyed.get?_put _ _ _ _).trans (if_pos rfl)

theorem keeping_loaded_of_ne (loaded : Except Failure Compiler)
    (other : k ≠ Range.normalized spec) :
    Keyed.get? k (keeping spec loaded shelf).loaded = Keyed.get? k shelf.loaded := by
  cases loaded with
  | error e => rfl
  | ok c => exact (Keyed.get?_put _ _ _ _).trans (if_neg other.symm)

variable {r : Except Failure Compiler}

/-- A request asks only what is not known, and what is answered is known from then on. -/
theorem Served.asking (served : Served builds spec shelf w asks r s) :
    Asking (Range.normalized spec) (Keyed.get? (Range.normalized spec) shelf.resolved)
      (Keyed.get? (Range.normalized spec) shelf.loaded) asks
      (Keyed.get? (Range.normalized spec) s.1.resolved)
      (Keyed.get? (Range.normalized spec) s.1.loaded) := by
  cases served with
  | kept there => exact .nil
  | unversioned new versioned =>
    rw [versioned.loaded]
    exact versioned.asking _
  | loads new versioned ran =>
    have new' := new
    rw [← versioned.loaded] at new'
    have first := versioned.asking none
    rw [versioned.resolved] at first
    rw [new, keeping_resolved, versioned.resolved, keeping_loaded _ new']
    exact first.append (.compiler .nil)

/-- What is known for other keys does not change. -/
theorem Served.of_ne (served : Served builds spec shelf w asks r s)
    (other : k ≠ Range.normalized spec) :
    Keyed.get? k s.1.resolved = Keyed.get? k shelf.resolved ∧
      Keyed.get? k s.1.loaded = Keyed.get? k shelf.loaded := by
  cases served with
  | kept there => exact ⟨rfl, rfl⟩
  | unversioned new versioned => exact ⟨versioned.resolved_of_ne other, by rw [versioned.loaded]⟩
  | loads new versioned ran =>
    rw [keeping_resolved, keeping_loaded_of_ne _ other]
    have kept := versioned.loaded
    exact ⟨versioned.resolved_of_ne other, by rw [kept]⟩

/-- A compiler is answered exactly if it is there then. -/
theorem Served.answer_iff (served : Served builds spec shelf w asks r s) {c : Compiler} :
    r = .ok c ↔ Keyed.get? (Range.normalized spec) s.1.loaded = some c := by
  cases served with
  | kept there =>
    rw [there, Except.ok.injEq, Option.some.injEq]
  | unversioned new versioned =>
    rw [versioned.loaded, new]
    exact ⟨nofun, nofun⟩
  | loads new versioned ran =>
    rw [← versioned.loaded] at new
    rw [keeping_loaded _ new]
    cases r <;> simp [Except.toOption]

theorem Served.of_there (served : Served builds spec shelf w asks r s) {c : Compiler}
    (there : Keyed.get? (Range.normalized spec) shelf.loaded = some c) : asks = [] ∧ r = .ok c := by
  cases served with
  | kept there' =>
    rw [there] at there'
    cases there'
    exact ⟨rfl, rfl⟩
  | unversioned new versioned =>
    rw [there] at new
    cases new
  | loads new versioned ran =>
    rw [there] at new
    cases new

end

end Shelf

end SolidityRepl
