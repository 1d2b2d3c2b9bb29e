import SolidityRepl.Proofs.Compiler.Shelf

/-!
# Shelves that never change

Requests come one after the other, and the registry may answer and fail as it likes. What was loaded
for a key stays, and so nothing is asked again that was answered; what fails leaves nothing behind
that another request could notice.

* `course`: requests one after the other, with all that is asked for them and answered;
* `Follows`: what a shelf knows is what it was told;
* `Beside`, `course_beside`: requests go the same way on shelves that know the same of their keys;
* `course_constant`: what is given once is given ever after, and a failure does no harm.
-/

namespace SolidityRepl.Shelf

variable {W : Type} {shelf : Shelf} {spec : String}

/-! ## Requests one after the other -/

/-- What a shelf can be asked for: a compiler, or whether it is there. -/
inductive Request where
  | resolve (spec : String)
  | holds (spec : String)

def Request.key : Request → String
  | resolve spec | holds spec => Range.normalized spec

/-- A request that was served: what the registry was asked for it, and the answer. -/
inductive Turn where
  | resolved (spec : String) (asks : List Ask) (answer : Except Failure Compiler)
  | held (spec : String) (answer : Bool)

def serve (builds : Builds W) (s : Shelf × W) : Request → Turn × (Shelf × W)
  | .resolve spec =>
    let ran := (resolve builds spec).run s
    (.resolved spec (asked builds spec s) ran.1, ran.2)
  | .holds spec => (.held spec (s.1.holds spec), s)

def course (builds : Builds W) : List Request → Shelf × W → List Turn × (Shelf × W)
  | [], s => ([], s)
  | q :: rest, s =>
    let (turn, t) := serve builds s q
    let (turns, u) := course builds rest t
    (turn :: turns, u)

/-- What the registry was asked for a key in one turn. -/
def Turn.asks (key : String) : Turn → List Ask
  | resolved spec asks _ => if Range.normalized spec = key then asks else []
  | held _ _ => []

/-- Everything that the registry was asked for a key. -/
def asksFor (key : String) (turns : List Turn) : List Ask := turns.flatMap (Turn.asks key)

def Gave (key : String) (c : Compiler) (turns : List Turn) : Prop :=
  ∃ spec asks, Turn.resolved spec asks (.ok c) ∈ turns ∧ Range.normalized spec = key

/-- What a shelf knows after some turns: what it knew from the start, and what it was told. The
compilers that it has are those that it gave. -/
structure Follows (start : Shelf) (turns : List Turn) (shelf : Shelf) : Prop where
  asking : ∀ key, Asking key (Keyed.get? key start.resolved) (Keyed.get? key start.loaded)
    (asksFor key turns) (Keyed.get? key shelf.resolved) (Keyed.get? key shelf.loaded)
  gave : ∀ key c, Keyed.get? key shelf.loaded = some c ↔
    Keyed.get? key start.loaded = some c ∨ Gave key c turns

variable {start : Shelf} {past turns : List Turn} {turn : Turn} {s : Shelf × W} {key : String}
  {c : Compiler}

theorem asksFor_concat : asksFor key (past ++ [turn]) = asksFor key past ++ turn.asks key := by
  rw [asksFor, List.flatMap_append, List.flatMap_singleton, asksFor]

theorem gave_concat :
    Gave key c (past ++ [turn]) ↔ Gave key c past ∨ Gave key c [turn] := by
  simp only [Gave, List.mem_append, or_and_right, exists_or]

theorem gave_resolved {asks : List Ask} {r : Except Failure Compiler} :
    Gave key c [.resolved spec asks r] ↔ Range.normalized spec = key ∧ r = .ok c := by
  constructor
  · rintro ⟨spec', asks', among, same⟩
    cases List.mem_singleton.mp among
    exact ⟨same, rfl⟩
  · rintro ⟨same, rfl⟩
    exact ⟨spec, asks, List.mem_singleton.mpr rfl, same⟩

theorem not_gave_held {b : Bool} : ¬Gave key c [.held spec b] := by
  rintro ⟨spec', asks', among, -⟩
  cases List.mem_singleton.mp among

theorem Follows.refl (start : Shelf) : Follows start [] start where
  asking _ := .nil
  gave key c := by
    have nothing : ¬Gave key c [] := by
      rintro ⟨_, _, among, -⟩
      cases among
    simp only [nothing, or_false]

/-- One turn. -/
theorem Follows.next (follows : Follows start past s.1) (builds : Builds W) (q : Request) :
    Follows start (past ++ [(serve builds s q).1]) (serve builds s q).2.1 := by
  obtain ⟨shelf, w⟩ := s
  cases q with
  | holds spec =>
    constructor
    · intro key
      rw [asksFor_concat]
      exact (follows.asking key).append .nil
    · intro key c
      rw [gave_concat]
      simp only [serve, not_gave_held, or_false]
      exact follows.gave key c
  | resolve spec =>
    have served := served builds spec shelf w
    simp only [serve]
    generalize asked builds spec (shelf, w) = asks at served
    generalize (resolve builds spec).run (shelf, w) = ran at served
    obtain ⟨r, s'⟩ := ran
    constructor
    · intro key
      rw [asksFor_concat, Turn.asks]
      by_cases own : Range.normalized spec = key
      · subst own
        rw [if_pos rfl]
        exact (follows.asking _).append served.asking
      · obtain ⟨resolved, loaded⟩ := served.of_ne (Ne.symm own)
        rw [if_neg own, resolved, loaded]
        exact (follows.asking key).append .nil
    · intro key c
      rw [gave_concat, gave_resolved, ← or_assoc, ← follows.gave key c]
      by_cases own : Range.normalized spec = key
      · subst own
        rw [← served.answer_iff]
        constructor
        · intro gives
          exact .inr ⟨rfl, gives⟩
        · rintro (there | ⟨-, gives⟩)
          · exact (served.of_there there).2
          · exact gives
      · rw [(served.of_ne (Ne.symm own)).2]
        simp only [own, false_and, or_false]

/-- **Whatever is requested, a shelf follows**, by induction on the requests. -/
theorem Follows.through (follows : Follows start past s.1) (builds : Builds W)
    (requests : List Request) :
    Follows start (past ++ (course builds requests s).1) (course builds requests s).2.1 := by
  induction requests generalizing past s with
  | nil =>
    rw [course, List.append_nil]
    exact follows
  | cons q rest ih =>
    have all := ih (follows.next builds q)
    rw [List.append_assoc] at all
    exact all

theorem course_cons (builds : Builds W) (q : Request) (rest : List Request) (s : Shelf × W) :
    course builds (q :: rest) s =
      ((serve builds s q).1 :: (course builds rest (serve builds s q).2).1,
        (course builds rest (serve builds s q).2).2) := rfl

/-- Every turn is the next one after a course. -/
theorem course_split {requests : List Request} {before after : List Turn}
    (cut : (course builds requests s).1 = before ++ turn :: after) :
    ∃ earlier q, (course builds earlier s).1 = before ∧
      turn = (serve builds (course builds earlier s).2 q).1 := by
  induction requests generalizing s before with
  | nil => cases before <;> cases cut
  | cons q rest ih =>
    rw [course_cons] at cut
    cases before with
    | nil => exact ⟨[], q, rfl, (List.cons.inj cut).1.symm⟩
    | cons first before =>
      obtain ⟨same, cut⟩ := List.cons.inj cut
      obtain ⟨earlier, q', ran, next⟩ := ih cut
      refine ⟨q :: earlier, q', ?_, next⟩
      rw [course_cons, same, ran]

/-! ## All requests since a shelf was new -/

variable {installed : Json}

theorem ofInstalled_loaded (given : ofInstalled installed = .ok start) (key : String) :
    Keyed.get? key start.loaded = none := by
  obtain ⟨-, rfl⟩ | ⟨text, v, -, -, rfl⟩ := ofInstalled_cases given
  · rfl
  · rfl

theorem ofInstalled_resolved {text : String} (given : ofInstalled (.str text) = .ok start) :
    ∃ v, Version.read (Range.normalized text) = .ok v ∧
      Keyed.get? (Range.normalized text) start.resolved = some v := by
  obtain ⟨⟨⟩, -⟩ | ⟨_, v, ⟨⟩, read, rfl⟩ := ofInstalled_cases given
  exact ⟨v, read, if_pos rfl⟩

/-- What is true of all turns since a shelf was new. -/
structure Constant (installed : Json) (turns : List Turn) : Prop where
  /-- What is given for a key is what the last question asked for it loaded. -/
  gave : ∀ key c, Gave key c turns ↔
    ∃ asks v, asksFor key turns = asks ++ [.compiler v (.ok c)]
  /-- So the same is given whenever something is. -/
  same : ∀ key c c', Gave key c turns → Gave key c' turns → c = c'
  /-- What was given once is given again, and nothing is asked. -/
  kept : ∀ before spec asks r after c, turns = before ++ .resolved spec asks r :: after →
    Gave (Range.normalized spec) c before → asks = [] ∧ r = .ok c
  /-- When a compiler is loaded nothing more is asked for the key. -/
  loaded : ∀ key front v c back,
    asksFor key turns = front ++ .compiler v (.ok c) :: back → back = []
  /-- When a version is found nothing but its compiler is asked for. -/
  found : ∀ key front k v back,
    asksFor key turns = front ++ .version k (.ok (some v)) :: back →
      ∀ a ∈ back, ∃ r, a = .compiler v r
  /-- Versions are asked for by the key. -/
  named : ∀ key k r, Ask.version k r ∈ asksFor key turns → k = key
  /-- No version is asked for where one is known from the start. -/
  seeded : ∀ text, installed = .str text → ∃ v, Version.read (Range.normalized text) = .ok v ∧
    ∀ a ∈ asksFor (Range.normalized text) turns, ∃ r, a = .compiler v r
  /-- A compiler is there exactly if it was given. -/
  held : ∀ before spec b after, turns = before ++ .held spec b :: after →
    (b = true ↔ ∃ c, Gave (Range.normalized spec) c before)

theorem Follows.gave_iff (follows : Follows start turns shelf)
    (given : ofInstalled installed = .ok start) :
    Gave key c turns ↔ Keyed.get? key shelf.loaded = some c := by
  rw [follows.gave, ofInstalled_loaded given]
  simp only [reduceCtorEq, false_or]

theorem course_follows (builds : Builds W) (requests : List Request) (start : Shelf) (w : W) :
    Follows start (course builds requests (start, w)).1
      (course builds requests (start, w)).2.1 :=
  (Follows.refl start).through (s := (start, w)) builds requests

theorem constant_course (given : ofInstalled installed = .ok start) (builds : Builds W)
    (requests : List Request) (w : W) :
    Constant installed (course builds requests (start, w)).1 := by
  have follows := course_follows builds requests start w
  constructor
  case gave =>
    intro key c
    rw [follows.gave_iff given]
    have asking := follows.asking key
    constructor
    · intro there
      exact asking.last (ofInstalled_loaded given key) there
    · rintro ⟨asks, v, last⟩
      rw [last] at asking
      exact asking.of_loaded.2
  case same =>
    intro key c c' gives gives'
    rw [follows.gave_iff given] at gives gives'
    exact Option.some.inj (gives.symm.trans gives')
  case kept =>
    intro before spec asks r after c cut gives
    obtain ⟨earlier, q, rfl, next⟩ := course_split cut
    rw [(course_follows builds earlier start w).gave_iff given] at gives
    generalize (course builds earlier (start, w)).2 = s at next gives
    cases q with
    | holds spec' => cases next
    | resolve spec' =>
      cases next
      exact (served builds spec s.1 s.2).of_there gives
  case loaded =>
    intro key front v c back cut
    have asking := follows.asking key
    rw [cut] at asking
    exact asking.of_loaded.1
  case found =>
    intro key front k v back cut
    have asking := follows.asking key
    rw [cut] at asking
    exact asking.of_found
  case named =>
    intro key k r among
    exact (follows.asking key).key_eq among
  case seeded =>
    rintro text rfl
    obtain ⟨v, read, known⟩ := ofInstalled_resolved given
    exact ⟨v, read, ((follows.asking _).of_known known).2⟩
  case held =>
    intro before spec b after cut
    obtain ⟨earlier, q, rfl, next⟩ := course_split cut
    cases q with
    | resolve spec' => cases next
    | holds spec' =>
      cases next
      simp only [(course_follows builds earlier start w).gave_iff given]
      rw [holds, Option.isSome_iff_exists]

/-! ## After a failure -/

/-- Two shelves that know the same of all other keys. -/
def Beside (key : String) (s t : Shelf × W) : Prop :=
  (∀ k, k ≠ key → Keyed.get? k s.1.resolved = Keyed.get? k t.1.resolved ∧
    Keyed.get? k s.1.loaded = Keyed.get? k t.1.loaded) ∧ s.2 = t.2

theorem get?_put_congr {α : Type} {a : α} {entries entries' : Keyed α} {k k' : String}
    (same : Keyed.get? k entries = Keyed.get? k entries') :
    Keyed.get? k (Keyed.put k' a entries) = Keyed.get? k (Keyed.put k' a entries') := by
  rw [Keyed.get?_put, Keyed.get?_put, same]

theorem versionFor_beside (builds : Builds W) (spec : String)
    (other : Range.normalized spec ≠ key) :
    Act.Lockstep (Beside key) (versionFor builds spec (Range.normalized spec)) := by
  rintro ⟨shelf, w⟩ ⟨shelf', _⟩ ⟨alike, rfl⟩
  have same : Keyed.get? (Range.normalized spec) shelf.resolved =
      Keyed.get? (Range.normalized spec) shelf'.resolved := (alike _ other).1
  rw [versionFor_run, versionFor_run, same]
  cases Keyed.get? (Range.normalized spec) shelf'.resolved with
  | some v => exact ⟨rfl, alike, rfl⟩
  | none =>
    dsimp only
    obtain ⟨r, t⟩ := (builds.resolve (Range.normalized spec)).run w
    cases r with
    | error e => exact ⟨rfl, alike, rfl⟩
    | ok v? =>
      cases v? with
      | none => exact ⟨rfl, alike, rfl⟩
      | some v =>
        refine ⟨rfl, fun k apart => ⟨?_, (alike k apart).2⟩, rfl⟩
        exact get?_put_congr (alike k apart).1

/-- A request for another key goes the same way on both. -/
theorem resolve_beside (builds : Builds W) (spec : String)
    (other : Range.normalized spec ≠ key) : Act.Lockstep (Beside key) (resolve builds spec) := by
  rintro ⟨shelf, w⟩ ⟨shelf', _⟩ ⟨alike, rfl⟩
  have same : Keyed.get? (Range.normalized spec) shelf.loaded =
      Keyed.get? (Range.normalized spec) shelf'.loaded := (alike _ other).2
  rw [resolve_run, resolve_run, same]
  cases Keyed.get? (Range.normalized spec) shelf'.loaded with
  | some c => exact ⟨rfl, alike, rfl⟩
  | none =>
    have both := versionFor_beside builds spec other (shelf, w) (shelf', w) ⟨alike, rfl⟩
    dsimp only
    generalize (versionFor builds spec (Range.normalized spec)).run (shelf, w) = ran at both
    generalize (versionFor builds spec (Range.normalized spec)).run (shelf', w) = ran' at both
    obtain ⟨r, left, t⟩ := ran
    obtain ⟨r', left', t'⟩ := ran'
    obtain ⟨rfl, alike, rfl⟩ := both
    cases r with
    | error e => exact ⟨rfl, alike, rfl⟩
    | ok v =>
      dsimp only [fetch]
      obtain ⟨loaded, u⟩ := (builds.load v).run t
      cases loaded with
      | error e => exact ⟨rfl, alike, rfl⟩
      | ok c =>
        refine ⟨rfl, fun k apart => ⟨(alike k apart).1, ?_⟩, rfl⟩
        exact get?_put_congr (alike k apart).2

theorem serve_beside {s t : Shelf × W} (builds : Builds W) {q : Request} (other : q.key ≠ key)
    (beside : Beside key s t) :
    (serve builds s q).1 = (serve builds t q).1 ∧
      Beside key (serve builds s q).2 (serve builds t q).2 := by
  obtain ⟨shelf, w⟩ := s
  obtain ⟨shelf', _⟩ := t
  obtain ⟨alike, rfl⟩ := beside
  cases q with
  | holds spec =>
    have same : Keyed.get? (Range.normalized spec) shelf.loaded =
        Keyed.get? (Range.normalized spec) shelf'.loaded := (alike _ other).2
    refine ⟨?_, alike, rfl⟩
    simp only [serve, holds, same]
  | resolve spec =>
    obtain ⟨same, left⟩ := resolve_beside builds spec other _ _ ⟨alike, rfl⟩
    have noted := resolve_beside builds.noted spec other (shelf, (w, [])) (shelf', (w, []))
      ⟨alike, rfl⟩
    refine ⟨?_, left⟩
    simp only [serve, asked, same, noted.2.2]

/-- Requests for other keys go the same way on both, by induction on the requests. -/
theorem course_beside {s t : Shelf × W} (builds : Builds W) {requests : List Request}
    (others : ∀ q ∈ requests, q.key ≠ key) (beside : Beside key s t) :
    (course builds requests s).1 = (course builds requests t).1 ∧
      Beside key (course builds requests s).2 (course builds requests t).2 := by
  induction requests generalizing s t with
  | nil => exact ⟨rfl, beside⟩
  | cons q rest ih =>
    obtain ⟨other, others⟩ := List.forall_mem_cons.mp others
    obtain ⟨same, beside⟩ := serve_beside builds other beside
    obtain ⟨sames, beside⟩ := ih others beside
    rw [course_cons, course_cons, same, sames]
    exact ⟨rfl, beside⟩

/-- A registry gives a compiler for a key: of the version that is known, or of one that it finds. -/
inductive Obtains (builds : Builds W) (key : String) (known : Option Version) (w : W)
    (c : Compiler) : Prop
  | known {v : Version} (before : known = some v) (loads : ((builds.load v).run w).1 = .ok c)
  | found {v : Version} {t : W} (new : known = none)
      (finds : (builds.resolve key).run w = (.ok (some v), t))
      (loads : ((builds.load v).run t).1 = .ok c)

theorem fetch_fst (builds : Builds W) (key : String) (v : Version) (shelf : Shelf) (w : W) :
    (fetch builds key v shelf w).1 = ((builds.load v).run w).1 := by
  rw [fetch]
  obtain ⟨loaded, t⟩ := (builds.load v).run w
  cases loaded <;> rfl

/-- A request for what is not there is served exactly if the registry gives it. -/
theorem resolve_obtains (builds : Builds W) (w : W)
    (absent : Keyed.get? (Range.normalized spec) shelf.loaded = none) :
    ((resolve builds spec).run (shelf, w)).1 = .ok c ↔
      Obtains builds (Range.normalized spec)
        (Keyed.get? (Range.normalized spec) shelf.resolved) w c := by
  rw [resolve_run, absent]
  dsimp only
  rw [versionFor_run]
  cases known : Keyed.get? (Range.normalized spec) shelf.resolved with
  | some v =>
    dsimp only
    rw [fetch_fst]
    constructor
    · exact .known rfl
    · rintro (⟨⟨⟩, loads⟩ | ⟨⟨⟩, _, _⟩)
      exact loads
  | none =>
    dsimp only
    cases ran : (builds.resolve (Range.normalized spec)).run w with
    | mk r t =>
      have never (other : ∀ v, r ≠ .ok (some v)) :
          ¬Obtains builds (Range.normalized spec) none w c := by
        rintro (⟨⟨⟩, _⟩ | ⟨-, finds, _⟩)
        rw [ran] at finds
        exact other _ (congrArg Prod.fst finds)
      cases r with
      | error e => exact ⟨nofun, fun gives => absurd gives (never nofun)⟩
      | ok v? =>
        cases v? with
        | none => exact ⟨nofun, fun gives => absurd gives (never nofun)⟩
        | some v =>
          dsimp only
          rw [fetch_fst]
          constructor
          · exact .found rfl ran
          · rintro (⟨⟨⟩, _⟩ | ⟨-, finds, loads⟩)
            rw [ran] at finds
            cases finds
            exact loads

/-- What a failed request for a key leaves behind does no harm. -/
structure Harmless (builds : Builds W) (key : String) (before after : Shelf) : Prop where
  /-- Requests for other keys go as if it had not been made, whatever the registry does then. -/
  others : ∀ requests, (∀ q ∈ requests, q.key ≠ key) → ∀ w,
    (course builds requests (after, w)).1 = (course builds requests (before, w)).1 ∧
      (course builds requests (after, w)).2.2 = (course builds requests (before, w)).2.2
  /-- The compiler is not there. -/
  absent : ∀ spec, Range.normalized spec = key → after.holds spec = false
  /-- Another request for the key is served as soon as the registry gives what is missing. -/
  retried : ∀ spec, Range.normalized spec = key → ∀ w c,
    ((resolve builds spec).run (after, w)).1 = .ok c ↔
      Obtains builds key (Keyed.get? key after.resolved) w c

theorem harmless_failure {s : Shelf × W} {t : Shelf × W} {e : Failure}
    (fails : (resolve builds spec).run s = (.error e, t)) :
    Harmless builds (Range.normalized spec) s.1 t.1 := by
  obtain ⟨shelf, w⟩ := s
  have served := served builds spec shelf w
  rw [fails] at served
  have absent : Keyed.get? (Range.normalized spec) t.1.loaded = none := by
    rw [Option.eq_none_iff_forall_ne_some]
    intro c there
    cases served.answer_iff.mpr there
  constructor
  case others =>
    intro requests others u
    have beside : Beside (Range.normalized spec) (t.1, u) (shelf, u) :=
      ⟨fun k other => served.of_ne other, rfl⟩
    obtain ⟨same, -, worlds⟩ := course_beside builds others beside
    exact ⟨same, worlds⟩
  case absent =>
    intro spec' same
    rw [holds, same, absent]
    rfl
  case retried =>
    intro spec' same u c
    rw [← same] at absent ⊢
    exact resolve_obtains builds u absent

/-- **A shelf never changes its mind**: whatever the registry does, what was loaded for a key is
given for it ever after, nothing is asked twice that was answered, and a request that fails harms no
other and can be made again. -/
theorem course_constant (given : ofInstalled installed = .ok start) (builds : Builds W)
    (requests : List Request) (w : W) :
    Constant installed (course builds requests (start, w)).1 ∧
      ∀ spec e t, (resolve builds spec).run (course builds requests (start, w)).2 = (.error e, t) →
        Harmless builds (Range.normalized spec) (course builds requests (start, w)).2.1 t.1 :=
  ⟨constant_course given builds requests w, fun _ _ _ fails => harmless_failure fails⟩

/-- Answers that are written down: about versions, and about compilers. -/
abbrev Script := List (Except Failure (Option Version)) × List (Except Failure Compiler)

def scripted : Builds Script where
  resolve _ := Act.ofRun fun
    | (r :: rest, loads) => (r, (rest, loads))
    | ([], loads) => (.ok none, ([], loads))
  load _ := Act.ofRun fun
    | (versions, r :: rest) => (r, (versions, rest))
    | (versions, []) => (.error .unsupported, (versions, []))

def older : Version := { release := [0, 8, 10] }

def seeded : Shelf := { resolved := [("0.8.19", recent)] }

/-- The installed version is loaded at once. The other one is not found, then it cannot be loaded,
and then it is there. -/
def requests : List Request :=
  [.resolve "^0.8.19", .resolve "0.8.10", .resolve "0.8.10", .holds "0.8.10", .resolve "^ 0.8.10",
    .holds "0.8.10"]

def script : Script :=
  ([.ok none, .ok (some older)],
    [.ok ⟨recent, .null⟩, .error .unsupported, .ok ⟨older, .null⟩])

theorem course_constant_retried :
    ofInstalled (.str "0.8.19") = .ok seeded ∧
    (course scripted requests (seeded, script)).1 =
      [.resolved "^0.8.19" [.compiler recent (.ok ⟨recent, .null⟩)] (.ok ⟨recent, .null⟩),
        .resolved "0.8.10" [.version "0.8.10" (.ok none)] (.error (.unresolvedVersion "0.8.10")),
        .resolved "0.8.10" [.version "0.8.10" (.ok (some older)),
          .compiler older (.error .unsupported)] (.error .unsupported),
        .held "0.8.10" false,
        .resolved "^ 0.8.10" [.compiler older (.ok ⟨older, .null⟩)] (.ok ⟨older, .null⟩),
        .held "0.8.10" true] ∧
    Constant (.str "0.8.19") (course scripted requests (seeded, script)).1 ∧
    ∃ t, (resolve scripted "0.8.10").run (course scripted (requests.take 2) (seeded, script)).2 =
        (.error .unsupported, t) ∧
      Harmless scripted (Range.normalized "0.8.10")
        (course scripted (requests.take 2) (seeded, script)).2.1 t.1 := by
  have given : ofInstalled (.str "0.8.19") = .ok seeded := rfl
  refine ⟨given, rfl, (course_constant given scripted requests script).1, _, rfl, ?_⟩
  exact (course_constant given scripted (requests.take 2) script).2 "0.8.10" _ _ rfl

end SolidityRepl.Shelf
