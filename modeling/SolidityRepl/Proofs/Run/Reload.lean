import SolidityRepl.Proofs.Run.History
import SolidityRepl.Proofs.Session

/-!
# Sessions that go on after they were read back

A session that was saved and read back differs from the one before in the types of its statements.
Nothing that is entered later can tell them apart.
-/

namespace SolidityRepl.Desk

variable {W : Type} {α β : Type}

/-- Desks that differ in the types of statements only. -/
structure Alike (a b : Desk W) : Prop where
  pairs : a.session.pairs = b.session.pairs
  lastSource : a.lastSource = b.lastSource
  lastWarnings : a.lastWarnings = b.lastWarnings
  world : a.world = b.world

/-- Desks that differ in the types of statements before the last one only. -/
structure Twin (a b : Desk W) : Prop extends Alike a b where
  tail : Frame.tail? a.session = Frame.tail? b.session

/-- An act that gives twins the same answer and leaves twins behind. -/
def Respects (act : Act (Desk W) α) : Prop :=
  ∀ a b, Twin a b → (act.run a).1 = (act.run b).1 ∧ Twin (act.run a).2 (act.run b).2

namespace Respects

theorem bind {act : Act (Desk W) α} {next : α → Act (Desk W) β} (first : Respects act)
    (second : ∀ x, Respects (next x)) : Respects (act >>= next) := by
  intro a b twin
  obtain ⟨same, twin'⟩ := first a b twin
  rw [Act.run_bind, Act.run_bind]
  generalize act.run a = left at same twin'
  generalize act.run b = right at same twin'
  obtain ⟨r, a'⟩ := left
  obtain ⟨r', b'⟩ := right
  obtain rfl : r = r' := same
  cases r with
  | error e => exact ⟨rfl, twin'⟩
  | ok x => exact second x a' b' twin'

theorem ofExcept (r : Except Failure α) : Respects (Act.ofExcept r : Act (Desk W) α) :=
  fun _ _ twin => ⟨rfl, twin⟩

theorem pure (x : α) : Respects (Pure.pure x : Act (Desk W) α) := fun _ _ twin => ⟨rfl, twin⟩

theorem inWorld (act : Act W α) : Respects (Desk.inWorld act) := by
  intro a b twin
  simp only [Desk.inWorld, Act.run_zoom, twin.world]
  exact ⟨trivial, ⟨twin.pairs, twin.lastSource, twin.lastWarnings, rfl⟩, twin.tail⟩

theorem attempt {act : Act (Desk W) α} (h : Respects act) : Respects (Act.attempt act) := by
  intro a b twin
  obtain ⟨same, twin'⟩ := h a b twin
  exact ⟨congrArg Except.ok same, twin'⟩

end Respects

variable (tools : Tools W) (s : Settings)

theorem program_twin {a b : Desk W} (twin : Twin a b) : program s a.session = program s b.session :=
  Frame.render_congr _ twin.pairs twin.tail

theorem render_respects : Respects (render tools s) := by
  -- once the program is known, neither showing it nor keeping it reads the session
  have rest : ∀ source, Respects (do
      if s.isOn .showContract then Desk.inWorld (tools.note (.program source))
      modify fun d : Desk W => { d with lastSource := some source }
      return source) := by
    intro source
    have keep : Respects (do
        modify fun d : Desk W => { d with lastSource := some source }
        return source) :=
      fun a b twin => ⟨rfl, ⟨twin.pairs, rfl, twin.lastWarnings, twin.world⟩, twin.tail⟩
    split
    · exact (Respects.inWorld _).bind fun _ => keep
    · exact keep
  intro a b twin
  have same : (Frame.ofSettings s).render a.session = (Frame.ofSettings s).render b.session :=
    program_twin s twin
  have ran := rest ((Frame.ofSettings s).render a.session) a b twin
  simp only [render, Act.run_bind, Act.run_get] at ran ⊢
  rw [← same]
  exact ran

theorem compile_respects (source : String) : Respects (compile tools s source) := by
  have rest : ∀ r, Respects (do
      let spec ← Act.ofExcept r
      let compiler ← Desk.inWorld (tools.compilerFor spec)
      let sources := [((Frame.ofSettings s).unitName, Import.sourceOf source)]
      Desk.inWorld (tools.compile compiler sources (s.read .evmVersion))) :=
    fun r => (Respects.ofExcept r).bind fun _ => (Respects.inWorld _).bind fun _ => .inWorld _
  intro a b twin
  have ran := rest (range s a.session) a b twin
  simp only [compile, Act.run_bind, Act.run_get] at ran ⊢
  rw [← range_congr s twin.pairs]
  exact ran

theorem inferType_respects (statement : Statement) (source : String) (remarks : List Diagnostic) :
    Respects (inferType tools statement source remarks) := by
  refine (Respects.ofExcept _).bind fun lesson => ?_
  cases lesson with
  | type type => exact .pure type
  | wrong => exact .ofExcept (.error _)
  | unclear message => exact (Respects.inWorld _).bind fun _ => .ofExcept (.error _)

theorem report_respects (warnings : List Diagnostic) : Respects (report tools s warnings) := by
  have keep : ∀ kept : List Diagnostic,
      Respects (modify fun d : Desk W => { d with lastWarnings := kept }) :=
    fun kept a b twin => ⟨rfl, ⟨twin.pairs, twin.lastSource, rfl, twin.world⟩, twin.tail⟩
  unfold report
  split
  · exact keep []
  · exact (Respects.ofExcept _).bind fun _ => (Respects.ofExcept _).bind fun kept =>
      (keep kept).bind fun _ => .inWorld _

/-- What others put in comes to the end of both sessions. -/
theorem takeIn_respects : Respects (takeIn tools) := by
  intro a b twin
  refine ⟨rfl, ⟨?_, twin.lastSource, twin.lastWarnings, ?_⟩, ?_⟩
  · simp only [takeIn, Act.run_modify, twin.world, Session.pairs, List.map_append]
    exact congrArg (· ++ _) twin.pairs
  · simp only [takeIn, Act.run_modify, twin.world]
  · simp only [takeIn, Act.run_modify, twin.world, Frame.tail?, Session.last?, List.getLast?_append]
    have tail := twin.tail
    cases (tools.interjected b.world).1.getLast? with
    | none => simpa [Frame.tail?, Session.last?] using tail
    | some statement => rfl

theorem deploy_respects (contracts : Keyed Contract) (warnings : List Diagnostic) :
    Respects (deploy tools s contracts warnings) :=
  (report_respects tools s warnings).bind fun _ => (Respects.ofExcept _).bind fun _ =>
    (Respects.ofExcept _).bind fun _ => (Respects.inWorld _).attempt.bind fun _ =>
      (takeIn_respects tools).bind fun _ => .ofExcept _

theorem retypeLast_respects (statement : Statement) (type : String) :
    Respects (retypeLast statement type : Act (Desk W) Unit) := by
  refine (Respects.ofExcept _).bind fun typed a b twin => ⟨rfl, ⟨?_, twin.lastSource,
    twin.lastWarnings, twin.world⟩, Frame.tail?_push _ _ typed⟩
  simp only [Act.run_modify, Session.pairs_push, Session.pairs_pop, twin.pairs]

/-- **The value of the last statement is the same on twins.** -/
theorem evaluate_respects (statement : Statement) : Respects (evaluate tools s statement) := by
  refine (render_respects tools s).bind fun source => (compile_respects tools s source).bind ?_
  rintro (⟨contracts, warnings⟩ | remarks)
  · exact deploy_respects tools s contracts warnings
  refine (inferType_respects tools statement source remarks).bind fun type =>
    (retypeLast_respects statement type).bind fun _ => (render_respects tools s).bind fun source =>
      (compile_respects tools s source).bind ?_
  rintro (⟨contracts, warnings⟩ | remarks)
  · exact deploy_respects tools s contracts warnings
  · exact .ofExcept (.error _)

theorem Alike.length {a b : Desk W} (alike : Alike a b) :
    a.session.length = b.session.length := by
  have same := congrArg List.length alike.pairs
  simpa [Session.pairs] using same

theorem Alike.shownLast {a b : Desk W} (alike : Alike a b) :
    shownLast a.session = shownLast b.session := by
  have same := congrArg List.getLast? alike.pairs
  simp only [Session.pairs, List.getLast?_map] at same
  unfold Desk.shownLast Session.last?
  cases left : a.session.getLast? <;> cases right : b.session.getLast? <;>
    simp_all [Statement.shown]

/-- One more statement on both sides makes twins. -/
theorem Alike.push {a b : Desk W} (alike : Alike a b) (statement : Statement) :
    Twin { a with session := a.session.push statement }
      { b with session := b.session.push statement } where
  pairs := by rw [Session.pairs_push, Session.pairs_push, alike.pairs]
  lastSource := alike.lastSource
  lastWarnings := alike.lastWarnings
  world := alike.world
  tail := Frame.tail?_push _ _ statement

theorem Alike.pop {a b : Desk W} (alike : Alike a b) :
    Alike { a with session := a.session.pop } { b with session := b.session.pop } where
  pairs := by rw [Session.pairs_pop, Session.pairs_pop, alike.pairs]
  lastSource := alike.lastSource
  lastWarnings := alike.lastWarnings
  world := alike.world

/-- **A run is the same whatever the types of the statements before it.** -/
theorem run_alike (statement : Statement) {a b : Desk W} (alike : Alike a b) :
    ((run tools s statement).run a).1 = ((run tools s statement).run b).1 ∧
      Alike ((run tools s statement).run a).2 ((run tools s statement).run b).2 := by
  obtain ⟨same, twin⟩ := evaluate_respects tools s statement _ _ (alike.push statement)
  simp only [run, Act.run_ofRun]
  generalize (evaluate tools s statement).run { a with session := a.session.push statement } = left
    at same twin ⊢
  generalize (evaluate tools s statement).run { b with session := b.session.push statement } = right
    at same twin ⊢
  obtain ⟨r, a'⟩ := left
  obtain ⟨r', b'⟩ := right
  obtain rfl : r = r' := same
  cases r with
  | ok value => exact ⟨rfl, twin.toAlike⟩
  | error e =>
    refine ⟨?_, twin.toAlike.pop⟩
    simp only [twin.toAlike.length, alike.length, twin.toAlike.shownLast]

theorem enter_alike (input : Input) {a b : Desk W} (alike : Alike a b) :
    (enter tools s a input).1 = (enter tools s b input).1 ∧
      Alike (enter tools s a input).2 (enter tools s b input).2 := by
  cases input with
  | run text =>
    obtain ⟨same, alike'⟩ := run_alike tools s (.ofText text none) alike
    exact ⟨congrArg some same, alike'⟩
  | undo => exact ⟨rfl, alike.pop⟩
  | reset => exact ⟨rfl, rfl, alike.lastSource, alike.lastWarnings, alike.world⟩

/-- **Inputs have the same answers whatever the types of the statements before them.** -/
theorem enterAll_alike (inputs : List Input) {a b : Desk W} (alike : Alike a b) :
    (enterAll tools s a inputs).1 = (enterAll tools s b inputs).1 ∧
      Alike (enterAll tools s a inputs).2 (enterAll tools s b inputs).2 := by
  induction inputs generalizing a b with
  | nil => exact ⟨rfl, alike⟩
  | cons input rest ih =>
    obtain ⟨same, mid⟩ := enter_alike tools s input alike
    obtain ⟨same', after⟩ := ih mid
    simp only [enterAll, same, same']
    exact ⟨trivial, after⟩

theorem Alike.noted {a b : Desk W} (alike : Alike a b) (journal : List Call) :
    Alike (a.noted journal) (b.noted journal) where
  pairs := alike.pairs
  lastSource := alike.lastSource
  lastWarnings := alike.lastWarnings
  world := congrArg (·, journal) alike.world

/-- **A session may be saved and read back at any time.** If its statements were placed, and those
beside the contract have an end, then the record is read as a session on which all inputs ask the
same questions, in the same words, and have the same answers, and which is saved in the same words
after them. -/
theorem reload_invisible (d : Desk W) (placed : ∀ statement ∈ d.session, statement.Placed)
    (ended : ∀ statement ∈ d.session, statement.scope = .sourceUnit →
      Fragment.Ended statement.text.toList) :
    ∃ session, Session.ofRecord d.session.record = .ok session ∧ ∀ inputs,
      let reloaded := { d with session }
      (enterAll tools s d inputs).1 = (enterAll tools s reloaded inputs).1 ∧
      history tools s d inputs = history tools s reloaded inputs ∧
      (enterAll tools s d inputs).2.session.pairs =
        (enterAll tools s reloaded inputs).2.session.pairs ∧
      (enterAll tools s d inputs).2.session.record =
        (enterAll tools s reloaded inputs).2.session.record := by
  refine ⟨d.session.replayed, Session.ofRecord_record _, fun inputs => ?_⟩
  have alike : Alike d { d with session := d.session.replayed } :=
    ⟨(Session.pairs_replayed placed ended).symm, rfl, rfl, rfl⟩
  obtain ⟨answers, after⟩ := enterAll_alike tools s inputs alike
  obtain ⟨-, journals⟩ := enterAll_alike tools.journaled s inputs (alike.noted [])
  exact ⟨answers, congrArg Prod.snd journals.world, after.pairs, Session.record_congr after.pairs⟩

/-- An import, and a call that turned out to have no value. -/
def called : Session :=
  [{ text := "import \"a\";", scope := .sourceUnit, type := none },
   { text := "f();", scope := .main, type := none, inferred := true }]

/-- The type that was found for the call is lost in the record, and nobody can tell. -/
theorem reload_invisible_called :
    (∀ statement ∈ called, statement.Placed) ∧
      (∀ statement ∈ called, statement.scope = .sourceUnit →
        Fragment.Ended statement.text.toList) ∧
      ∃ session, Session.ofRecord called.record = .ok session ∧ ∀ inputs,
        (enterAll (Tools.scripted .nothing) .default { session := called, world := [] } inputs).1 =
          (enterAll (Tools.scripted .nothing) .default { session, world := [] } inputs).1 := by
  have placed : ∀ statement ∈ called, statement.Placed := by
    simp only [called, List.mem_cons, List.not_mem_nil, or_false]
    rintro _ (rfl | rfl)
    · exact .ofText "import \"a\"" none
    · have call : Statement.ofText "f()" none =
          { text := "f();", scope := .main, type := some Statement.placeholder } := by
        decide +kernel
      have given : (Statement.ofText "f()" none).retype "" =
          .ok { text := "f();", scope := .main, type := none, inferred := true } := by
        rw [call]
        rfl
      exact .typed (.ofText "f()" none) given
  have ended : ∀ statement ∈ called, statement.scope = .sourceUnit →
      Fragment.Ended statement.text.toList := by
    simp only [called, List.mem_cons, List.not_mem_nil, or_false]
    rintro _ (rfl | rfl) _ <;> exact .inl rfl
  obtain ⟨session, read, same⟩ := reload_invisible (Tools.scripted .nothing) .default
    { session := called, world := [] } placed ended
  exact ⟨placed, ended, session, read, fun inputs => (same inputs).1⟩

end SolidityRepl.Desk
