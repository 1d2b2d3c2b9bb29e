import SolidityRepl.Proofs.Run.Course

/-!
# Runs take their course

One lemma for every stage of a run says which calls it writes down, what its answer is, and what it
leaves of the desk. Put together they are `run_ran`: a run takes one of the courses, and its
statement is put into the session or leaves no trace.
-/

namespace SolidityRepl.Desk

variable {W : Type} {ok : W → Prop} {tools : Tools W} {s : Settings} {d : Desk W}

/-- The session and the last program are what they were. -/
structure Keeps (d after : Desk W) : Prop where
  session : after.session = d.session
  lastSource : after.lastSource = d.lastSource

theorem Keeps.refl (d : Desk W) : Keeps d d := ⟨rfl, rfl⟩

theorem Keeps.trans {a b c : Desk W} (first : Keeps a b) (second : Keeps b c) : Keeps a c :=
  ⟨second.session.trans first.session, second.lastSource.trans first.lastSource⟩

theorem note_goes (apart : tools.Apart ok) (notice : Notice) (h : ok d.world) :
    ∃ w, Goes ok (inWorld (tools.note notice)) (inWorld (tools.journaled.note notice)) d [] (.ok ())
      { d with world := w } := by
  obtain ⟨taken, stays⟩ := apart.note notice d.world h
  refine ⟨((tools.note notice).run d.world).2, ?_, fun journal => ?_, stays⟩
  · simp only [inWorld, Act.run_zoom, taken]
  · simp only [inWorld, Act.run_zoom, noted, Tools.journaled, taken, List.append_nil]

theorem render_goes (apart : tools.Apart ok) (h : ok d.world) :
    ∃ after, Goes ok (render tools s) (render tools.journaled s) d [] (.ok (program s d.session))
        after ∧
      after.session = d.session ∧ after.lastSource = some (program s d.session) := by
  cases shown : s.isOn .showContract with
  | false =>
    refine ⟨{ d with lastSource := some (program s d.session) }, ⟨?_, fun journal => ?_, h⟩,
      rfl, rfl⟩
    · simp only [render, Act.run_bind, Act.run_get, shown, Bool.false_eq_true, if_false,
        Act.run_modify, Act.run_pure, program]
    · simp only [render, Act.run_bind, Act.run_get, shown, Bool.false_eq_true, if_false,
        Act.run_modify, Act.run_pure, program, noted, List.append_nil]
  | true =>
    obtain ⟨w, shows⟩ := note_goes apart (.program ((Frame.ofSettings s).render d.session)) h
    refine ⟨{ d with lastSource := some (program s d.session), world := w },
      ⟨?_, fun journal => ?_, shows.stays⟩, rfl, rfl⟩
    · simp only [render, Act.run_bind, Act.run_get, shown, if_true, shows.run, Act.run_modify,
        Act.run_pure, program]
    · have shown' := shows.written journal
      simp only [noted, List.append_nil] at shown'
      simp only [render, Act.run_bind, Act.run_get, shown, if_true, noted, shown', Act.run_modify,
        Act.run_pure, program, List.append_nil]

theorem compile_goes (apart : tools.Apart ok) (h : ok d.world) :
    ∃ calls r after, Pass s d.session calls r ∧
      Goes ok (compile tools s (program s d.session))
        (compile tools.journaled s (program s d.session)) d calls r after ∧ Keeps d after := by
  cases asked : range s d.session with
  | error e =>
    refine ⟨[], .error e, d, .noRange asked, ⟨?_, fun journal => ?_, h⟩, .refl d⟩
    · simp only [compile, Act.run_bind, Act.run_get, asked, Act.run_ofExcept]
    · simp only [compile, Act.run_bind, Act.run_get, noted, asked, Act.run_ofExcept,
        List.append_nil]
  | ok spec =>
    have stays := apart.compilerFor spec d.world h
    generalize found : (tools.compilerFor spec).run d.world = a at stays
    obtain ⟨r, w⟩ := a
    cases r with
    | error e =>
      refine ⟨[.found spec (.error e)], .error e, { d with world := w }, .noCompiler asked,
        ⟨?_, fun journal => ?_, stays⟩, rfl, rfl⟩
      · simp only [compile, Act.run_bind, Act.run_get, asked, Act.run_ofExcept, inWorld,
          Act.run_zoom, found]
      · simp only [compile, Act.run_bind, Act.run_get, noted, asked, Act.run_ofExcept, inWorld,
          Act.run_zoom, Tools.journaled, Tools.writing, Act.run_ofRun, found]
    | ok compiler =>
      have stays := apart.compile compiler (sources s d.session) (s.read .evmVersion) w stays
      generalize answer :
        (tools.compile compiler (sources s d.session) (s.read .evmVersion)).run w = a at stays
      obtain ⟨r, w'⟩ := a
      refine ⟨[.found spec (.ok compiler), .compiled compiler (sources s d.session) _ r], r,
        { d with world := w' }, .compiled asked, ⟨?_, fun journal => ?_, stays⟩, rfl, rfl⟩
      · rw [sources] at answer
        simp only [compile, Act.run_bind, Act.run_get, asked, Act.run_ofExcept, inWorld,
          Act.run_zoom, found, answer]
      · rw [sources] at answer
        simp only [compile, Act.run_bind, Act.run_get, noted, asked, Act.run_ofExcept, inWorld,
          Act.run_zoom, Tools.journaled, Tools.writing, Act.run_ofRun, found, answer, sources,
          List.append_assoc, List.cons_append, List.nil_append]

theorem warnAll_told (apart : tools.Apart ok) (passed : List Diagnostic) {w : W} (h : ok w) :
    ∃ calls r w', Told passed calls r ∧ ok w' ∧ (warnAll tools passed).run w = (r, w') ∧
      ∀ journal, (warnAll tools.journaled passed).run (w, journal) = (r, w', journal ++ calls) := by
  induction passed generalizing w with
  | nil => exact ⟨[], .ok (), w, .all, h, rfl, fun journal => by simp [warnAll]⟩
  | cons warning rest ih =>
    have stays := apart.warn warning w h
    generalize answer : (tools.warn warning).run w = a at stays
    obtain ⟨r, mid⟩ := a
    cases r with
    | error e =>
      refine ⟨[.warned warning (.error e)], .error e, mid, .refused, stays, ?_, fun journal => ?_⟩
      · simp only [warnAll, Act.run_bind, answer]
      · simp only [warnAll, Act.run_bind, Tools.journaled, Tools.writing, Act.run_ofRun, answer]
    | ok _ =>
      obtain ⟨calls, r, w', told, stays, run, written⟩ := ih stays
      refine ⟨.warned warning (.ok ()) :: calls, r, w', .next told, stays, ?_, fun journal => ?_⟩
      · simp only [warnAll, Act.run_bind, answer, run]
      · have next := written (journal ++ [.warned warning (.ok ())])
        rw [List.append_assoc, List.singleton_append] at next
        simp only [warnAll, Act.run_bind, Tools.journaled, Tools.writing, Act.run_ofRun, answer]
        exact next

/-- Sorting the warnings comes first, whether there are any or not. -/
theorem report_run (tools : Tools W) (s : Settings) (warnings : List Diagnostic) (d : Desk W) :
    (report tools s warnings).run d =
      match kept s warnings with
      | .error e => (.error e, d)
      | .ok passed =>
        (inWorld (warnAll tools passed)).run { d with lastWarnings := passed } := by
  cases none : warnings.isEmpty with
  | true =>
    simp only [report, kept, none, if_true, Act.run_modify, inWorld, Act.run_zoom, warnAll,
      Act.run_pure]
  | false =>
    simp only [report, kept, none, Bool.false_eq_true, if_false, Act.run_bind, Act.run_ofExcept]
    cases (s.read .ignoredWarnings).parts with
    | error e => rfl
    | ok ignored =>
      cases passing : passedOn ignored warnings <;>
        simp only [bind, Except.bind, passing, Act.run_modify]

theorem report_goes (apart : tools.Apart ok) (warnings : List Diagnostic) (h : ok d.world) :
    ∃ calls r after,
      ((∃ e, kept s warnings = .error e ∧ calls = [] ∧ r = .error e) ∨
        ∃ passed, kept s warnings = .ok passed ∧ Told passed calls r) ∧
      Goes ok (report tools s warnings) (report tools.journaled s warnings) d calls r after ∧
      Keeps d after := by
  cases sorted : kept s warnings with
  | error e =>
    refine ⟨[], .error e, d, .inl ⟨e, rfl, rfl, rfl⟩, ⟨?_, fun journal => ?_, h⟩, .refl d⟩
    · rw [report_run, sorted]
    · rw [report_run, sorted, List.append_nil]
  | ok passed =>
    obtain ⟨calls, r, w, told, stays, run, written⟩ := warnAll_told apart passed h
    refine ⟨calls, r, { d with lastWarnings := passed, world := w }, .inr ⟨passed, rfl, told⟩,
      ⟨?_, fun journal => ?_, stays⟩, rfl, rfl⟩
    · rw [report_run, sorted]
      simp only [inWorld, Act.run_zoom, run]
    · rw [report_run, sorted]
      simp only [inWorld, Act.run_zoom, noted, written]

theorem takeIn_goes (apart : tools.Apart ok) (h : ok d.world) :
    ∃ after, Goes ok (takeIn tools) (takeIn tools.journaled) d [] (.ok ()) after ∧
      Keeps d after := by
  obtain ⟨nothing, stays⟩ := apart.interjected d.world h
  refine ⟨{ d with world := (tools.interjected d.world).2 }, ⟨?_, fun journal => ?_, stays⟩,
    rfl, rfl⟩
  · simp only [takeIn, Act.run_modify, nothing, List.append_nil]
  · simp only [takeIn, Act.run_modify, noted, Tools.journaled, nothing, List.append_nil]

/-- Contracts that are ready are deployed, and what came of them is looked at. -/
theorem value_goes (apart : tools.Apart ok) (own : String) (marks : Keyed Contract)
    (h : ok d.world) :
    ∃ answer after,
      Goes ok
        (Act.attempt (inWorld (tools.deploy marks)) >>= fun results =>
          takeIn tools >>= fun _ => Act.ofExcept (results >>= valueIn own))
        (Act.attempt (inWorld (tools.journaled.deploy marks)) >>= fun results =>
          takeIn tools.journaled >>= fun _ => Act.ofExcept (results >>= valueIn own))
        d [.deployed marks answer] (answer >>= valueIn own) after ∧ Keeps d after := by
  have stays := apart.deploy marks d.world h
  generalize answered : (tools.deploy marks).run d.world = a at stays
  obtain ⟨answer, w⟩ := a
  have attempted : Goes ok (Act.attempt (inWorld (tools.deploy marks)))
      (Act.attempt (inWorld (tools.journaled.deploy marks))) d [.deployed marks answer]
      (.ok answer) { d with world := w } := by
    refine ⟨?_, fun journal => ?_, stays⟩
    · simp only [Act.run_attempt, inWorld, Act.run_zoom, answered]
    · simp only [Act.run_attempt, inWorld, Act.run_zoom, Tools.journaled, Tools.writing,
        Act.run_ofRun, noted, answered]
  obtain ⟨after, taken, keeps⟩ := takeIn_goes (d := { d with world := w }) apart stays
  exact ⟨answer, after, attempted.bind_silent (taken.bind_silent (.ofExcept taken.stays rfl)),
    keeps.session, keeps.lastSource⟩

theorem deploy_goes (apart : tools.Apart ok) (contracts : Keyed Contract)
    (warnings : List Diagnostic) (h : ok d.world) :
    ∃ calls r after, Delivery s contracts warnings calls r ∧
      Goes ok (deploy tools s contracts warnings) (deploy tools.journaled s contracts warnings) d
        calls r after ∧ Keeps d after := by
  obtain ⟨calls, r, mid, ⟨e, sorted, rfl, rfl⟩ | ⟨passed, sorted, told⟩, reported, keeps⟩ :=
    report_goes (s := s) apart warnings h
  · exact ⟨[], .error e, mid, .unsorted sorted, reported.bind_error, keeps⟩
  cases r with
  | error e => exact ⟨calls, .error e, mid, .untold sorted told, reported.bind_error, keeps⟩
  | ok _ =>
    have stays := reported.stays
    cases own : ownName s with
    | error e =>
      refine ⟨calls, .error e, mid, .unmarked sorted told ?_, ?_, keeps⟩
      · rw [ready, own]
        rfl
      · exact reported.bind_silent (Goes.ofExcept stays own).bind_error
    | ok own' =>
      have named := Goes.ofExcept stays own
      cases marks : marked own' (entryName s) contracts with
      | error e =>
        refine ⟨calls, .error e, mid, .unmarked sorted told ?_, ?_, keeps⟩
        · rw [ready, own]
          exact marks
        · exact reported.bind_silent (named.bind_silent (Goes.ofExcept stays marks).bind_error)
      | ok marks' =>
        obtain ⟨answer, after, valued, keeps'⟩ := value_goes apart own' marks' stays
        exact ⟨calls ++ [.deployed marks' answer], answer >>= valueIn own', after,
          .deployed sorted told own marks,
          reported.bind (named.bind ((Goes.ofExcept stays marks).bind valued)),
          keeps.trans keeps'⟩

theorem inferType_goes (apart : tools.Apart ok) (statement : Statement) (source : String)
    (remarks : List Diagnostic) (h : ok d.world) :
    (∃ e after, hopeless statement source remarks = some e ∧
      Goes ok (inferType tools statement source remarks)
        (inferType tools.journaled statement source remarks) d [] (.error e) after ∧
      Keeps d after) ∨
    ∃ type, lesson statement source remarks = .ok (.type type) ∧
      Goes ok (inferType tools statement source remarks)
        (inferType tools.journaled statement source remarks) d [] (.ok type) d := by
  cases learnt : lesson statement source remarks with
  | error e =>
    exact .inl ⟨e, d, by simp only [hopeless, learnt], (Goes.ofExcept h learnt).bind_error, .refl d⟩
  | ok lesson =>
    have first := Goes.ofExcept h learnt
    cases lesson with
    | type type => exact .inr ⟨type, rfl, first.bind_silent (.pure h)⟩
    | wrong =>
      exact .inl ⟨_, d, by simp only [hopeless, learnt], first.bind_silent (.ofExcept h rfl),
        .refl d⟩
    | unclear message =>
      obtain ⟨w, noted⟩ := note_goes apart (.unclearType statement.text message) h
      exact .inl ⟨_, { d with world := w }, by simp only [hopeless, learnt],
        first.bind_silent (noted.bind_silent (.ofExcept noted.stays rfl)), rfl, rfl⟩

/-- A type is learnt only for a value whose type may still be given. -/
theorem lesson_type {statement : Statement} {source type : String} {remarks : List Diagnostic}
    (learnt : lesson statement source remarks = .ok (.type type)) :
    statement.yieldsNothing = false ∧ statement.inferred = false := by
  unfold lesson at learnt
  split at learnt
  · cases learnt
  · split at learnt
    · cases learnt
    · simp_all

theorem retypeLast_goes {session : Session} {statement : Statement} (type : String)
    (h : ok d.world) (last : d.session = session.push statement)
    (able : statement.yieldsNothing = false ∧ statement.inferred = false) :
    ∃ typed after, statement.retype type = .ok typed ∧
      Goes ok (retypeLast statement type) (retypeLast statement type) d [] (.ok ()) after ∧
      after.session = session.push typed := by
  obtain ⟨typed, given⟩ : ∃ typed, statement.retype type = .ok typed :=
    ⟨_, Statement.retype_eq_ok.mpr ⟨able.1, able.2, rfl⟩⟩
  refine ⟨typed, { d with session := session.push typed }, given, ⟨?_, fun journal => ?_, h⟩, rfl⟩
  · simp only [retypeLast, Act.run_bind, given, Act.run_ofExcept, Act.run_modify, last,
      Session.pop_push]
  · simp only [retypeLast, Act.run_bind, given, Act.run_ofExcept, Act.run_modify, noted, last,
      Session.pop_push, List.append_nil]

/-- The correcting pass, whose result is final. -/
theorem settle_goes (apart : tools.Apart ok) (h : ok d.world) :
    ∃ calls r after,
      Settled s d.session (fun remarks => some (.compileFailed remarks)) calls r ∧
      Goes ok
        (render tools s >>= fun source => compile tools s source >>= fun result =>
          match result with
          | .ok contracts warnings => deploy tools s contracts warnings
          | .failed remarks => throw (.compileFailed remarks))
        (render tools.journaled s >>= fun source =>
          compile tools.journaled s source >>= fun result =>
          match result with
          | .ok contracts warnings => deploy tools.journaled s contracts warnings
          | .failed remarks => throw (.compileFailed remarks)) d calls r after ∧
      after.session = d.session ∧ after.lastSource = some (program s d.session) := by
  obtain ⟨mid, rendered, same, last⟩ := render_goes (s := s) apart h
  obtain ⟨calls, r, after, pass, compiled, keeps⟩ := compile_goes (s := s) apart rendered.stays
  rw [same] at pass compiled
  have session := keeps.session.trans same
  have source := keeps.lastSource.trans last
  cases r with
  | error e =>
    exact ⟨calls, .error e, after, .broken pass, rendered.bind compiled.bind_error, session, source⟩
  | ok result =>
    cases result with
    | failed remarks =>
      exact ⟨calls, .error (.compileFailed remarks), after, .refused pass rfl,
        rendered.bind (compiled.bind_silent (.ofExcept compiled.stays rfl)), session, source⟩
    | ok contracts warnings =>
      obtain ⟨more, r, final, delivery, delivered, keeps'⟩ :=
        deploy_goes (s := s) apart contracts warnings compiled.stays
      exact ⟨calls ++ more, r, final, .taken pass delivery,
        rendered.bind (compiled.bind delivered), keeps'.session.trans session,
        keeps'.lastSource.trans source⟩

/-- The value of the session's last statement is found on one of the courses. -/
theorem evaluate_goes (apart : tools.Apart ok) {session : Session} {statement : Statement}
    (h : ok d.world) (last : d.session = session.push statement) :
    ∃ calls r final after, Course s session statement calls r final ∧
      Goes ok (evaluate tools s statement) (evaluate tools.journaled s statement) d calls r after ∧
      after.session = session.push final ∧
      after.lastSource = some (program s (session.push final)) := by
  obtain ⟨mid, rendered, same, shown⟩ := render_goes (s := s) apart h
  obtain ⟨calls, r, after, pass, compiled, keeps⟩ := compile_goes (s := s) apart rendered.stays
  rw [same] at pass compiled
  have pushed := keeps.session.trans same
  have source := keeps.lastSource.trans shown
  rw [last] at pass pushed source
  cases r with
  | error e =>
    exact ⟨calls, .error e, statement, after, .once (.broken pass),
      rendered.bind compiled.bind_error, pushed, source⟩
  | ok result =>
    cases result with
    | ok contracts warnings =>
      obtain ⟨more, r, final, delivery, delivered, keeps'⟩ :=
        deploy_goes (s := s) apart contracts warnings compiled.stays
      exact ⟨calls ++ more, r, statement, final, .once (.taken pass delivery),
        rendered.bind (compiled.bind delivered), keeps'.session.trans pushed,
        keeps'.lastSource.trans source⟩
    | failed remarks =>
      obtain ⟨e, final, fails, inferred, keeps'⟩ | ⟨type, learnt, inferred⟩ :=
        inferType_goes apart statement (program s d.session) remarks compiled.stays
      · rw [last] at fails
        exact ⟨calls, .error e, statement, final, .once (.refused pass fails),
          rendered.bind (compiled.bind_silent inferred.bind_error), keeps'.session.trans pushed,
          keeps'.lastSource.trans source⟩
      · obtain ⟨typed, retyped, given, retyping, replaced⟩ :=
          retypeLast_goes type inferred.stays pushed (lesson_type learnt)
        obtain ⟨more, r, final, settled, settling, same', source'⟩ :=
          settle_goes (s := s) apart retyping.stays
        rw [replaced] at settled same' source'
        rw [last] at learnt
        exact ⟨calls ++ more, r, typed, final, .again pass learnt given settled,
          rendered.bind (compiled.bind (inferred.bind (retyping.bind settling))), same', source'⟩

/-- What a run asks, read off the journal that it leaves. -/
def asked (tools : Tools W) (s : Settings) (statement : Statement) (d : Desk W) : List Call :=
  ((run tools.journaled s statement).run (d.noted [])).2.world.2

/-- The session after a run: the statement is in it only if the run succeeded. -/
def sessionAfter (session : Session) (final : Statement) : Except Failure Value → Session
  | .ok _ => session.push final
  | .error _ => session

/-- What a run comes to, `final` being the statement as it is in the end. -/
structure Ran (ok : W → Prop) (tools : Tools W) (s : Settings) (statement : Statement) (d : Desk W)
    (final : Statement) (r : Except Failure Value) (after : Desk W) : Prop where
  course : Course s d.session statement (asked tools s statement d) r final
  goes : Goes ok (run tools s statement) (run tools.journaled s statement) d
    (asked tools s statement d) r after
  session : after.session = sessionAfter d.session final r
  lastSource : after.lastSource = some (program s (d.session.push final))

/-- **Every run takes one of the courses.** The journal changes nothing about it, and the statement
is put into the session or leaves no trace. -/
theorem run_ran (apart : tools.Apart ok) (s : Settings) (statement : Statement) (h : ok d.world) :
    ∃ final r after, Ran ok tools s statement d final r after := by
  obtain ⟨calls, r, final, mid, course, evaluated, pushed, source⟩ :=
    evaluate_goes (s := s) (d := { d with session := d.session.push statement }) apart h rfl
  have length : ((d.session.push final).length == d.session.length + 1) = true := by
    simp [Session.push]
  have running : Goes ok (run tools s statement) (run tools.journaled s statement) d calls r
      { mid with session := sessionAfter d.session final r } := by
    cases r with
    | error e =>
      refine ⟨?_, fun journal => ?_, evaluated.stays⟩
      · simp only [run, Act.run_ofRun, evaluated.run, pushed, length, if_true, sessionAfter,
          Session.pop_push]
      · have double := evaluated.written journal
        simp only [noted] at double
        simp only [run, Act.run_ofRun, noted, double, pushed, length, if_true, sessionAfter,
          Session.pop_push]
    | ok value =>
      refine ⟨?_, fun journal => ?_, evaluated.stays⟩
      · simp only [run, Act.run_ofRun, evaluated.run, sessionAfter, ← pushed]
      · have double := evaluated.written journal
        simp only [noted] at double
        simp only [run, Act.run_ofRun, noted, double, sessionAfter, ← pushed]
  have written : asked tools s statement d = calls := by
    rw [asked, running.written [], List.nil_append]
    rfl
  exact ⟨final, r, { mid with session := sessionAfter d.session final r }, written ▸ course,
    written ▸ running, rfl, source⟩

end SolidityRepl.Desk
