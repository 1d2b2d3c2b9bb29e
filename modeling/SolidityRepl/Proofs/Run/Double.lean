import SolidityRepl.Proofs.Run.History

/-!
# The journal changes nothing

Whatever the tools are, a run that writes down its questions goes as it goes without a journal.
-/

namespace SolidityRepl.Desk

variable {W : Type} {α β : Type}

/-- The double has the same answer, leaves the same desk behind, and writes down some calls. -/
def Doubles (act : Act (Desk W) α) (double : Act (Desk (W × List Call)) α) : Prop :=
  ∀ d journal, ∃ calls,
    double.run (d.noted journal) = ((act.run d).1, (act.run d).2.noted (journal ++ calls))

namespace Doubles

theorem bind {act : Act (Desk W) α} {double : Act (Desk (W × List Call)) α}
    {next : α → Act (Desk W) β} {nextDouble : α → Act (Desk (W × List Call)) β}
    (first : Doubles act double) (second : ∀ x, Doubles (next x) (nextDouble x)) :
    Doubles (act >>= next) (double >>= nextDouble) := by
  intro d journal
  obtain ⟨calls, same⟩ := first d journal
  rw [Act.run_bind, Act.run_bind, same]
  generalize act.run d = ran
  obtain ⟨r, mid⟩ := ran
  cases r with
  | error e => exact ⟨calls, rfl⟩
  | ok x =>
    obtain ⟨more, same'⟩ := second x mid (journal ++ calls)
    refine ⟨calls ++ more, ?_⟩
    rw [← List.append_assoc]
    exact same'

/-- Acts that ask nothing. -/
theorem silent {act : Act (Desk W) α} {double : Act (Desk (W × List Call)) α}
    (same : ∀ d journal, double.run (d.noted journal) =
      ((act.run d).1, (act.run d).2.noted journal)) : Doubles act double := by
  intro d journal
  refine ⟨[], ?_⟩
  rw [List.append_nil]
  exact same d journal

theorem ofExcept (r : Except Failure α) :
    Doubles (Act.ofExcept r : Act (Desk W) α) (Act.ofExcept r) := silent fun _ _ => rfl

theorem pure (x : α) : Doubles (Pure.pure x : Act (Desk W) α) (Pure.pure x) :=
  silent fun _ _ => rfl

theorem writing (call : Except Failure α → Call) (act : Act W α) :
    Doubles (inWorld act) (inWorld (Tools.writing call act)) := fun _ _ => ⟨_, rfl⟩

theorem note (tools : Tools W) (notice : Notice) :
    Doubles (inWorld (tools.note notice)) (inWorld (tools.journaled.note notice)) :=
  silent fun _ _ => rfl

theorem attempt {act : Act (Desk W) α} {double : Act (Desk (W × List Call)) α}
    (h : Doubles act double) : Doubles (Act.attempt act) (Act.attempt double) := by
  intro d journal
  obtain ⟨calls, same⟩ := h d journal
  refine ⟨calls, ?_⟩
  rw [Act.run_attempt, Act.run_attempt, same]

/-- An act that reads the desk, but nothing of its world. -/
theorem get {next : Desk W → Act (Desk W) β}
    {nextDouble : Desk (W × List Call) → Act (Desk (W × List Call)) β}
    (h : ∀ d journal, Doubles (next d) (nextDouble (d.noted journal))) :
    Doubles (MonadState.get >>= next) (MonadState.get >>= nextDouble) := by
  intro d journal
  rw [Act.run_bind, Act.run_bind, Act.run_get, Act.run_get]
  exact h d journal d journal

end Doubles

variable (tools : Tools W) (s : Settings)

theorem render_doubles : Doubles (render tools s) (render tools.journaled s) := by
  refine .get fun d journal => ?_
  show Doubles (if s.isOn .showContract then _ else _) (if s.isOn .showContract then _ else _)
  split
  · exact (Doubles.note tools _).bind fun _ => .silent fun _ _ => rfl
  · exact .silent fun _ _ => rfl

theorem compile_doubles (source : String) :
    Doubles (compile tools s source) (compile tools.journaled s source) :=
  .get fun d _ => (Doubles.ofExcept (range s d.session)).bind fun _ =>
    (Doubles.writing _ _).bind fun _ => .writing _ _

theorem inferType_doubles (statement : Statement) (source : String) (remarks : List Diagnostic) :
    Doubles (inferType tools statement source remarks)
      (inferType tools.journaled statement source remarks) := by
  refine (Doubles.ofExcept _).bind fun lesson => ?_
  cases lesson with
  | type type => exact .pure type
  | wrong => exact .ofExcept (.error _)
  | unclear message => exact (Doubles.note tools _).bind fun _ => .ofExcept (.error _)

theorem warnAll_journaled (warnings : List Diagnostic) (w : W) (journal : List Call) :
    ∃ calls, (warnAll tools.journaled warnings).run (w, journal) =
      (((warnAll tools warnings).run w).1,
        ((warnAll tools warnings).run w).2, journal ++ calls) := by
  induction warnings generalizing w journal with
  | nil => exact ⟨[], by rw [List.append_nil]; rfl⟩
  | cons warning rest ih =>
    simp only [warnAll, Act.run_bind, Tools.journaled, Tools.writing, Act.run_ofRun]
    generalize (tools.warn warning).run w = ran
    obtain ⟨r, mid⟩ := ran
    cases r with
    | error e => exact ⟨_, rfl⟩
    | ok _ =>
      obtain ⟨calls, same⟩ := ih mid (journal ++ [.warned warning (.ok ())])
      refine ⟨.warned warning (.ok ()) :: calls, ?_⟩
      rw [List.append_assoc, List.singleton_append] at same
      exact same

theorem warnAll_doubles (warnings : List Diagnostic) :
    Doubles (inWorld (warnAll tools warnings)) (inWorld (warnAll tools.journaled warnings)) := by
  intro d journal
  obtain ⟨calls, same⟩ := warnAll_journaled tools warnings d.world journal
  refine ⟨calls, ?_⟩
  simp only [inWorld, Act.run_zoom, noted, same]

theorem report_doubles (warnings : List Diagnostic) :
    Doubles (report tools s warnings) (report tools.journaled s warnings) := by
  unfold report
  split
  · exact .silent fun _ _ => rfl
  · exact (Doubles.ofExcept _).bind fun _ => (Doubles.ofExcept _).bind fun _ =>
      (Doubles.silent fun _ _ => rfl).bind fun _ => warnAll_doubles tools _

theorem deploy_doubles (contracts : Keyed Contract) (warnings : List Diagnostic) :
    Doubles (deploy tools s contracts warnings) (deploy tools.journaled s contracts warnings) :=
  (report_doubles tools s warnings).bind fun _ => (Doubles.ofExcept _).bind fun _ =>
    (Doubles.ofExcept _).bind fun _ => (Doubles.writing _ _).attempt.bind fun _ =>
      (Doubles.silent fun _ _ => rfl).bind fun _ => .ofExcept _

theorem retypeLast_doubles (statement : Statement) (type : String) :
    Doubles (retypeLast statement type : Act (Desk W) Unit) (retypeLast statement type) :=
  (Doubles.ofExcept _).bind fun _ => .silent fun _ _ => rfl

theorem evaluate_doubles (statement : Statement) :
    Doubles (evaluate tools s statement) (evaluate tools.journaled s statement) := by
  refine (render_doubles tools s).bind fun source => (compile_doubles tools s source).bind ?_
  rintro (⟨contracts, warnings⟩ | remarks)
  · exact deploy_doubles tools s contracts warnings
  refine (inferType_doubles tools statement source remarks).bind fun type =>
    (retypeLast_doubles statement type).bind fun _ => (render_doubles tools s).bind fun source =>
      (compile_doubles tools s source).bind ?_
  rintro (⟨contracts, warnings⟩ | remarks)
  · exact deploy_doubles tools s contracts warnings
  · exact .ofExcept (.error _)

theorem run_doubles (statement : Statement) :
    Doubles (run tools s statement) (run tools.journaled s statement) := by
  intro d journal
  obtain ⟨calls, same⟩ :=
    evaluate_doubles tools s statement { d with session := d.session.push statement } journal
  refine ⟨calls, ?_⟩
  simp only [noted] at same
  simp only [run, Act.run_ofRun, noted, same]
  generalize (evaluate tools s statement).run _ = ran
  obtain ⟨r, after⟩ := ran
  cases r <;> rfl

theorem enter_doubles (input : Input) (d : Desk W) (journal : List Call) :
    ∃ calls, enter tools.journaled s (d.noted journal) input =
      ((enter tools s d input).1, (enter tools s d input).2.noted (journal ++ calls)) := by
  cases input with
  | run text =>
    obtain ⟨calls, same⟩ := run_doubles tools s (.ofText text none) d journal
    exact ⟨calls, by simp only [enter, same]⟩
  | undo | reset => exact ⟨[], by rw [List.append_nil]; rfl⟩

/-- **The journal changes nothing** about the inputs at a desk, by induction on them. -/
theorem enterAll_doubles (inputs : List Input) (d : Desk W) (journal : List Call) :
    ∃ calls, enterAll tools.journaled s (d.noted journal) inputs =
      ((enterAll tools s d inputs).1, (enterAll tools s d inputs).2.noted (journal ++ calls)) := by
  induction inputs generalizing d journal with
  | nil => exact ⟨[], by rw [List.append_nil]; rfl⟩
  | cons input rest ih =>
    obtain ⟨calls, first⟩ := enter_doubles tools s input d journal
    obtain ⟨more, later⟩ := ih (enter tools s d input).2 (journal ++ calls)
    refine ⟨calls ++ more, ?_⟩
    simp only [enterAll, first, later, List.append_assoc]

/-- **A history is that of the inputs themselves.** -/
theorem enterAll_history (inputs : List Input) (d : Desk W) :
    enterAll tools.journaled s (d.noted []) inputs =
      ((enterAll tools s d inputs).1,
        (enterAll tools s d inputs).2.noted (history tools s d inputs)) := by
  obtain ⟨calls, same⟩ := enterAll_doubles tools s inputs d []
  rw [history, same]
  rfl

end SolidityRepl.Desk
