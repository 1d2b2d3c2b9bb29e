import SolidityRepl.Proofs.Run.Stages

/-!
# Runs leave all or nothing

A run that fails leaves the session as it was, and fails with the cause of the step that failed.
-/

namespace SolidityRepl

/-- A cause that the session was changed, or that a type was given twice. -/
def Failure.blamesSession : Failure → Bool
  | .sessionChanged _ _ | .typeIsFixed _ => true
  | _ => false

/-- A statement in the end: as it was, or with its type given. -/
inductive Statement.Becomes (statement : Statement) : Statement → Prop
  | same : statement.Becomes statement
  | typed {type : String} {final : Statement} (given : statement.retype type = .ok final) :
      statement.Becomes final

theorem Statement.Becomes.text_scope {statement final : Statement} (h : statement.Becomes final) :
    final.text = statement.text ∧ final.scope = statement.scope := by
  cases h with
  | same => exact ⟨rfl, rfl⟩
  | typed given =>
    obtain ⟨-, -, rfl⟩ := Statement.retype_eq_ok.mp given
    exact ⟨rfl, rfl⟩

namespace Desk

/-- A result that does not blame the session. -/
def Sober {α : Type} (r : Except Failure α) : Prop := ∀ e, r = .error e → e.blamesSession = false

theorem Sober.ok {α : Type} (a : α) : Sober (.ok a : Except Failure α) := fun _ h => by cases h

theorem Sober.error {α : Type} {e : Failure} (h : e.blamesSession = false) :
    Sober (.error e : Except Failure α) := by
  rintro _ ⟨⟩
  exact h

theorem Sober.bind {α β : Type} {r : Except Failure α} {next : α → Except Failure β}
    (first : Sober r) (second : ∀ a, Sober (next a)) : Sober (r >>= next) := by
  cases r with
  | ok a => exact second a
  | error e => exact .error (first e rfl)

theorem parts_sober (value : Json) : Sober value.parts := by
  cases value <;> first | exact .ok _ | exact .error rfl

theorem asText_sober (value : Json) : Sober value.asText := by
  cases value <;> first | exact .ok _ | exact .error rfl

theorem mentions_sober (value : Json) (key : String) : Sober (value.mentions key) := by
  cases value <;> first | exact .ok _ | exact .error rfl

theorem isIgnored_sober (warning : Diagnostic) (ignored : List Json) :
    Sober (isIgnored warning ignored) := by
  induction ignored with
  | nil => exact .ok _
  | cons part rest ih =>
    refine (asText_sober part).bind fun text => (mentions_sober _ text).bind fun found => ?_
    cases found with
    | true => exact .ok _
    | false => exact ih

theorem passedOn_sober (ignored : List Json) (warnings : List Diagnostic) :
    Sober (passedOn ignored warnings) := by
  induction warnings with
  | nil => exact .ok _
  | cons warning rest ih =>
    exact (isIgnored_sober warning ignored).bind fun _ => ih.bind fun _ => .ok _

theorem kept_sober (s : Settings) (warnings : List Diagnostic) : Sober (kept s warnings) := by
  unfold kept
  split
  · exact .ok _
  · exact (parts_sober _).bind fun ignored => passedOn_sober ignored warnings

theorem range_sober (s : Settings) (session : Session) : Sober (range s session) := by
  unfold range
  repeat' split
  all_goals first | exact .ok _ | exact .error rfl

theorem ready_sober (s : Settings) (contracts : Keyed Contract) : Sober (ready s contracts) := by
  refine Sober.bind ?_ fun own => ?_
  · unfold ownName
    split <;> first | exact .ok _ | exact .error rfl
  · unfold marked
    split
    · exact .error rfl
    · exact .ok _

theorem valueIn_sober (own : String) (results : Keyed Deployed) : Sober (valueIn own results) := by
  unfold valueIn
  split
  · exact .error rfl
  · split
    · exact .ok _
    · exact .error rfl

theorem lesson_sober (statement : Statement) (source : String) (remarks : List Diagnostic) :
    Sober (lesson statement source remarks) := by
  unfold lesson
  split
  · exact .ok _
  · split
    · exact .ok _
    · refine (asText_sober _).bind fun text => ?_
      dsimp only
      repeat' split
      all_goals exact .ok _

/-- Whatever a refused program fails with does not blame the session. -/
def Temperate (cause : List Diagnostic → Option Failure) : Prop :=
  ∀ remarks e, cause remarks = some e → e.blamesSession = false

theorem hopeless_temperate (statement : Statement) (source : String) :
    Temperate (hopeless statement source) := by
  intro remarks e fails
  unfold hopeless at fails
  split at fails
  case h_1 cause learnt =>
    cases fails
    exact lesson_sober statement source remarks _ learnt
  case h_2 | h_3 =>
    cases fails
    rfl
  case h_4 => cases fails

/-- A call that fails is the last one, and what it fails with is what all fails with. Where no call
fails, the session is not blamed. -/
structure Answered {α : Type} (calls : List Call) (r : Except Failure α) : Prop where
  last : ∀ {before call later e}, calls = before ++ call :: later → call.failure? = some e →
    later = [] ∧ r = .error e
  own : (∀ call ∈ calls, call.failure? = none) → Sober r

namespace Answered

variable {α β : Type} {calls more : List Call}

/-- Where no call fails, only the result matters. -/
theorem quiet {r : Except Failure α} (quiet : ∀ call ∈ calls, call.failure? = none)
    (sober : Sober r) : Answered calls r where
  last h fails := by
    rw [quiet _ (h ▸ by simp)] at fails
    cases fails
  own _ := sober

/-- No call of a success fails. -/
theorem of_ok {a : α} (h : Answered calls (.ok a : Except Failure α)) :
    ∀ call ∈ calls, call.failure? = none := by
  intro call mem
  cases fails : call.failure? with
  | none => rfl
  | some e =>
    obtain ⟨before, later, split⟩ := List.append_of_mem mem
    have wrong := (h.last split fails).2
    cases wrong

/-- One call, which fails. -/
theorem fails {call : Call} {e : Failure} (failing : call.failure? = some e) :
    Answered [call] (.error e : Except Failure α) where
  last {before call' later e'} cut fails := by
    obtain ⟨rfl, rfl, rfl⟩ : before = [] ∧ call' = call ∧ later = [] := by
      cases before <;> simp_all
    rw [failing] at fails
    cases fails
    exact ⟨rfl, rfl⟩
  own all := by
    have wrong := all call (by simp)
    rw [failing] at wrong
    cases wrong

theorem append {r : Except Failure β} (quiet : ∀ call ∈ calls, call.failure? = none)
    (h : Answered more r) : Answered (calls ++ more) r where
  last {before call later e} cut fails := by
    obtain ⟨part, rfl, rest⟩ | ⟨part, same, rest⟩ := List.append_eq_append_iff.mp cut
    · exact h.last rest fails
    · cases part with
      | nil => exact h.last (show more = [] ++ call :: later from rest.symm) fails
      | cons first part =>
        rw [List.cons_append, List.cons.injEq] at rest
        rw [rest.1, quiet first (same ▸ by simp)] at fails
        cases fails
  own all := h.own fun call mem => all call (List.mem_append_right calls mem)

theorem cons {call : Call} {r : Except Failure β} (quiet : call.failure? = none)
    (h : Answered more r) : Answered (call :: more) r := by
  have one : ∀ other ∈ [call], other.failure? = none := by
    intro other mem
    rwa [List.mem_singleton.mp mem]
  exact append one h

end Answered

variable {s : Settings} {session : Session} {calls : List Call}

theorem Pass.answered {r : Except Failure CompileResult} (pass : Pass s session calls r) :
    Answered calls r := by
  cases pass with
  | noRange range => exact .quiet (by simp) (.error (range_sober s session _ range))
  | noCompiler _ => exact .fails rfl
  | compiled _ =>
    cases r with
    | ok result => exact .quiet (by simp [Call.failure?]) (.ok _)
    | error e => exact .cons rfl (.fails rfl)

theorem Told.answered {warnings : List Diagnostic} {r : Except Failure Unit}
    (told : Told warnings calls r) : Answered calls r := by
  induction told with
  | all => exact .quiet (by simp) (.ok _)
  | next _ ih => exact .cons rfl ih
  | refused => exact .fails rfl

theorem Delivery.answered {contracts : Keyed Contract} {warnings : List Diagnostic}
    {r : Except Failure Value} (delivery : Delivery s contracts warnings calls r) :
    Answered calls r := by
  cases delivery with
  | unsorted sorted => exact .quiet (by simp) (.error (kept_sober s warnings _ sorted))
  | untold _ told => exact ⟨fun cut fails => ⟨(told.answered.last cut fails).1,
      by cases (told.answered.last cut fails).2; rfl⟩,
      fun all => .error (told.answered.own all _ rfl)⟩
  | unmarked _ told marks =>
    exact .quiet told.answered.of_ok (.error (ready_sober s contracts _ marks))
  | @deployed _ _ own _ answer _ told _ _ =>
    cases answer with
    | error e => exact .append told.answered.of_ok (.fails rfl)
    | ok results =>
      refine .append told.answered.of_ok (.quiet (by simp [Call.failure?]) ?_)
      exact valueIn_sober own results

theorem Settled.answered {cause : List Diagnostic → Option Failure} {r : Except Failure Value}
    (temperate : Temperate cause) (settled : Settled s session cause calls r) :
    Answered calls r := by
  cases settled with
  | broken pass => exact ⟨fun cut fails => ⟨(pass.answered.last cut fails).1,
      by cases (pass.answered.last cut fails).2; rfl⟩,
      fun all => .error (pass.answered.own all _ rfl)⟩
  | taken pass delivery => exact .append pass.answered.of_ok delivery.answered
  | refused pass fails => exact .quiet pass.answered.of_ok (.error (temperate _ _ fails))

theorem Course.answered {statement final : Statement} {r : Except Failure Value}
    (course : Course s session statement calls r final) : Answered calls r := by
  cases course with
  | once settled => exact settled.answered (hopeless_temperate _ _)
  | again pass _ _ settled =>
    exact .append pass.answered.of_ok (settled.answered fun _ _ fails => by cases fails; rfl)

/-- The end of a run is the statement as it was, or with its type given. -/
theorem Course.becomes {statement final : Statement} {r : Except Failure Value}
    (course : Course s session statement calls r final) : statement.Becomes final := by
  cases course with
  | once _ => exact .same
  | again _ _ given _ => exact .typed given

variable {W : Type} {ok : W → Prop} {tools : Tools W}

/-- What a run does to the session. If it succeeds the statement is put at the end, from where it
can be taken away. If it fails the session is what it was: a call that failed was the last one and
gives the cause, and where no call failed the cause is that of a step, which does not blame the
session. -/
def Atomic (tools : Tools W) (s : Settings) (statement : Statement) (d : Desk W) : Prop :=
  match (run tools s statement).run d with
  | (.ok value, after) => ∃ final,
    Course s d.session statement (asked tools s statement d) (.ok value) final ∧
    statement.Becomes final ∧ after.session = d.session.push final ∧
    after.session.pop = d.session ∧ program s after.session.pop = program s d.session
  | (.error e, after) =>
    after.session = d.session ∧
    (∃ final, Course s d.session statement (asked tools s statement d) (.error e) final) ∧
    (∀ before call later cause, asked tools s statement d = before ++ call :: later →
      call.failure? = some cause → later = [] ∧ e = cause) ∧
    ((∀ call ∈ asked tools s statement d, call.failure? = none) → e.blamesSession = false)

/-- **A run leaves its statement at the end of the session, or no trace of it.** -/
theorem run_atomic (apart : tools.Apart ok) (s : Settings) (statement : Statement) (d : Desk W)
    (h : ok d.world) : Atomic tools s statement d := by
  obtain ⟨final, r, after, ran⟩ := run_ran apart s statement h
  rw [Atomic, ran.goes.run]
  cases r with
  | ok value =>
    have pushed : after.session = d.session.push final := ran.session
    have popped : after.session.pop = d.session := by rw [pushed, Session.pop_push]
    exact ⟨final, ran.course, ran.course.becomes, pushed, popped, by rw [popped]⟩
  | error e =>
    have answered := ran.course.answered
    refine ⟨ran.session, ⟨final, ran.course⟩, fun before call later cause cut fails => ?_,
      fun quiet => answered.own quiet e rfl⟩
    obtain ⟨last, same⟩ := answered.last cut fails
    exact ⟨last, Except.error.inj same⟩

/-- A compiler that has nothing to say fails, and nothing is left of the statement. -/
theorem run_atomic_speechless :
    (fun _ => True) ([] : List CompileResult) ∧
      Atomic (Tools.scripted .nothing) .default (.ofText "1 + 1" none) { world := [] } :=
  ⟨trivial, run_atomic (Tools.scripted_apart .nothing) .default _ _ trivial⟩

end Desk

end SolidityRepl
