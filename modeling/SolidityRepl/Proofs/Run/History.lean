import SolidityRepl.Shell
import SolidityRepl.Proofs.Run.Protocol

/-!
# Sessions and their past

Whatever is entered at a desk with an empty session, the programs of the session are programs that
ran: the whole of it, and every beginning of it that an undo may lead back to.
-/

namespace SolidityRepl

inductive Input where
  | run (text : String)
  | undo
  | reset

namespace Desk

variable {W : Type}

def enter (tools : Tools W) (s : Settings) (d : Desk W) :
    Input → Option (Except Failure Value) × Desk W
  | .run text =>
    let (r, after) := (run tools s (.ofText text none)).run d
    (some r, after)
  | .undo => (none, { d with session := d.session.pop })
  | .reset => (none, { d with session := [] })

def enterAll (tools : Tools W) (s : Settings) (d : Desk W) :
    List Input → List (Option (Except Failure Value)) × Desk W
  | [] => ([], d)
  | input :: rest =>
    let (answer, mid) := enter tools s d input
    let (answers, after) := enterAll tools s mid rest
    (answer :: answers, after)

def history (tools : Tools W) (s : Settings) (d : Desk W) (inputs : List Input) : List Call :=
  (enterAll tools.journaled s (d.noted []) inputs).2.world.2

/-- A program that was given to a compiler and taken, and whose contracts were deployed, all of them
without an error. Nothing but warnings comes in between. -/
def Accepted (s : Settings) (source : String) (calls : List Call) : Prop :=
  ∃ before compiler raw warnings told contracts results later,
    calls = before ++ .compiled compiler
        [((Frame.ofSettings s).unitName, Import.sourceOf source)] (s.read .evmVersion)
        (.ok (.ok raw warnings)) :: (told ++ .deployed contracts (.ok results) :: later) ∧
    (∀ call ∈ told, ∃ warning, call = .warned warning (.ok ())) ∧
    Marked s raw contracts ∧ ∀ result ∈ results, result.2.error = none

/-- Every beginning of a session has a program that was accepted. -/
def Founded (s : Settings) (session : Session) (calls : List Call) : Prop :=
  ∀ front, front <+: session → front ≠ [] → Accepted s (program s front) calls

variable {s : Settings} {session : Session} {calls more : List Call}

theorem Accepted.append {source : String} (accepted : Accepted s source calls)
    (more : List Call) : Accepted s source (calls ++ more) := by
  obtain ⟨before, compiler, raw, warnings, told, contracts, results, later, rfl, fine⟩ := accepted
  exact ⟨before, compiler, raw, warnings, told, contracts, results, later ++ more, by simp, fine⟩

theorem Accepted.after {source : String} (accepted : Accepted s source more)
    (calls : List Call) : Accepted s source (calls ++ more) := by
  obtain ⟨before, compiler, raw, warnings, told, contracts, results, later, rfl, fine⟩ := accepted
  exact ⟨calls ++ before, compiler, raw, warnings, told, contracts, results, later, by simp, fine⟩

theorem Told.warned {warnings : List Diagnostic} {r : Except Failure Unit}
    (told : Told warnings calls r) (done : r = .ok ()) :
    ∀ call ∈ calls, ∃ warning, call = .warned warning (.ok ()) := by
  induction told with
  | all => simp
  | @next warning _ _ _ _ ih =>
    intro call mem
    obtain rfl | mem := List.mem_cons.mp mem
    · exact ⟨warning, rfl⟩
    · exact ih done call mem
  | refused => cases done

/-- A pass with a value leaves an accepted program behind. -/
theorem Settled.accepted {cause : List Diagnostic → Option Failure} {value : Value}
    (settled : Settled s session cause calls (.ok value)) :
    Accepted s (program s session) calls := by
  generalize done : (Except.ok value : Except Failure Value) = r at settled
  cases settled with
  | broken _ | refused _ _ => cases done
  | @taken _ _ raw warnings _ pass delivery =>
    subst done
    generalize done : (Except.ok value : Except Failure Value) = r at delivery
    cases pass with
    | @compiled spec compiler _ _ =>
      cases delivery with
      | unsorted _ | untold _ _ | unmarked _ _ _ => cases done
      | @deployed _ told own contracts answer _ telling named marks =>
        cases answer with
        | error e => cases done
        | ok results =>
          have marked := marked_of_ready named marks
          exact ⟨[.found spec (.ok compiler)], compiler, raw, warnings, told, contracts, results,
            [], rfl, telling.warned rfl, marked, (valueIn_eq_ok.mp done.symm).1⟩

/-- **A run with a value leaves an accepted program behind.** -/
theorem Course.accepted {statement final : Statement} {value : Value}
    (course : Course s session statement calls (.ok value) final) :
    Accepted s (program s (session.push final)) calls := by
  generalize done : (Except.ok value : Except Failure Value) = r at course
  cases course with
  | once settled =>
    subst done
    exact settled.accepted
  | again _ _ _ settled =>
    subst done
    exact settled.accepted.after _

theorem Founded.nil (s : Settings) (calls : List Call) : Founded s [] calls := by
  intro front begins some
  exact absurd (List.prefix_nil.mp begins) some

theorem Founded.append (founded : Founded s session calls) (more : List Call) :
    Founded s session (calls ++ more) :=
  fun front begins some => (founded front begins some).append more

theorem Founded.pop (founded : Founded s session calls) : Founded s session.pop calls :=
  fun front begins some => founded front (begins.trans (List.dropLast_prefix session)) some

theorem Founded.push {final : Statement} (founded : Founded s session calls)
    (accepted : Accepted s (program s (session.push final)) more) :
    Founded s (session.push final) (calls ++ more) := by
  intro front begins some
  obtain rfl | begins := List.prefix_concat_iff.mp begins
  · exact accepted.after calls
  · exact (founded front begins some).append more

/-- From a desk, some inputs have these answers and lead to another desk, with and without a
journal. -/
structure Leads {α : Type} (ok : W → Prop) (s : Settings) (plain : α × Desk W)
    (double : List Call → α × Desk (W × List Call)) (d : Desk W) (calls : List Call) : Prop where
  written : ∀ journal, double journal = (plain.1, plain.2.noted (journal ++ calls))
  stays : ok plain.2.world
  founds : ∀ earlier, Founded s d.session earlier → Founded s plain.2.session (earlier ++ calls)

variable {ok : W → Prop} {tools : Tools W}

/-- **One input keeps a session founded.** -/
theorem enter_leads (apart : tools.Apart ok) (s : Settings) {d : Desk W} (h : ok d.world)
    (input : Input) :
    ∃ calls, Leads ok s (enter tools s d input)
      (fun journal => enter tools.journaled s (d.noted journal) input) d calls := by
  cases input with
  | undo =>
    refine ⟨[], fun journal => by simp [enter, noted], h, fun earlier founded => ?_⟩
    rw [List.append_nil]
    exact founded.pop
  | reset =>
    exact ⟨[], fun journal => by simp [enter, noted], h, fun earlier _ => .nil s _⟩
  | run text =>
    obtain ⟨final, r, after, ran⟩ := run_ran apart s (.ofText text none) h
    have same : enter tools s d (.run text) = (some r, after) := by
      simp only [enter, ran.goes.run]
    rw [same]
    refine ⟨asked tools s (.ofText text none) d, fun journal => ?_, ran.goes.stays,
      fun earlier founded => ?_⟩
    · simp only [enter, ran.goes.written]
    · show Founded s after.session _
      rw [ran.session]
      cases r with
      | ok value => exact founded.push ran.course.accepted
      | error e => exact founded.append _

/-- Inputs keep a session founded, by induction on them. -/
theorem enterAll_leads (apart : tools.Apart ok) (s : Settings) {d : Desk W} (h : ok d.world)
    (inputs : List Input) :
    ∃ calls, Leads ok s (enterAll tools s d inputs)
      (fun journal => enterAll tools.journaled s (d.noted journal) inputs) d calls := by
  induction inputs generalizing d with
  | nil =>
    refine ⟨[], fun journal => by simp [enterAll], h, fun earlier founded => ?_⟩
    rw [List.append_nil]
    exact founded
  | cons input rest ih =>
    obtain ⟨calls, first⟩ := enter_leads apart s h input
    obtain ⟨more, later⟩ := ih first.stays
    refine ⟨calls ++ more, fun journal => ?_, later.stays, fun earlier founded => ?_⟩
    · simp only [enterAll, first.written, later.written, List.append_assoc]
    · rw [← List.append_assoc]
      exact later.founds _ (first.founds earlier founded)

/-- **Every session is made of programs that ran.** After any inputs, every beginning of the session
has a program that was compiled and deployed on the way; so has the session itself; and after one
more run with a value, the program of the session is the last one that was made. -/
theorem session_founded (apart : tools.Apart ok) (s : Settings) (inputs : List Input) (d : Desk W)
    (h : ok d.world) (empty : d.session = []) :
    let after := (enterAll tools s d inputs).2
    (∀ front, front <+: after.session → front ≠ [] →
      Accepted s (program s front) (history tools s d inputs)) ∧
    (after.session ≠ [] → Accepted s (program s after.session) (history tools s d inputs)) ∧
    ∀ text value last, (run tools s (.ofText text none)).run after = (.ok value, last) →
      last.lastSource = some (program s last.session) := by
  obtain ⟨calls, leads⟩ := enterAll_leads apart s h inputs
  have written : history tools s d inputs = calls := by
    rw [history, leads.written, List.nil_append]
    rfl
  have founded : Founded s (enterAll tools s d inputs).2.session calls :=
    leads.founds [] (empty ▸ .nil s [])
  rw [written]
  refine ⟨founded, founded _ List.prefix_rfl, fun text value last ran => ?_⟩
  obtain ⟨final, r, after', running⟩ := run_ran apart s (.ofText text none) leads.stays
  rw [running.goes.run] at ran
  obtain ⟨rfl, rfl⟩ := Prod.mk.inj ran
  rw [running.lastSource, running.session, sessionAfter]

/-- A declaration that is taken is a session whose program ran. -/
theorem session_founded_declaration :
    let script := [CompileResult.ok [("MainContract", default)] []]
    (enterAll (Tools.scripted .nothing) .default { world := script } [.run "uint x;"]).2.session ≠
        [] ∧
      Accepted .default
        (program .default
          (enterAll (Tools.scripted .nothing) .default { world := script }
            [.run "uint x;"]).2.session)
        (history (Tools.scripted .nothing) .default { world := script } [.run "uint x;"]) := by
  intro script
  have founded := session_founded (Tools.scripted_apart .nothing) .default [.run "uint x;"]
    { world := script } trivial rfl
  have some : (enterAll (Tools.scripted .nothing) .default { world := script }
      [.run "uint x;"]).2.session ≠ [] := by decide
  exact ⟨some, founded.2.1 some⟩

end Desk

end SolidityRepl
