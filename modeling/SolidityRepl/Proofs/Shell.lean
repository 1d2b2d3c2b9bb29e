import SolidityRepl.Shell
import SolidityRepl.Proofs.Run.History

/-!
# Shells as desks

What is entered in a shell is entered at its desk, with the tools of its bench. A bench whose
backend puts no statements into sessions leaves them alone.
-/

namespace SolidityRepl

namespace Bench

variable {O T : Type} [Duration T]

/-- A venue that puts no statements into sessions. Only a plugged one could. -/
def Keeps (venue : Venue O T) : Prop :=
  ∀ plugin, venue = .plugged plugin → ∀ outside, (plugin.interjected outside).1 = []

/-- Deploying leaves a venue of its kind. -/
theorem deployAt_keeps (host : Host O) (gas : GasLimits) (contracts : Keyed Contract)
    (b : Backend.At O T) (h : Keeps b.1.venue) :
    Keeps ((Backend.deployAt host gas contracts b.1.venue).run b).2.1.venue := by
  cases venue : b.1.venue with
  | simulated _ | remote _ _ | own _ _ =>
    rintro plugin ⟨⟩
  | plugged plugin =>
    simp only [Backend.deployAt, Backend.byHost, Act.run_zoom]
    exact h

theorem deploy_keeps (host : Host O) (contracts : Keyed Contract) (b : Backend.At O T)
    (h : Keeps b.1.venue) : Keeps ((Backend.deploy host contracts).run b).2.1.venue := by
  have kept := deployAt_keeps host b.1.gas contracts b h
  simp only [Backend.deploy, Act.run_bind, Act.run_get]
  generalize (Backend.deployAt host b.1.gas contracts b.1.venue).run b = answered at kept
  obtain ⟨r, after⟩ := answered
  cases r with
  | error e => exact kept
  | ok results => exact kept

/-- **The tools of a bench leave the session alone** if its venue does. -/
theorem tools_apart (host : Host O) :
    (tools (T := T) host).Apart fun b : Bench O T => Keeps b.backend.venue where
  compilerFor _ _ h := h
  compile _ _ _ _ h := h
  deploy contracts b h := deploy_keeps host contracts (b.backend, b.world) h
  warn warning b h := by
    simp only [tools, warn, Act.run_bind, Act.run_get]
    split
    · exact h
    · cases warning.shown? <;> exact h
  note _ _ h := ⟨rfl, h⟩
  interjected b h := by
    simp only [tools, interjected]
    split
    · rename_i plugin venue
      exact ⟨h plugin venue _, h⟩
    · exact ⟨rfl, h⟩

end Bench

namespace Shell

variable {O T : Type} [Duration T]

/-- One input at a shell. A run has an answer. -/
def enter (host : Host O) (shell : Shell O T) : Input → Option (Except Failure Value) × Shell O T
  | .run text =>
    let (r, after) := (run host text).run shell
    (some r, after)
  | .undo => (none, (undo.run shell).2)
  | .reset => (none, (reset.run shell).2)

def enterAll (host : Host O) (shell : Shell O T) :
    List Input → List (Option (Except Failure Value)) × Shell O T
  | [] => ([], shell)
  | input :: rest =>
    let (answer, mid) := enter host shell input
    let (answers, after) := enterAll host mid rest
    (answer :: answers, after)

theorem enter_desk (host : Host O) (shell : Shell O T) (input : Input) :
    enter host shell input =
      let (answer, desk) := Desk.enter (Bench.tools host) shell.settings shell.desk input
      (answer, { shell with desk }) := by
  cases input <;> rfl

/-- **A shell does what its desk does.** -/
theorem enterAll_desk (host : Host O) (shell : Shell O T) (inputs : List Input) :
    enterAll host shell inputs =
      let (answers, desk) := Desk.enterAll (Bench.tools host) shell.settings shell.desk inputs
      (answers, { shell with desk }) := by
  induction inputs generalizing shell with
  | nil => rfl
  | cons input rest ih =>
    simp only [enterAll, Desk.enterAll, enter_desk, ih]

/-- **What a shell shows as its program has run.** -/
theorem template_accepted (host : Host O) (shell : Shell O T) (inputs : List Input)
    (keeps : Bench.Keeps shell.desk.world.backend.venue) (empty : shell.desk.session = [])
    (some : (enterAll host shell inputs).2.desk.session ≠ []) :
    Desk.Accepted shell.settings (enterAll host shell inputs).2.template
      (Desk.history (Bench.tools host) shell.settings shell.desk inputs) := by
  have founded := Desk.session_founded (Bench.tools_apart host) shell.settings inputs shell.desk
    keeps empty
  rw [enterAll_desk] at some ⊢
  exact founded.2.1 some

end Shell

end SolidityRepl
