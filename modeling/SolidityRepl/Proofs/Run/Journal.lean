import SolidityRepl.Run
import SolidityRepl.Proofs.Act

/-!
# The journal of a run

What a run asks of its tools is seen by giving it tools that write every question and its answer
into a journal. The journal changes nothing: the same run without it gives the same answer and
leaves the same desk behind.
-/

namespace SolidityRepl

/-- A question to the tools, and the answer. Notes are no questions. -/
inductive Call where
  | found (range : String) (answer : Except Failure Compiler)
  | compiled (compiler : Compiler) (sources : Keyed Json) (machine : Json)
      (answer : Except Failure CompileResult)
  | warned (warning : Diagnostic) (answer : Except Failure Unit)
  | deployed (contracts : Keyed Contract) (answer : Except Failure (Keyed Deployed))

namespace Call

def failure? : Call → Option Failure
  | .found _ (.error e) | .compiled _ _ _ (.error e) | .warned _ (.error e)
  | .deployed _ (.error e) => some e
  | _ => none

def found? : Call → Option String
  | .found range _ => some range
  | _ => none

def compiled? : Call → Option (Keyed Json × Except Failure CompileResult)
  | .compiled _ sources _ answer => some (sources, answer)
  | _ => none

def deployed? : Call → Option (Keyed Contract)
  | .deployed contracts _ => some contracts
  | _ => none

end Call

namespace Tools

variable {W : Type}

/-- An act that is written down with its answer. -/
def writing {α : Type} (call : Except Failure α → Call) (act : Act W α) :
    Act (W × List Call) α :=
  Act.ofRun fun w =>
    let (r, world) := act.run w.1
    (r, (world, w.2 ++ [call r]))

/-- The same tools with a journal of what they were asked. -/
def journaled (tools : Tools W) : Tools (W × List Call) where
  compilerFor range := writing (.found range) (tools.compilerFor range)
  compile compiler sources machine :=
    writing (.compiled compiler sources machine) (tools.compile compiler sources machine)
  deploy contracts := writing (.deployed contracts) (tools.deploy contracts)
  warn warning := writing (.warned warning) (tools.warn warning)
  note notice := Act.zoom Prod.fst (fun world w => (world, w.2)) (tools.note notice)
  interjected w :=
    let (statements, world) := tools.interjected w.1
    (statements, (world, w.2))

/-- Tools that put nothing into the session and take every note, in all worlds that are `ok`, which
they do not leave. They may answer and fail as they like. -/
structure Apart (tools : Tools W) (ok : W → Prop) : Prop where
  compilerFor : ∀ range w, ok w → ok ((tools.compilerFor range).run w).2
  compile : ∀ compiler sources machine w, ok w →
    ok ((tools.compile compiler sources machine).run w).2
  deploy : ∀ contracts w, ok w → ok ((tools.deploy contracts).run w).2
  warn : ∀ warning w, ok w → ok ((tools.warn warning).run w).2
  note : ∀ notice w, ok w →
    ((tools.note notice).run w).1 = .ok () ∧ ok ((tools.note notice).run w).2
  interjected : ∀ w, ok w → (tools.interjected w).1 = [] ∧ ok (tools.interjected w).2

/-- A compiler that says one result after the other, whatever it is given, and a chain that takes
every contract and finds one value. -/
def scripted (value : Value) : Tools (List CompileResult) where
  compilerFor _ := pure default
  compile _ _ _ := Act.ofRun fun
    | [] => (.error .unsupported, [])
    | result :: rest => (.ok result, rest)
  deploy contracts := pure (contracts.map fun c => (c.1, { contract := c.2, value }))
  warn _ := pure ()
  note _ := pure ()
  interjected script := ([], script)

theorem scripted_apart (value : Value) : (scripted value).Apart fun _ => True where
  compilerFor _ _ _ := trivial
  compile _ _ _ _ _ := trivial
  deploy _ _ _ := trivial
  warn _ _ _ := trivial
  note _ _ _ := ⟨rfl, trivial⟩
  interjected _ _ := ⟨rfl, trivial⟩

end Tools

namespace Desk

variable {W : Type} {ok : W → Prop} {α β : Type}

def noted (d : Desk W) (journal : List Call) : Desk (W × List Call) where
  session := d.session
  lastSource := d.lastSource
  lastWarnings := d.lastWarnings
  world := (d.world, journal)

/-- From a desk, an act and its double with a journal give the same answer and leave the same desk
behind, and the double writes some calls. The world stays `ok`. -/
structure Goes (ok : W → Prop) (act : Act (Desk W) α) (double : Act (Desk (W × List Call)) α)
    (d : Desk W) (calls : List Call) (r : Except Failure α) (after : Desk W) : Prop where
  run : act.run d = (r, after)
  written : ∀ journal, double.run (d.noted journal) = (r, after.noted (journal ++ calls))
  stays : ok after.world

namespace Goes

variable {act : Act (Desk W) α} {double : Act (Desk (W × List Call)) α}
  {next : α → Act (Desk W) β} {nextDouble : α → Act (Desk (W × List Call)) β}
  {d mid after : Desk W} {calls more : List Call}

theorem pure {a : α} (h : ok d.world) :
    Goes ok (Pure.pure a : Act (Desk W) α) (Pure.pure a) d [] (.ok a) d :=
  ⟨rfl, fun journal => by simp, h⟩

theorem ofExcept {r r' : Except Failure α} (h : ok d.world) (same : r = r') :
    Goes ok (Act.ofExcept r) (Act.ofExcept r) d [] r' d := by
  subst same
  exact ⟨rfl, fun journal => by simp, h⟩

theorem bind {a : α} {r : Except Failure β} (first : Goes ok act double d calls (.ok a) mid)
    (second : Goes ok (next a) (nextDouble a) mid more r after) :
    Goes ok (act >>= next) (double >>= nextDouble) d (calls ++ more) r after where
  run := (Act.run_bind_ok first.run).trans second.run
  written journal := by
    rw [Act.run_bind_ok (first.written journal), second.written, List.append_assoc]
  stays := second.stays

/-- The second act asks nothing. -/
theorem bind_silent {a : α} {r : Except Failure β} (first : Goes ok act double d calls (.ok a) mid)
    (second : Goes ok (next a) (nextDouble a) mid [] r after) :
    Goes ok (act >>= next) (double >>= nextDouble) d calls r after := by
  have both := first.bind second
  rwa [List.append_nil] at both

theorem bind_error {e : Failure} (first : Goes ok act double d calls (.error e) mid) :
    Goes ok (act >>= next) (double >>= nextDouble) d calls (.error e) mid where
  run := Act.run_bind_error first.run
  written journal := Act.run_bind_error (first.written journal)
  stays := first.stays

end Goes

end Desk

end SolidityRepl
