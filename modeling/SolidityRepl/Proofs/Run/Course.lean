import SolidityRepl.Proofs.Run.Journal

/-!
# The course of a run

Everything a run can do, told by the questions it asks and the answers it gets, without a word about
sessions that change or worlds. That runs do no more is proved in `Stages`, and proofs about runs
start from here.
-/

namespace SolidityRepl.Desk

def program (s : Settings) (session : Session) : String := (Frame.ofSettings s).render session

/-- The sources that a compiler is given for a session. -/
def sources (s : Settings) (session : Session) : Keyed Json :=
  [((Frame.ofSettings s).unitName, Import.sourceOf (program s session))]

/-- The warnings that are passed on. If there are none at all, the setting is not read. -/
def kept (s : Settings) (warnings : List Diagnostic) : Except Failure (List Diagnostic) :=
  if warnings.isEmpty then .ok []
  else (s.read .ignoredWarnings).parts >>= fun ignored => passedOn ignored warnings

/-- The contracts of a program, ready to be deployed. -/
def ready (s : Settings) (contracts : Keyed Contract) : Except Failure (Keyed Contract) :=
  ownName s >>= fun own => marked own (entryName s) contracts

/-- One try of the program of a session. -/
inductive Pass (s : Settings) (session : Session) : List Call → Except Failure CompileResult → Prop
  | noRange {e : Failure} (range : range s session = .error e) : Pass s session [] (.error e)
  | noCompiler {spec : String} {e : Failure} (range : range s session = .ok spec) :
      Pass s session [.found spec (.error e)] (.error e)
  | compiled {spec : String} {compiler : Compiler} {r : Except Failure CompileResult}
      (range : range s session = .ok spec) :
      Pass s session
        [.found spec (.ok compiler),
          .compiled compiler (sources s session) (s.read .evmVersion) r] r

/-- Warnings passed on, one after the other, until somebody will not take one. -/
inductive Told : List Diagnostic → List Call → Except Failure Unit → Prop
  | all : Told [] [] (.ok ())
  | next {warning : Diagnostic} {rest : List Diagnostic} {calls : List Call}
      {r : Except Failure Unit} (told : Told rest calls r) :
      Told (warning :: rest) (.warned warning (.ok ()) :: calls) r
  | refused {warning : Diagnostic} {rest : List Diagnostic} {e : Failure} :
      Told (warning :: rest) [.warned warning (.error e)] (.error e)

/-- What comes after a program is taken. -/
inductive Delivery (s : Settings) (contracts : Keyed Contract) (warnings : List Diagnostic) :
    List Call → Except Failure Value → Prop
  | unsorted {e : Failure} (sorted : kept s warnings = .error e) :
      Delivery s contracts warnings [] (.error e)
  | untold {passed : List Diagnostic} {calls : List Call} {e : Failure}
      (sorted : kept s warnings = .ok passed) (told : Told passed calls (.error e)) :
      Delivery s contracts warnings calls (.error e)
  | unmarked {passed : List Diagnostic} {calls : List Call} {e : Failure}
      (sorted : kept s warnings = .ok passed) (told : Told passed calls (.ok ()))
      (marks : ready s contracts = .error e) : Delivery s contracts warnings calls (.error e)
  | deployed {passed : List Diagnostic} {calls : List Call} {own : String}
      {marks : Keyed Contract} {answer : Except Failure (Keyed Deployed)}
      (sorted : kept s warnings = .ok passed) (told : Told passed calls (.ok ()))
      (named : ownName s = .ok own) (marked : marked own (entryName s) contracts = .ok marks) :
      Delivery s contracts warnings (calls ++ [.deployed marks answer]) (answer >>= valueIn own)

/-- The pass after which nothing is tried again. `cause` says what a refused program fails with. -/
inductive Settled (s : Settings) (session : Session) (cause : List Diagnostic → Option Failure) :
    List Call → Except Failure Value → Prop
  | broken {calls : List Call} {e : Failure} (pass : Pass s session calls (.error e)) :
      Settled s session cause calls (.error e)
  | taken {calls more : List Call} {contracts : Keyed Contract} {warnings : List Diagnostic}
      {r : Except Failure Value} (pass : Pass s session calls (.ok (.ok contracts warnings)))
      (delivery : Delivery s contracts warnings more r) : Settled s session cause (calls ++ more) r
  | refused {calls : List Call} {remarks : List Diagnostic} {e : Failure}
      (pass : Pass s session calls (.ok (.failed remarks))) (fails : cause remarks = some e) :
      Settled s session cause calls (.error e)

/-- The cause of failure, if nothing can be learnt from a refused program. -/
def hopeless (statement : Statement) (source : String) (remarks : List Diagnostic) :
    Option Failure :=
  match lesson statement source remarks with
  | .error e => some e
  | .ok .wrong => some (.compileFailed remarks)
  | .ok (.unclear _) => some (.inconsistent remarks)
  | .ok (.type _) => none

/-- A whole run of a statement on a session. The last part is the statement as it is in the end. -/
inductive Course (s : Settings) (session : Session) (statement : Statement) :
    List Call → Except Failure Value → Statement → Prop
  | once {calls : List Call} {r : Except Failure Value}
      (settled : Settled s (session.push statement)
        (hopeless statement (program s (session.push statement))) calls r) :
      Course s session statement calls r statement
  | again {calls more : List Call} {remarks : List Diagnostic} {type : String} {typed : Statement}
      {r : Except Failure Value}
      (pass : Pass s (session.push statement) calls (.ok (.failed remarks)))
      (learnt : lesson statement (program s (session.push statement)) remarks = .ok (.type type))
      (given : statement.retype type = .ok typed)
      (settled : Settled s (session.push typed) (fun remarks => some (.compileFailed remarks))
        more r) :
      Course s session statement (calls ++ more) r typed

end SolidityRepl.Desk
