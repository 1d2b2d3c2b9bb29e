import SolidityRepl.Proofs.Keyed
import SolidityRepl.Proofs.Program
import SolidityRepl.Proofs.Run.Lesson
import SolidityRepl.Proofs.Run.Rollback

/-!
# The two passes of a run

* `sought`, `tried`, `shipped`: the three kinds of questions among the calls of a run;
* `TwoPasses`: which programs are compiled and deployed, and what a refused one comes to;
* `run_two_passes`: all runs are so.
-/

namespace SolidityRepl.Desk

/-! ## What is told of a run -/

/-- The ranges that compilers were asked for. -/
def sought (calls : List Call) : List String := calls.filterMap Call.found?

/-- The sources that compilers were given, with the answers. -/
def tried (calls : List Call) : List (Keyed Json × Except Failure CompileResult) :=
  calls.filterMap Call.compiled?

def shipped (calls : List Call) : List (Keyed Contract) := calls.filterMap Call.deployed?

/-- The function to call, as it is set. -/
inductive Enters (s : Settings) : Option String → Prop
  | nothing (unset : s.read .entryName = .null) : Enters s none
  | named {name : String} (text : s.read .entryName = .str name) : Enters s (some name)
  | shown (given : s.read .entryName ≠ .null) (other : ∀ name, s.read .entryName ≠ .str name) :
      Enters s (some (s.read .entryName).shown)

/-- The contracts of a program, with the function to call as the entry of the session's own
contract. That contract keeps its place and its other parts, and nothing else is changed. -/
def Marked (s : Settings) (raw contracts : Keyed Contract) : Prop :=
  ∃ own front template back entry, s.read .contractName = .str own ∧ Enters s entry ∧
    raw = front ++ (own, template) :: back ∧ (∀ other ∈ front, other.1 ≠ own) ∧
    contracts = front ++ (own, { template with entry }) :: back

/-- What a deployment says is the value of the session's own contract, if nothing failed. -/
def Finds (s : Settings) (answer : Except Failure (Keyed Deployed)) (value : Value) : Prop :=
  ∃ own results d, s.read .contractName = .str own ∧ answer = .ok results ∧
    (∀ result ∈ results, result.2.error = none) ∧ Keyed.get? own results = some d ∧
    d.value = value

/-- What keeps a program that was taken from being deployed: its warnings cannot be sorted, one of
them is not passed on, or the session's own contract is not there. -/
def Withheld (s : Settings) (raw : Keyed Contract) (warnings : List Diagnostic) (calls : List Call)
    (e : Failure) : Prop :=
  kept s warnings = .error e ∨ (∃ warning, calls.getLast? = some (.warned warning (.error e))) ∨
    ∀ own, s.read .contractName = .str own → own ∉ Keyed.keys raw

/-- Nothing is deployed, and the run fails; or the contracts of the program that was taken last are
deployed, after everything else, and the value that is found is the value of the run. -/
def DeploysLast (s : Settings) (calls : List Call) (r : Except Failure Value) : Prop :=
  (shipped calls = [] ∧ ∃ e, r = .error e ∧ ∀ sources raw warnings,
    (tried calls).getLast? = some (sources, .ok (.ok raw warnings)) →
      Withheld s raw warnings calls e) ∨
  ∃ front contracts answer sources raw warnings,
    calls = front ++ [.deployed contracts answer] ∧ shipped front = [] ∧
    (tried calls).getLast? = some (sources, .ok (.ok raw warnings)) ∧ Marked s raw contracts ∧
    ∀ value, r = .ok value ↔ Finds s answer value

/-- No compiler is found: there is no range to ask with, or who is asked has none. -/
def Unfound (s : Settings) (session : Session) (calls : List Call) (e : Failure) : Prop :=
  range s session = .error e ∧ calls = [] ∨
    ∃ spec, range s session = .ok spec ∧ calls = [.found spec (.error e)]

/-- The first program of a run was refused. -/
def Refused (s : Settings) (session : Session) (statement : Statement) (calls : List Call)
    (remarks : List Diagnostic) : Prop :=
  (tried calls).head? = some (sources s (session.push statement), .ok (.failed remarks))

/-- The statement with a type that is not changed any more. An empty type is none. -/
def given (statement : Statement) (type : String) : Statement :=
  { statement with type := if type = "" then none else some type, inferred := true }

/-- The two passes of a run, told by its calls and its answer. -/
structure TwoPasses (s : Settings) (session : Session) (statement : Statement) (calls : List Call)
    (r : Except Failure Value) : Prop where
  /-- Two programs are compiled at most. -/
  twice : (tried calls).length ≤ 2 ∧ (sought calls).length ≤ 2
  /-- One of them is deployed at most: the last one, and nothing comes after that. -/
  once : (shipped calls).length ≤ 1
  deploys : DeploysLast s calls r
  /-- Nothing is compiled only if no compiler is found. -/
  starts : tried calls = [] → ∃ e, r = .error e ∧ Unfound s (session.push statement) calls e
  /-- The first program is that of the session with the statement. -/
  first : ∀ pass, (tried calls).head? = some pass → pass.1 = sources s (session.push statement)
  /-- There is a second pass exactly if the first program was refused and that teaches a type. -/
  again : (sought calls).length = 2 ↔ ∃ remarks type, Refused s session statement calls remarks ∧
    Teaches statement (program s (session.push statement)) remarks type
  /-- Nothing is compiled after a program that was taken, or that was refused for another reason. -/
  taught : (tried calls).length = 2 → ∃ remarks type, Refused s session statement calls remarks ∧
    Teaches statement (program s (session.push statement)) remarks type
  /-- Then the statement gets that type, and its program is compiled if a compiler is found. -/
  second : ∀ remarks type, Refused s session statement calls remarks →
    Teaches statement (program s (session.push statement)) remarks type →
    (∃ answer, tried calls = [(sources s (session.push statement), .ok (.failed remarks)),
      (sources s (session.push (given statement type)), answer)]) ∨
    ∃ spec e, calls.getLast? = some (.found spec (.error e)) ∧ r = .error e ∧
      tried calls = [(sources s (session.push statement), .ok (.failed remarks))]
  /-- Otherwise the refusal is what the run fails with, unless the complaint is unclear. -/
  refused : ∀ remarks, Refused s session statement calls remarks →
    (∀ type, ¬Teaches statement (program s (session.push statement)) remarks type) →
    shipped calls = [] ∧
    (r = .error (.inconsistent remarks) ↔ Baffles statement remarks) ∧
    (r = .error .wrongType ↔ Mumbles statement remarks) ∧
    (r = .error (.compileFailed remarks) ↔ ¬Baffles statement remarks ∧ ¬Mumbles statement remarks)
  /-- A second refusal is always what the run fails with. -/
  final : ∀ pass sources remarks, tried calls = [pass, (sources, .ok (.failed remarks))] →
    r = .error (.compileFailed remarks)

/-! ## The parts of a run -/

theorem sought_append (calls more : List Call) :
    sought (calls ++ more) = sought calls ++ sought more := List.filterMap_append

theorem tried_append (calls more : List Call) :
    tried (calls ++ more) = tried calls ++ tried more := List.filterMap_append

theorem shipped_append (calls more : List Call) :
    shipped (calls ++ more) = shipped calls ++ shipped more := List.filterMap_append

variable {s : Settings} {session : Session} {statement : Statement} {calls more : List Call}

/-- The first program of a run is refused once. -/
theorem Refused.unique {remarks remarks' : List Diagnostic}
    (refused : Refused s session statement calls remarks)
    (refused' : Refused s session statement calls remarks') : remarks' = remarks := by
  rw [Refused, refused] at refused'
  cases refused'
  rfl

/-- What a refused program fails with if it teaches nothing. -/
theorem hopeless_some {source : String} {remarks : List Diagnostic} {e : Failure}
    (fails : hopeless statement source remarks = some e) :
    (∀ type, ¬Teaches statement source remarks type) ∧
      (e = .inconsistent remarks ∧ Baffles statement remarks ∧ ¬Mumbles statement remarks ∨
        e = .wrongType ∧ ¬Baffles statement remarks ∧ Mumbles statement remarks ∨
        e = .compileFailed remarks ∧ ¬Baffles statement remarks ∧ ¬Mumbles statement remarks) := by
  obtain ⟨type, teaches⟩ | baffles | mumbles | wrong := lesson_sorted statement source remarks
  · simp only [hopeless, lesson_of_teaches teaches, reduceCtorEq] at fails
  · obtain ⟨message, unclear⟩ := lesson_of_baffles source baffles
    simp only [hopeless, unclear, Option.some.injEq] at fails
    refine ⟨fun type teaches => ?_, .inl ⟨fails.symm, baffles, fun mumbles => ?_⟩⟩
    · cases unclear.symm.trans (lesson_of_teaches teaches)
    · cases unclear.symm.trans (lesson_of_mumbles source mumbles)
  · have error := lesson_of_mumbles source mumbles
    simp only [hopeless, error, Option.some.injEq] at fails
    refine ⟨fun type teaches => ?_, .inr (.inl ⟨fails.symm, fun baffles => ?_, mumbles⟩)⟩
    · cases error.symm.trans (lesson_of_teaches teaches)
    · obtain ⟨message, unclear⟩ := lesson_of_baffles source baffles
      cases error.symm.trans unclear
  · simp only [hopeless, wrong, Option.some.injEq] at fails
    refine ⟨fun type teaches => ?_,
      .inr (.inr ⟨fails.symm, fun baffles => ?_, fun mumbles => ?_⟩)⟩
    · cases wrong.symm.trans (lesson_of_teaches teaches)
    · obtain ⟨message, unclear⟩ := lesson_of_baffles source baffles
      cases wrong.symm.trans unclear
    · cases wrong.symm.trans (lesson_of_mumbles source mumbles)

/-- A compiler is asked for wherever there is a range to ask with. -/
theorem Pass.sought {r : Except Failure CompileResult} (pass : Pass s session calls r) :
    sought calls = (range s session).toOption.toList := by
  cases pass with
  | noRange range => rw [range]; rfl
  | noCompiler range => rw [range]; rfl
  | compiled range => rw [range]; rfl

/-- A compiler that answers was given the program. -/
theorem Pass.outline_ok {result : CompileResult} (pass : Pass s session calls (.ok result)) :
    tried calls = [(sources s session, .ok result)] ∧ shipped calls = [] := by
  cases pass with
  | compiled _ => exact ⟨rfl, rfl⟩

/-- A try without an answer fails at a range, at a compiler, or at the compiler's work. -/
theorem Pass.outline_error {e : Failure} (pass : Pass s session calls (.error e)) :
    (tried calls = [(sources s session, .error e)] ∨
      tried calls = [] ∧ Unfound s session calls e) ∧ shipped calls = [] := by
  cases pass with
  | noRange range => exact ⟨.inr ⟨rfl, .inl ⟨range, rfl⟩⟩, rfl⟩
  | noCompiler range => exact ⟨.inr ⟨rfl, .inr ⟨_, range, rfl⟩⟩, rfl⟩
  | compiled _ => exact ⟨.inl rfl, rfl⟩

theorem Told.outline {warnings : List Diagnostic} {r : Except Failure Unit}
    (told : Told warnings calls r) :
    sought calls = [] ∧ tried calls = [] ∧ shipped calls = [] := by
  induction told with
  | all => exact ⟨rfl, rfl, rfl⟩
  | next _ ih => exact ih
  | refused => exact ⟨rfl, rfl, rfl⟩

/-- Warnings are passed on until one is not. -/
theorem Told.getLast?_error {warnings : List Diagnostic} {e : Failure}
    (told : Told warnings calls (.error e)) :
    ∃ warning, calls.getLast? = some (.warned warning (.error e)) := by
  generalize outcome : (.error e : Except Failure Unit) = r at told
  induction told with
  | all => cases outcome
  | next _ ih =>
    obtain ⟨warning, last⟩ := ih outcome
    exact ⟨warning, by rw [List.getLast?_cons, last]; rfl⟩
  | refused =>
    cases outcome
    exact ⟨_, rfl⟩

theorem ownName_eq_ok {own : String} : ownName s = .ok own ↔ s.read .contractName = .str own := by
  rw [ownName]
  split
  · rename_i text
    rw [text, Except.ok.injEq, Json.str.injEq]
  all_goals simp_all

theorem enters_entryName (s : Settings) : Enters s (entryName s) := by
  rw [entryName]
  split
  · rename_i unset
    exact .nothing unset
  · rename_i given
    by_cases text : ∃ name, s.read .entryName = .str name
    · obtain ⟨name, text⟩ := text
      rw [text]
      exact .named text
    · exact .shown given (not_exists.mp text)

theorem marked_of_ready {own : String} {raw contracts : Keyed Contract}
    (named : ownName s = .ok own) (marks : marked own (entryName s) raw = .ok contracts) :
    Marked s raw contracts := by
  rw [marked] at marks
  split at marks
  · cases marks
  · rename_i template found
    cases marks
    obtain ⟨front, back, split, others, placed⟩ :=
      Keyed.exists_put found (template.withEntry (entryName s))
    exact ⟨own, front, template, back, _, ownName_eq_ok.mp named, enters_entryName s, split, others,
      placed⟩

/-- Contracts cannot be made ready only for want of the session's own one. -/
theorem not_mem_of_ready_error {raw : Keyed Contract} {e : Failure}
    (unready : ready s raw = .error e) (own : String) (text : s.read .contractName = .str own) :
    own ∉ Keyed.keys raw := by
  rw [ready, ownName_eq_ok.mpr text] at unready
  have unmarked : marked own (entryName s) raw = .error e := unready
  rw [marked] at unmarked
  split at unmarked
  · rename_i absent
    rw [← Keyed.get?_isSome_iff, absent]
    exact Bool.false_ne_true
  · cases unmarked

/-- A value is found only if nothing went wrong with any contract. -/
theorem valueIn_eq_ok {own : String} {results : Keyed Deployed} {value : Value} :
    valueIn own results = .ok value ↔ (∀ result ∈ results, result.2.error = none) ∧
      ∃ d, Keyed.get? own results = some d ∧ d.value = value := by
  rw [valueIn, ← List.findSome?_eq_none_iff]
  cases results.findSome? fun r => r.2.error with
  | some e => exact ⟨nofun, fun both => nomatch both.1⟩
  | none =>
    cases Keyed.get? own results with
    | none => exact ⟨nofun, fun ⟨_, _, found, _⟩ => nomatch found⟩
    | some d => simp

theorem finds_iff {own : String} {answer : Except Failure (Keyed Deployed)} {value : Value}
    (named : ownName s = .ok own) :
    (answer >>= valueIn own) = .ok value ↔ Finds s answer value := by
  have text := ownName_eq_ok.mp named
  cases answer with
  | error e => exact ⟨nofun, fun ⟨_, _, _, _, answered, _⟩ => nomatch answered⟩
  | ok results =>
    refine valueIn_eq_ok.trans ⟨?_, ?_⟩
    · rintro ⟨fine, d, found, same⟩
      exact ⟨own, results, d, text, rfl, fine, found, same⟩
    · rintro ⟨own', _, d, text', answered, fine, found, same⟩
      cases answered
      obtain rfl : own = own' := Json.str.inj (text.symm.trans text')
      exact ⟨fine, d, found, same⟩

theorem Delivery.outline {raw : Keyed Contract} {warnings : List Diagnostic}
    {r : Except Failure Value} (delivery : Delivery s raw warnings calls r) :
    sought calls = [] ∧ tried calls = [] ∧
      ((shipped calls = [] ∧ ∃ e, r = .error e ∧ Withheld s raw warnings calls e) ∨
        ∃ front contracts answer,
          calls = front ++ [.deployed contracts answer] ∧ shipped front = [] ∧
          Marked s raw contracts ∧ ∀ value, r = .ok value ↔ Finds s answer value) := by
  cases delivery with
  | unsorted unsorted => exact ⟨rfl, rfl, .inl ⟨rfl, _, rfl, .inl unsorted⟩⟩
  | untold _ told =>
    obtain ⟨noRange, noSources, noContracts⟩ := told.outline
    exact ⟨noRange, noSources, .inl ⟨noContracts, _, rfl, .inr (.inl told.getLast?_error)⟩⟩
  | unmarked _ told unready =>
    obtain ⟨noRange, noSources, noContracts⟩ := told.outline
    exact ⟨noRange, noSources,
      .inl ⟨noContracts, _, rfl, .inr (.inr (not_mem_of_ready_error unready))⟩⟩
  | deployed _ told named marks =>
    obtain ⟨noRange, noSources, noContracts⟩ := told.outline
    refine ⟨by rw [sought_append, noRange]; rfl, by rw [tried_append, noSources]; rfl,
      .inr ⟨_, _, _, rfl, noContracts, marked_of_ready named marks, fun _ => finds_iff named⟩⟩

theorem DeploysLast.once {r : Except Failure Value} (last : DeploysLast s calls r) :
    (shipped calls).length ≤ 1 := by
  obtain ⟨none, -⟩ | ⟨front, contracts, answer, _, _, _, rfl, none, -⟩ := last
  · rw [none]
    exact Nat.zero_le _
  · rw [shipped_append, none]
    exact Nat.le_refl _

/-- Nothing is deployed of a program that was not taken. -/
theorem DeploysLast.untaken {e : Failure} (ships : shipped calls = [])
    (untaken : ∀ sources raw warnings,
      (tried calls).getLast? ≠ some (sources, .ok (.ok raw warnings))) :
    DeploysLast s calls (.error e) :=
  .inl ⟨ships, e, rfl, fun _ _ _ taken => absurd taken (untaken _ _ _)⟩

/-! ## One pass -/

/-- What the pass comes to after which nothing is tried again. -/
inductive Ending (s : Settings) (session : Session) (cause : List Diagnostic → Option Failure)
    (calls : List Call) : Except Failure Value → Prop
  | broken {e : Failure}
      (tries : tried calls = [(sources s session, .error e)] ∨
        tried calls = [] ∧ Unfound s session calls e)
      (ships : shipped calls = []) : Ending s session cause calls (.error e)
  | taken {raw : Keyed Contract} {warnings : List Diagnostic} {r : Except Failure Value}
      (tries : tried calls = [(sources s session, .ok (.ok raw warnings))])
      (ships : DeploysLast s calls r) : Ending s session cause calls r
  | refused {remarks : List Diagnostic} {e : Failure} (fails : cause remarks = some e)
      (tries : tried calls = [(sources s session, .ok (.failed remarks))])
      (ships : shipped calls = []) : Ending s session cause calls (.error e)

/-- What comes before makes no difference to what keeps a program from being deployed. -/
theorem Withheld.after {raw : Keyed Contract} {warnings : List Diagnostic} {e : Failure}
    (withheld : Withheld s raw warnings more e) (calls : List Call) :
    Withheld s raw warnings (calls ++ more) e := by
  obtain unsorted | ⟨warning, last⟩ | absent := withheld
  · exact .inl unsorted
  · exact .inr (.inl ⟨warning, by rw [List.getLast?_append, last]; rfl⟩)
  · exact .inr (.inr absent)

theorem Settled.ending {cause : List Diagnostic → Option Failure} {r : Except Failure Value}
    (settled : Settled s session cause calls r) : Ending s session cause calls r := by
  cases settled with
  | broken pass =>
    obtain ⟨tries, ships⟩ := pass.outline_error
    exact .broken tries ships
  | @taken first rest raw warnings _ pass delivery =>
    obtain ⟨tries, ships⟩ := pass.outline_ok
    obtain ⟨-, noSources, shipping⟩ := delivery.outline
    have all : tried (first ++ rest) = [(sources s session, .ok (.ok raw warnings))] := by
      rw [tried_append, tries, noSources, List.append_nil]
    refine .taken all ?_
    obtain ⟨none, e, fails, withheld⟩ | ⟨front, contracts, answer, rfl, none, marks, finds⟩ :=
      shipping
    · refine .inl ⟨by rw [shipped_append, ships, none, List.append_nil], e, fails, ?_⟩
      intro sources raw' warnings' taken
      rw [all] at taken
      cases taken
      exact withheld.after first
    · refine .inr ⟨first ++ front, contracts, answer, sources s session, raw, warnings,
        (List.append_assoc ..).symm, ?_, by rw [all]; rfl, marks, finds⟩
      rw [shipped_append, ships, none, List.append_nil]
  | refused pass fails =>
    obtain ⟨tries, ships⟩ := pass.outline_ok
    exact .refused fails tries ships

theorem Settled.sought {cause : List Diagnostic → Option Failure} {r : Except Failure Value}
    (settled : Settled s session cause calls r) :
    sought calls = (range s session).toOption.toList := by
  cases settled with
  | broken pass => exact pass.sought
  | taken pass delivery => rw [sought_append, pass.sought, delivery.outline.1, List.append_nil]
  | refused pass _ => exact pass.sought

theorem length_toOption_toList_le {α β : Type} (r : Except α β) : r.toOption.toList.length ≤ 1 := by
  cases r <;> simp [Except.toOption]

/-- A run with one pass that was not refused. -/
theorem TwoPasses.of_unrefused {r : Except Failure Value} (one : (Desk.sought calls).length ≤ 1)
    (tries : (tried calls = [] ∧ ∃ e, r = .error e ∧ Unfound s (session.push statement) calls e) ∨
      ∃ answer, tried calls = [(sources s (session.push statement), answer)] ∧
        ∀ remarks, answer ≠ .ok (.failed remarks))
    (ships : DeploysLast s calls r) : TwoPasses s session statement calls r := by
  have taken : ∀ remarks, ¬Refused s session statement calls remarks := by
    intro remarks refused
    obtain ⟨none, -⟩ | ⟨answer, tries, fine⟩ := tries
    · rw [Refused, none] at refused
      cases refused
    · rw [Refused, tries] at refused
      cases refused
      exact fine remarks rfl
  have few : (tried calls).length ≤ 1 := by
    obtain ⟨none, -⟩ | ⟨answer, tries, -⟩ := tries
    · simp [none]
    · simp [tries]
  refine ⟨⟨by omega, by omega⟩, ships.once, ships, fun idle => ?_, fun pass found => ?_, ?_,
    fun two => by omega, ?_, ?_, ?_⟩
  · obtain ⟨-, unfound⟩ | ⟨answer, tries, -⟩ := tries
    · exact unfound
    · rw [idle] at tries
      cases tries
  · obtain ⟨none, -⟩ | ⟨answer, tries, -⟩ := tries
    · rw [none] at found
      cases found
    · rw [tries] at found
      cases found
      rfl
  · refine ⟨fun two => by omega, ?_⟩
    rintro ⟨remarks, _, refused, -⟩
    exact absurd refused (taken remarks)
  · intro remarks _ refused
    exact absurd refused (taken remarks)
  · intro remarks refused
    exact absurd refused (taken remarks)
  · intro pass sources remarks two
    rw [two] at few
    cases few with
    | step wrong => cases wrong

/-- A run with one pass that was refused and taught nothing. -/
theorem TwoPasses.of_hopeless {remarks : List Diagnostic} {e : Failure}
    (one : (Desk.sought calls).length ≤ 1)
    (fails : hopeless statement (program s (session.push statement)) remarks = some e)
    (tries : tried calls = [(sources s (session.push statement), .ok (.failed remarks))])
    (ships : shipped calls = []) : TwoPasses s session statement calls (.error e) := by
  obtain ⟨untaught, cause⟩ := hopeless_some fails
  have first : Refused s session statement calls remarks := by
    rw [Refused, tries]
    rfl
  refine ⟨⟨by simp [tries], by omega⟩, by simp [ships], .untaken ships (by simp [tries]),
    fun idle => by simp [tries] at idle, fun pass found => ?_, ?_,
    fun two => by simp [tries] at two, ?_, ?_, ?_⟩
  · rw [tries] at found
    cases found
    rfl
  · refine ⟨fun two => by omega, ?_⟩
    rintro ⟨remarks', type, refused, teaches⟩
    obtain rfl := first.unique refused
    exact absurd teaches (untaught type)
  · intro remarks' type refused teaches
    obtain rfl := first.unique refused
    exact absurd teaches (untaught type)
  · intro remarks' refused _
    obtain rfl := first.unique refused
    refine ⟨ships, ?_⟩
    obtain ⟨rfl, baffles, clear⟩ | ⟨rfl, fine, mumbles⟩ | ⟨rfl, fine, clear⟩ := cause
    · simp [baffles, clear]
    · simp [fine, mumbles]
    · simp [fine, clear]
  · intro pass sources remarks' two
    rw [tries] at two
    cases two

/-! ## Two passes -/

theorem DeploysLast.after {r : Except Failure Value} (ships : shipped calls = [])
    (untaken : ∀ sources raw warnings,
      (tried calls).getLast? ≠ some (sources, .ok (.ok raw warnings)))
    (last : DeploysLast s more r) : DeploysLast s (calls ++ more) r := by
  obtain ⟨none, e, fails, withheld⟩ | ⟨front, contracts, answer, sources, raw, warnings, rfl, none,
    tries, marks⟩ := last
  · refine .inl ⟨by rw [shipped_append, ships, none, List.append_nil], e, fails, ?_⟩
    intro sources raw warnings taken
    rw [tried_append, List.getLast?_append, Option.or_eq_some_iff] at taken
    obtain taken | ⟨-, taken⟩ := taken
    · exact (withheld sources raw warnings taken).after calls
    · exact absurd taken (untaken sources raw warnings)
  · refine .inr ⟨calls ++ front, contracts, answer, sources, raw, warnings,
      (List.append_assoc ..).symm, by rw [shipped_append, ships, none, List.append_nil], ?_, marks⟩
    rw [tried_append, List.getLast?_append, tries]
    rfl

theorem pairs_typed {typed : Statement} (becomes : statement.Becomes typed) (session : Session) :
    (session.push typed).pairs = (session.push statement).pairs := by
  obtain ⟨text, scope⟩ := becomes.text_scope
  rw [Session.pairs_push, Session.pairs_push, text, scope]

/-- A statement that was given its type asks for the same compiler. -/
theorem range_typed {typed : Statement} (becomes : statement.Becomes typed) :
    range s (session.push typed) = range s (session.push statement) :=
  range_congr s (pairs_typed becomes session)

/-- What settles an expression compiles its program, unless no compiler is found. -/
theorem Settled.compiles {cause : List Diagnostic → Option Failure} {r : Except Failure Value}
    (settled : Settled s session cause calls r) :
    (∃ answer, tried calls = [(sources s session, answer)]) ∨
      tried calls = [] ∧ ∃ e, r = .error e ∧ Unfound s session calls e := by
  cases settled.ending with
  | @broken e tries _ =>
    obtain tries | ⟨none, unfound⟩ := tries
    · exact .inl ⟨_, tries⟩
    · exact .inr ⟨none, e, rfl, unfound⟩
  | taken tries _ | refused _ tries _ => exact .inl ⟨_, tries⟩

theorem Settled.tried_length {cause : List Diagnostic → Option Failure} {r : Except Failure Value}
    (settled : Settled s session cause calls r) : (tried calls).length ≤ 1 := by
  obtain ⟨answer, tries⟩ | ⟨none, -⟩ := settled.compiles
  · simp [tries]
  · simp [none]

/-- A refusal of what settles an expression is what that fails with. -/
theorem Settled.of_refused {cause : List Diagnostic → Option Failure} {r : Except Failure Value}
    {sources' : Keyed Json} {remarks : List Diagnostic} (settled : Settled s session cause calls r)
    (refuses : tried calls = [(sources', .ok (.failed remarks))]) :
    ∃ e, cause remarks = some e ∧ r = .error e := by
  cases settled.ending with
  | broken tries _ =>
    obtain tries | ⟨none, -⟩ := tries
    · rw [tries] at refuses
      cases refuses
    · rw [none] at refuses
      cases refuses
  | taken tries _ =>
    rw [tries] at refuses
    cases refuses
  | refused fails tries _ =>
    rw [tries] at refuses
    cases refuses
    exact ⟨_, fails, rfl⟩

theorem Settled.deploysLast {cause : List Diagnostic → Option Failure} {r : Except Failure Value}
    (settled : Settled s session cause calls r) : DeploysLast s calls r := by
  cases settled.ending with
  | broken tries ships =>
    obtain tries | ⟨none, -⟩ := tries
    · exact .untaken ships (by simp [tries])
    · exact .untaken ships (by simp [none])
  | refused _ tries ships => exact .untaken ships (by simp [tries])
  | taken _ ships => exact ships

theorem given_of_retype {type : String} {typed : Statement}
    (gives : statement.retype type = .ok typed) : typed = given statement type := by
  obtain ⟨-, -, rfl⟩ := Statement.retype_eq_ok.mp gives
  simp only [given, String.isEmpty_iff]

/-- A run with two passes. -/
theorem TwoPasses.of_taught {remarks : List Diagnostic} {type : String} {typed : Statement}
    {r : Except Failure Value}
    (pass : Pass s (session.push statement) calls (.ok (.failed remarks)))
    (learnt : lesson statement (program s (session.push statement)) remarks = .ok (.type type))
    (gives : statement.retype type = .ok typed)
    (settled : Settled s (session.push typed) (fun remarks => some (.compileFailed remarks))
      more r) : TwoPasses s session statement (calls ++ more) r := by
  obtain ⟨tries, ships⟩ := pass.outline_ok
  have all : tried (calls ++ more) =
      (sources s (session.push statement), .ok (.failed remarks)) :: tried more := by
    rw [tried_append, tries, List.singleton_append]
  obtain ⟨spec, ranged⟩ : ∃ spec, range s (session.push statement) = .ok spec := by
    cases pass with
    | compiled range => exact ⟨_, range⟩
  have ranged' : range s (session.push typed) = .ok spec :=
    (range_typed (.typed gives)).trans ranged
  have seeks : (Desk.sought (calls ++ more)).length = 2 := by
    rw [sought_append, pass.sought, settled.sought, ranged, ranged']
    rfl
  have few := settled.tried_length
  have deploys := settled.deploysLast.after ships (by simp [tries])
  have teaches := lesson_type_iff.mp learnt
  have first : Refused s session statement (calls ++ more) remarks := by
    rw [Refused, all]
    rfl
  refine ⟨⟨by simp only [all, List.length_cons]; omega, seeks.le⟩, deploys.once, deploys,
    fun idle => by simp [all] at idle, fun pass found => ?_, ⟨fun _ => ⟨remarks, type, first, teaches⟩, fun _ => seeks⟩,
    fun _ => ⟨remarks, type, first, teaches⟩, ?_, ?_, ?_⟩
  · rw [all] at found
    cases found
    rfl
  · intro remarks' type' refused teaches'
    obtain rfl := first.unique refused
    have learnt' := lesson_type_iff.mpr teaches'
    rw [learnt] at learnt'
    cases learnt'
    rw [all, ← given_of_retype gives]
    obtain ⟨answer, tries'⟩ | ⟨none, missing⟩ := settled.compiles
    · exact .inl ⟨answer, by rw [tries']⟩
    · obtain ⟨e, fails, ⟨unranged, -⟩ | ⟨spec, -, rfl⟩⟩ := missing
      · rw [ranged'] at unranged
        cases unranged
      · refine .inr ⟨spec, e, ?_, fails, by rw [none]⟩
        rw [List.getLast?_append]
        rfl
  · intro remarks' refused untaught
    obtain rfl := first.unique refused
    exact absurd teaches (untaught type)
  · intro pass' sources' remarks' two
    rw [all, List.cons.injEq] at two
    obtain ⟨e, fails, ended⟩ := settled.of_refused two.2
    cases fails
    exact ended

theorem Course.two_passes {final : Statement} {r : Except Failure Value}
    (course : Course s session statement calls r final) :
    TwoPasses s session statement calls r := by
  cases course with
  | once settled =>
    have one : (Desk.sought calls).length ≤ 1 := by
      rw [settled.sought]
      exact length_toOption_toList_le _
    cases settled.ending with
    | broken tries _ =>
      refine .of_unrefused one ?_ settled.deploysLast
      obtain tries | ⟨none, unfound⟩ := tries
      · exact .inr ⟨_, tries, fun _ => nofun⟩
      · exact .inl ⟨none, _, rfl, unfound⟩
    | taken tries ships => exact .of_unrefused one (.inr ⟨_, tries, fun _ => nofun⟩) ships
    | refused fails tries ships => exact .of_hopeless one fails tries ships
  | again pass learnt given settled => exact .of_taught pass learnt given settled

variable {W : Type} {ok : W → Prop} {tools : Tools W}

/-- **Every run goes through one pass or two.** A complaint that is one sentence, with a type on one
line, teaches that type. -/
theorem run_two_passes (apart : tools.Apart ok) (s : Settings) (statement : Statement) (d : Desk W)
    (h : ok d.world) :
    TwoPasses s d.session statement (asked tools s statement d)
        ((run tools s statement).run d).1 ∧
      ∀ remarks type rest, Open statement →
        LastComplaint remarks (.str (String.ofList ("Return argument type ".toList ++
          (type ++ (" is not implicitly convertible to expected type".toList ++ rest))))) →
        '\n' ∉ type → ¬ReturnType.afterType <:+: rest.takeWhile (· != '\n') →
        Teaches statement (program s (d.session.push statement)) remarks
          (ReturnType.declared (String.ofList type)) := by
  obtain ⟨final, r, after, ran⟩ := run_ran apart s statement h
  rw [ran.goes.run]
  exact ⟨ran.course.two_passes, fun _ _ _ => teaches_plain _⟩

def three : Statement := { text := "3;", scope := .main, type := some Statement.placeholder }

def complaint : Diagnostic where
  severity := .str "error"
  category := .str "TypeError"
  message := .str (String.ofList (ReturnType.beforeType ++
    ("int_const 3".toList ++ (ReturnType.afterType ++ " bool.".toList))))
  formatted := .str ""

/-- A number is refused under the placeholder type, which teaches its own, so there is a second
pass. -/
theorem run_two_passes_three :
    Open three ∧ '\n' ∉ "int_const 3".toList ∧
      ¬ReturnType.afterType <:+: " bool.".toList.takeWhile (· != '\n') ∧
      Teaches three (program .default (Session.push [] three)) [complaint] "uint" ∧
      (sought (asked (Tools.scripted .nothing) .default three
        { world := [.failed [complaint]] })).length = 2 := by
  have run := run_two_passes (Tools.scripted_apart .nothing) .default three
    { world := [.failed [complaint]] } trivial
  have isOpen : Open three := ⟨nofun, rfl⟩
  have fine : '\n' ∉ "int_const 3".toList := by decide
  have once : ¬ReturnType.afterType <:+: " bool.".toList.takeWhile (· != '\n') := by decide
  have last : LastComplaint [complaint] complaint.message :=
    ⟨[], complaint, [], rfl, rfl, nofun, rfl⟩
  have teaches := run.2 [complaint] _ _ isOpen last fine once
  refine ⟨isOpen, fine, once, ?_, run.1.again.mpr ⟨[complaint], _, rfl, teaches⟩⟩
  have uint : ReturnType.declared (String.ofList "int_const 3".toList) = "uint" := by decide
  rwa [uint] at teaches

end SolidityRepl.Desk
