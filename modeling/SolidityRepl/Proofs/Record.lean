import Mathlib.Data.List.Forall2
import SolidityRepl.Proofs.Replay
import SolidityRepl.Proofs.Shell.Change

/-!
# Records that are loaded

A record may have been written by anybody, with white space between its parts and its texts spelled
in any way. What it is read as is the same when it is saved and read again, and a record that cannot
be read is as if it had never been there.
-/

namespace SolidityRepl

open Json (Gap SpellsString SpellsList Reads)

namespace Statement

/-- A statement that is in its scope, with something in its text, no white space around it, and an
end to it. -/
structure Canonical (scope : Scope) (statement : Statement) : Prop where
  scope : statement.scope = scope
  some : statement.text.toList ≠ []
  trim : Text.Trim statement.text.toList
  ended : Fragment.Ended statement.text.toList

theorem canonical_ofText (text : String) (scope : Scope) : Canonical scope (ofText text scope) where
  scope := Fragment.Rule.scope_of scope
  some := (tidy_ofText text scope).some
  trim := (tidy_ofText text scope).trim
  ended := by
    rw [ofText, byRule_text, Fragment.finish_of]
    exact Fragment.ended_terminate _

/-- **A statement in a given scope is the same when it is placed again**: of the two rules that lead
beside the contract, a given scope takes the one that ends its texts. -/
theorem again_ofText (text : String) (scope : Scope) :
    (ofText text scope).again = ofText text scope :=
  again_byRule (content_ne_nil text) (trim_content text) fun unended =>
    unended.2 (canonical_ofText text scope).ended

/-- Values that a text and a scope are not read from. -/
theorem ofValues_eq_error (text code : Json) :
    (∃ e, ofValues text code = .error e) ↔
      ((∀ s, text ≠ .str s) ∧ text.isVoid = false) ∨
        code ≠ .null ∧ ∀ scope : Scope, code ≠ .str scope.code := by
  have texts : (∃ e, textOf text = .error e) ↔ (∀ s, text ≠ .str s) ∧ text.isVoid = false := by
    unfold textOf
    split
    · simp
    · rename_i other
      cases void : text.isVoid with
      | true => simp
      | false => simpa using other
  have scopes : (∃ e, scopeOf code = .error e) ↔
      code ≠ .null ∧ ∀ scope : Scope, code ≠ .str scope.code := by
    unfold scopeOf
    split
    · simp
    · rename_i c
      cases known : Scope.ofCode? c with
      | some scope =>
        have found := List.find?_some known
        simp only [beq_iff_eq] at found
        simp [← found]
      | none =>
        have unknown : ∀ scope : Scope, c ≠ scope.code := by
          rintro scope rfl
          rw [Scope.ofCode?_code] at known
          cases known
        simpa using unknown
    · rename_i null other
      have unknown : ∀ scope : Scope, code ≠ .str scope.code := fun scope => other scope.code
      simpa using ⟨null, unknown⟩
  rw [← texts, ← scopes, ofValues]
  cases read : textOf text with
  | error e => simp [bind, Except.bind]
  | ok s =>
    cases known : scopeOf code with
    | error e => simp [bind, Except.bind]
    | ok scope => simp [bind, Except.bind, pure, Except.pure]

end Statement

namespace Session

/-- What may be written for a text and its scope. -/
def SpellsPair (pair : String × Scope) (cs : List Char) : Prop :=
  SpellsList SpellsString [pair.1, pair.2.code] cs

/-- What may be written for texts and their scopes. -/
def SpellsRecord (pairs : List (String × Scope)) (record : String) : Prop :=
  ∃ before body after, Gap before ∧ Gap after ∧ SpellsList SpellsPair pairs body ∧
    record.toList = before ++ (body ++ after)

/-- Texts placed where they are told to go. -/
def ofPairs (pairs : List (String × Scope)) : Session :=
  pairs.map fun pair => .ofText pair.1 pair.2

def pairJson (pair : String × Scope) : Json := .arr [.str pair.1, .str pair.2.code]

theorem statementOf_pairJson (pair : String × Scope) :
    statementOf (pairJson pair) = .ok (.ofText pair.1 pair.2) := by
  simp only [statementOf, pairJson, Json.parts, bind, Except.bind, Statement.ofValues,
    Statement.textOf, Statement.scopeOf, Scope.ofCode?_code, pure, Except.pure]

theorem reads_pairJson (room : Nat) (pair : String × Scope) (cs : List Char)
    (spells : SpellsPair pair cs) : Reads (room + 1) (pairJson pair) cs :=
  Reads.list (fun _ _ text => .text room text) spells

theorem ofJson_pairs (pairs : List (String × Scope)) :
    ofJson (.arr (pairs.map pairJson)) = .ok (ofPairs pairs) := by
  show (pairs.map pairJson).mapM statementOf = _
  induction pairs with
  | nil => rfl
  | cons pair rest ih =>
    rw [List.map_cons, List.mapM_cons, statementOf_pairJson, ih]
    rfl

/-- **However a record is written, it is read**, with every text where it is told to go. -/
theorem ofRecord_spelled {pairs : List (String × Scope)} {record : String}
    (spells : SpellsRecord pairs record) : ofRecord record = .ok (ofPairs pairs) := by
  obtain ⟨before, body, after, front, back, list, whole⟩ := spells
  have reads : Reads Json.mostNested (.arr (pairs.map pairJson)) body :=
    Reads.list (reads_pairJson _) list
  rw [ofRecord, Json.read_spelled reads front back whole]
  exact ofJson_pairs pairs

theorem replayed_ofPairs (pairs : List (String × Scope)) :
    (ofPairs pairs).replayed = ofPairs pairs := by
  rw [replayed, ofPairs, List.map_map]
  exact List.map_congr_left fun pair _ => Statement.again_ofText pair.1 pair.2

theorem canonical_ofPairs (pairs : List (String × Scope)) :
    List.Forall₂ (fun pair statement => Statement.Canonical pair.2 statement) pairs
      (ofPairs pairs) := by
  rw [ofPairs, List.forall₂_map_right_iff, List.forall₂_same]
  intro pair _
  exact Statement.canonical_ofText pair.1 pair.2

/-- An element of a record that makes no statement. -/
inductive Unplaced (element : Json) : Prop
  | closed {e : Failure} (whole : element.parts = .error e)
  | count {parts : List Json} (made : element.parts = .ok parts) (other : parts.length ≠ 2)
  | text {text code : Json} (made : element.parts = .ok [text, code]) (other : ∀ s, text ≠ .str s)
      (there : text.isVoid = false)
  | scope {text code : Json} (made : element.parts = .ok [text, code]) (given : code ≠ .null)
      (unknown : ∀ scope : Scope, code ≠ .str scope.code)

/-- **An element makes no statement exactly if** it cannot be gone through, has another number of
parts than two, or one of the two is not what it should be. -/
theorem statementOf_eq_error (element : Json) :
    (∃ e, statementOf element = .error e) ↔ Unplaced element := by
  cases made : element.parts with
  | error e =>
    refine ⟨fun _ => .closed made, fun _ => ⟨e, ?_⟩⟩
    rw [statementOf, made]
    rfl
  | ok parts =>
    by_cases two : ∃ text code, parts = [text, code]
    · obtain ⟨text, code, rfl⟩ := two
      have placed : statementOf element = Statement.ofValues text code := by
        rw [statementOf, made]
        rfl
      rw [placed, Statement.ofValues_eq_error]
      constructor
      · rintro (⟨other, there⟩ | ⟨given, unknown⟩)
        · exact .text made other there
        · exact .scope made given unknown
      · intro unplaced
        cases unplaced with
        | closed whole => cases made.symm.trans whole
        | count made' other =>
          cases made.symm.trans made'
          exact absurd rfl other
        | text made' other there =>
          cases made.symm.trans made'
          exact .inl ⟨other, there⟩
        | scope made' given unknown =>
          cases made.symm.trans made'
          exact .inr ⟨given, unknown⟩
    · have other : parts.length ≠ 2 := fun length => two (List.length_eq_two.mp length)
      refine ⟨fun _ => .count made other, fun _ => ⟨.invalidValue, ?_⟩⟩
      simp only [statementOf, made, bind, Except.bind]
      split
      · exact absurd rfl other
      · rfl

/-- Elements make no session as soon as one of them makes no statement. -/
theorem mapM_statementOf_eq_error (elements : List Json) :
    (∃ e, elements.mapM statementOf = .error e) ↔ ∃ element ∈ elements, Unplaced element := by
  induction elements with
  | nil => simp [pure, Except.pure]
  | cons element rest ih =>
    have first := statementOf_eq_error element
    rw [List.mapM_cons]
    cases placed : statementOf element with
    | error e =>
      rw [placed] at first
      have bad : Unplaced element := first.mp ⟨e, rfl⟩
      exact ⟨fun _ => ⟨element, List.mem_cons_self, bad⟩, fun _ => ⟨e, rfl⟩⟩
    | ok statement =>
      have good : ¬Unplaced element := by
        intro bad
        obtain ⟨e, failed⟩ := first.mpr bad
        cases placed.symm.trans failed
      simp only [List.exists_mem_cons_iff, good, false_or, ← ih]
      cases others : rest.mapM statementOf with
      | error e => simp [bind, Except.bind]
      | ok statements => simp [bind, Except.bind, pure, Except.pure]

/-- A record that makes no session: it is no JSON, there is nothing to go through in it, or one of
its elements makes no statement. -/
inductive Malformed (record : String) : Prop
  | json {fault : Json.Fault} (unread : Json.read record = .error fault)
  | closed {value : Json} {e : Failure} (read : Json.read record = .ok value)
      (whole : value.parts = .error e)
  | element {value element : Json} {elements : List Json} (read : Json.read record = .ok value)
      (made : value.parts = .ok elements) (among : element ∈ elements) (bad : Unplaced element)

theorem ofRecord_eq_error (record : String) :
    (∃ e, ofRecord record = .error e) ↔ Malformed record := by
  cases read : Json.read record with
  | error fault =>
    refine ⟨fun _ => .json read, fun _ => ⟨.badJson fault, ?_⟩⟩
    rw [ofRecord, read]
  | ok value =>
    have same : ofRecord record = ofJson value := by rw [ofRecord, read]
    rw [same, ofJson]
    cases made : value.parts with
    | error e => exact ⟨fun _ => .closed read made, fun _ => ⟨e, rfl⟩⟩
    | ok elements =>
      show (∃ e, elements.mapM statementOf = .error e) ↔ _
      rw [mapM_statementOf_eq_error]
      constructor
      · rintro ⟨element, among, bad⟩
        exact .element read made among bad
      · intro malformed
        cases malformed with
        | json unread => cases read.symm.trans unread
        | closed read' whole =>
          cases read.symm.trans read'
          cases made.symm.trans whole
        | @element _ element _ read' made' among bad =>
          cases read.symm.trans read'
          cases made.symm.trans made'
          exact ⟨element, among, bad⟩

end Session

namespace Shell

open Session (SpellsRecord Malformed ofRecord)

variable {O T : Type}

def withSession (shell : Shell O T) (session : Session) : Shell O T :=
  { shell with desk := { shell.desk with session } }

theorem load_ok {record : String} {session : Session} (read : ofRecord record = .ok session)
    (shell : Shell O T) : (load record).run shell = (.ok (), shell.withSession session) := by
  rw [load, read]
  rfl

theorem load_error {record : String} {e : Failure} (unread : ofRecord record = .error e)
    (shell : Shell O T) : (load record).run shell = (.error e, shell) := by
  rw [load, unread]
  rfl

/-- **A loaded session is the one that is saved and loaded after it.** Of a record of texts and
scopes every text comes where it is told to go, and is done: saved and read once more, all of it
stays as it is. A record is refused exactly if it is malformed, and then nothing changes. -/
theorem load_canonical (shell : Shell O T) :
    (∀ pairs record, SpellsRecord pairs record →
      let session := Session.ofPairs pairs
      (load record).run shell = (.ok (), shell.withSession session) ∧
      List.Forall₂ (fun pair statement => Statement.Canonical pair.2 statement) pairs session ∧
      ofRecord session.record = .ok session) ∧
    (∀ record, (∃ e, ((load record).run shell).1 = .error e) ↔ Malformed record) ∧
    ∀ record e, ((load record).run shell).1 = .error e → ((load record).run shell).2 = shell := by
  refine ⟨?_, ?_, ?_⟩
  · intro pairs record spells
    refine ⟨load_ok (Session.ofRecord_spelled spells) shell, Session.canonical_ofPairs pairs, ?_⟩
    rw [Session.ofRecord_record, Session.replayed_ofPairs]
  · intro record
    rw [← Session.ofRecord_eq_error]
    cases read : ofRecord record with
    | error e => simp [load_error read]
    | ok session => simp [load_ok read]
  · intro record e failed
    cases read : ofRecord record with
    | error e' => rw [load_error read]
    | ok session =>
      rw [load_ok read] at failed
      cases failed

/-- A face beyond the first plane and a text with nothing in it, with white space here and there. -/
def facial : String :=
  " [[\"\\u0061\\uD83D\\uDE00 \", \"main\"]\n,[ \"\" ,\"contract\"]] "

theorem spells_facial : SpellsRecord [("a😀 ", .main), ("", .contract)] facial := by
  have letter : Json.SpellsChar 'a' ['\\', 'u', '0', '0', '6', '1'] := .unit (by decide)
  have face : Json.SpellsChar '😀'
      ['\\', 'u', 'D', '8', '3', 'D', '\\', 'u', 'D', 'E', '0', '0'] :=
    .pair (by decide) (by decide) (by decide)
  have blank : Json.SpellsChar ' ' [' '] := .plain (by decide) (by decide) (by decide)
  have text : SpellsString "a😀 " _ := ⟨_, .cons letter (.cons face (.cons blank .nil)), rfl⟩
  have space : Gap [' '] := List.forall_mem_singleton.mpr rfl
  have line : Gap ['\n'] := List.forall_mem_singleton.mpr rfl
  have first : Session.SpellsPair ("a😀 ", .main) _ :=
    .items (.more Json.gap_nil text Json.gap_nil
      (.last space (Json.spells_renderText "main") Json.gap_nil))
  have second : Session.SpellsPair ("", .contract) _ :=
    .items (.more space (Json.spells_renderText "") space
      (.last Json.gap_nil (Json.spells_renderText "contract") Json.gap_nil))
  refine ⟨[' '], _, [' '], space, space,
    .items (.more Json.gap_nil first line (.last Json.gap_nil second Json.gap_nil)), ?_⟩
  decide

/-- The face stays in the function and nothing at all becomes a member; of a number beside a text no
statement is made. -/
theorem load_canonical_facial :
    SpellsRecord [("a😀 ", .main), ("", .contract)] facial ∧
    (load facial).run fresh = (.ok (), fresh.withSession
      [.ofText "a😀 " (some .main), .ofText "" (some .contract)]) ∧
    ((load "[[\"a\",\"main\"],[1,\"main\"]]").run fresh).2 = fresh := by
  obtain ⟨loads, -, unchanged⟩ := load_canonical fresh
  obtain ⟨ran, -⟩ := loads _ _ spells_facial
  refine ⟨spells_facial, ran, ?_⟩
  have none : (ofRecord "[[\"a\",\"main\"],[1,\"main\"]]").toBool = false := by decide +kernel
  cases read : ofRecord "[[\"a\",\"main\"],[1,\"main\"]]" with
  | ok session =>
    rw [read] at none
    cases none
  | error e =>
    refine unchanged _ e ?_
    rw [load_error read]

end Shell

end SolidityRepl
