import SolidityRepl.Proofs.Json.RoundTrip
import SolidityRepl.Proofs.Program
import SolidityRepl.Proofs.Text.Blank

/-!
# Sessions that are read back

A record keeps the text and the scope of every statement. Placed again where it was, a text stays as
it is, unless it stands beside the contract and has no end.
-/

namespace SolidityRepl

namespace Fragment

variable {cs : List Char}

/-- The text ends in a semicolon or a brace. -/
def Ended (cs : List Char) : Prop := cs.getLast? = some ';' ∨ cs.getLast? = some '\x7d'

theorem terminate_of_ended (ended : Ended cs) : terminate cs = cs := by
  have ends : (endsIn ';' cs || endsIn '\x7d' cs) = true := by
    simpa [endsIn, Ended] using ended
  rw [terminate, if_pos ends]

theorem ended_terminate (cs : List Char) : Ended (terminate cs) := by
  unfold terminate
  split
  · rename_i ends
    simpa [endsIn, Ended] using ends
  · exact .inl List.getLast?_concat

theorem terminate_ne_nil (some : cs ≠ []) : terminate cs ≠ [] := by
  unfold terminate
  split
  · exact some
  · simp

theorem trim_terminate (some : cs ≠ []) (trim : Text.Trim cs) : Text.Trim (terminate cs) where
  first c first := by
    refine trim.first c ?_
    unfold terminate at first
    split at first
    · exact first
    · rwa [List.head?_append_of_ne_nil cs some] at first
  last c last := by
    obtain ends | ends := ended_terminate cs
    · rw [ends] at last
      cases last
      decide
    · rw [ends] at last
      cases last
      decide

/-- A rule for a given scope ends its texts. -/
theorem finish_of (scope : Scope) (cs : List Char) : (Rule.of scope).finish cs = terminate cs := by
  cases scope <;> rfl

end Fragment

namespace Statement

/-- A statement that was placed, and perhaps given its type after that. -/
inductive Placed : Statement → Prop
  | ofText (text : String) (scope : Option Scope) : Placed (.ofText text scope)
  | typed {statement final : Statement} {type : String} (placed : Placed statement)
      (given : statement.retype type = .ok final) : Placed final

/-- A text with something in it and no white space around it, which has an end unless it stands
beside the contract. -/
structure Tidy (statement : Statement) : Prop where
  some : statement.text.toList ≠ []
  trim : Text.Trim statement.text.toList
  ended : statement.scope ≠ .sourceUnit → Fragment.Ended statement.text.toList

theorem content_ne_nil (text : String) : content text ≠ [] := by
  unfold content
  split
  · decide
  · assumption

theorem trim_content (text : String) : Text.Trim (content text) := by
  unfold content
  split
  · have start : "true".toList.head? = some 't' := by decide
    have stop : "true".toList.getLast? = some 'e' := by decide
    constructor
    · intro c first
      rw [start] at first
      cases first
      decide
    · intro c last
      rw [stop] at last
      cases last
      decide
  · exact Text.trim_strip _

theorem byRule_text (rule : Fragment.Rule) (cs : List Char) :
    (byRule rule cs).text.toList = rule.finish cs := String.toList_ofList

theorem byRule_scope (rule : Fragment.Rule) (cs : List Char) :
    (byRule rule cs).scope = rule.scope := rfl

/-- A value has the placeholder type, and is made by one rule only. -/
theorem byRule_type_eq_some {rule : Fragment.Rule} {cs : List Char} {type : String} :
    (byRule rule cs).type = some type ↔
      rule = .body ∧ Fragment.yieldsNothing (Fragment.terminate cs) = false ∧
        type = placeholder := by
  constructor
  · intro given
    simp only [byRule] at given
    split at given
    · cases given
    · rename_i value
      rw [Bool.not_eq_true, Bool.or_eq_false_iff, bne_eq_false_iff_eq] at value
      obtain ⟨rfl, value⟩ := value
      cases given
      exact ⟨rfl, value, rfl⟩
  · rintro ⟨rfl, value, rfl⟩
    have own : (Fragment.Rule.body != .body ||
        Fragment.yieldsNothing (Fragment.Rule.body.finish cs)) = false := value
    simp only [byRule, own]
    rfl

theorem tidy_byRule (rule : Fragment.Rule) {cs : List Char} (some : cs ≠ []) (trim : Text.Trim cs) :
    Tidy (byRule rule cs) := by
  cases rule with
  | definition =>
    -- the one rule that takes a text as it is puts it beside the contract
    refine ⟨?_, ?_, fun other => absurd rfl other⟩ <;> rw [byRule_text]
    · exact some
    · exact trim
  | member | versionPragma | directive | body =>
    refine ⟨?_, ?_, fun _ => ?_⟩ <;> rw [byRule_text]
    · exact Fragment.terminate_ne_nil some
    · exact Fragment.trim_terminate some trim
    · exact Fragment.ended_terminate cs

theorem tidy_ofText (text : String) (scope : Option Scope) : Tidy (ofText text scope) := by
  unfold ofText
  cases scope <;> exact tidy_byRule _ (content_ne_nil text) (trim_content text)

/-- **However a statement came to be, it is tidy.** -/
theorem Placed.tidy {statement : Statement} (placed : Placed statement) : Tidy statement := by
  induction placed with
  | ofText text scope => exact tidy_ofText text scope
  | typed _ given ih =>
    obtain ⟨-, -, rfl⟩ := retype_eq_ok.mp given
    exact ⟨ih.some, ih.trim, ih.ended⟩

def again (statement : Statement) : Statement := ofText statement.text (some statement.scope)

theorem again_scope (statement : Statement) : statement.again.scope = statement.scope := by
  rw [again, ofText, byRule_scope, Fragment.Rule.scope_of]

/-- What has no white space around it is placed as it is. -/
theorem content_of_trim {text : String} (some : text.toList ≠ []) (trim : Text.Trim text.toList) :
    content text = text.toList := by
  rw [content, Text.strip_of_trim trim]
  split
  · rename_i none
    exact absurd none some
  · rfl

/-- A tidy text is placed as it is. -/
theorem content_text {statement : Statement} (tidy : Tidy statement) :
    content statement.text = statement.text.toList := content_of_trim tidy.some tidy.trim

theorem again_eq {statement : Statement} (tidy : Tidy statement) :
    statement.again = byRule (.of statement.scope) statement.text.toList := by
  rw [again, ofText, content_text tidy]

theorem toList_again_text {statement : Statement} (tidy : Tidy statement) :
    statement.again.text.toList = Fragment.terminate statement.text.toList := by
  rw [again_eq tidy, byRule_text, Fragment.finish_of]

/-- **A tidy statement with an end keeps its text.** -/
theorem again_text {statement : Statement} (tidy : Tidy statement)
    (ended : Fragment.Ended statement.text.toList) : statement.again.text = statement.text := by
  rw [← String.toList_inj, toList_again_text tidy, Fragment.terminate_of_ended ended]

end Statement

namespace Session

def replayed (session : Session) : Session := session.map Statement.again

theorem statementOf_pair (statement : Statement) :
    statementOf (.arr [.str statement.text, .str statement.scope.code]) = .ok statement.again := by
  simp only [statementOf, Json.parts, bind, Except.bind, Statement.ofValues, Statement.textOf,
    Statement.scopeOf, Scope.ofCode?_code, pure, Except.pure, Statement.again]

theorem written_toJson (session : Session) : Json.Written Json.mostNested session.toJson := by
  refine .list fun pair mem => ?_
  obtain ⟨_, -, rfl⟩ := List.mem_map.mp mem
  refine .list fun part mem => ?_
  obtain rfl | rfl : part = .str _ ∨ part = .str _ := by simpa using mem
  · exact .text _
  · exact .text _

theorem ofJson_toJson (session : Session) : ofJson session.toJson = .ok session.replayed := by
  show (session.pairs.map fun p => Json.arr [.str p.1, .str p.2]).mapM statementOf = _
  induction session with
  | nil => rfl
  | cons statement rest ih =>
    simp only [pairs, List.map_cons, List.mapM_cons, statementOf_pair, replayed] at ih ⊢
    rw [ih]
    rfl

/-- **A record is read as the statements placed again.** -/
theorem ofRecord_record (session : Session) : ofRecord session.record = .ok session.replayed := by
  rw [ofRecord, record, Json.read_render (written_toJson session)]
  exact ofJson_toJson session

/-- **The texts and scopes that are read are those that were saved**, if what stands beside the
contract has an end. -/
theorem pairs_replayed {session : Session} (placed : ∀ statement ∈ session, statement.Placed)
    (ended : ∀ statement ∈ session, statement.scope = .sourceUnit →
      Fragment.Ended statement.text.toList) : session.replayed.pairs = session.pairs := by
  rw [pairs, pairs, replayed, List.map_map]
  refine List.map_congr_left fun statement mem => ?_
  have tidy := (placed statement mem).tidy
  have end' : Fragment.Ended statement.text.toList := by
    by_cases beside : statement.scope = .sourceUnit
    · exact ended statement mem beside
    · exact tidy.ended beside
  simp only [Function.comp_apply, Statement.again_text tidy end', Statement.again_scope]

theorem record_congr {session session' : Session} (same : session.pairs = session'.pairs) :
    session.record = session'.record := by
  rw [record, record, toJson, toJson, same]

end Session

end SolidityRepl
