import SolidityRepl.Proofs.Session

/-!
# Statements placed once more

A statement that was placed by its shape is placed once more where it was, as happens to every
statement of a saved session. The rule of its scope finds nothing left to do, with one exception:
beside the contract there are two rules, of which one takes its texts as they are, and it is the
other one that is used again.
-/

namespace SolidityRepl

namespace Fragment.Rule

/-- **What a rule has finished it leaves alone.** -/
theorem finish_finish (rule : Rule) (cs : List Char) :
    rule.finish (rule.finish cs) = rule.finish cs := by
  cases rule with
  | definition => rfl
  | member | versionPragma | directive | body => exact terminate_of_ended (ended_terminate cs)

/-- Each scope but one has one rule only. -/
theorem of_scope {rule : Rule} (other : rule ≠ .definition) : of rule.scope = rule := by
  cases rule with
  | definition => exact absurd rfl other
  | member | versionPragma | directive | body => rfl

end Fragment.Rule

namespace Statement

open Fragment (Ended)

/-- A statement beside the contract whose text has no end: a definition with something after its
closing brace, or without one. -/
def Unended (statement : Statement) : Prop :=
  statement.scope = .sourceUnit ∧ ¬Ended statement.text.toList

theorem byRule_finish (rule : Fragment.Rule) (cs : List Char) :
    byRule rule (rule.finish cs) = byRule rule cs := by
  rw [byRule, byRule, rule.finish_finish]

/-- A statement with an end, or of another scope, is the same when it is placed again. -/
theorem again_byRule {rule : Fragment.Rule} {cs : List Char} (some : cs ≠ [])
    (trim : Text.Trim cs) (ended : ¬(byRule rule cs).Unended) :
    (byRule rule cs).again = byRule rule cs := by
  have tidy := tidy_byRule rule some trim
  rw [again_eq tidy, byRule_text, byRule_scope]
  by_cases kept : rule = .definition
  · -- the text was not touched, and has its end already
    subst kept
    have end' : Ended cs := by
      by_contra open'
      exact ended ⟨rfl, by rwa [byRule_text]⟩
    have text : Fragment.terminate cs = cs := Fragment.terminate_of_ended end'
    show { byRule .definition cs with text := String.ofList (Fragment.terminate cs) } = _
    rw [text]
    rfl
  · rw [Fragment.Rule.of_scope kept, byRule_finish]

/-- A definition without an end gets one when it is placed again. -/
theorem again_text_of_unended {statement : Statement} (tidy : Tidy statement)
    (unended : statement.Unended) : statement.again.text = statement.text ++ ";" := by
  have ends : (Fragment.endsIn ';' statement.text.toList ||
      Fragment.endsIn '\x7d' statement.text.toList) = false := by
    simpa [Fragment.endsIn, Ended] using unended.2
  rw [← String.toList_inj, toList_again_text tidy, Fragment.terminate, ends, String.toList_append]
  rfl

/-- Beside the contract no statement has a value, so that nothing but the text can change. -/
theorem again_of_unended {text : String} (unended : (ofText text none).Unended) :
    (ofText text none).again =
      { ofText text none with text := (ofText text none).text ++ ";" } := by
  have tidy := tidy_ofText text none
  rw [← again_text_of_unended tidy unended, again_eq tidy, unended.1]
  obtain ⟨beside, -⟩ := unended
  cases rule : Fragment.Rule.first (content text) with
  | directive | definition => simp only [ofText, rule]; rfl
  | member | versionPragma | body => simp only [ofText, rule] at beside; cases beside

theorem text_ne_append (statement : Statement) : statement.text ++ ";" ≠ statement.text := by
  intro same
  have length := congrArg String.length same
  rw [String.length_append] at length
  have one : ";".length = 1 := rfl
  omega

theorem again_eq_iff (text : String) :
    (ofText text none).again = ofText text none ↔ ¬(ofText text none).Unended := by
  constructor
  · intro same unended
    have text' := again_text_of_unended (tidy_ofText text none) unended
    rw [same] at text'
    exact text_ne_append _ text'.symm
  · exact again_byRule (content_ne_nil text) (trim_content text)

end Statement

namespace Session

theorem pairs_replayed_iff {session : Session} (placed : ∀ statement ∈ session, statement.Placed) :
    session.replayed.pairs = session.pairs ↔ ∀ statement ∈ session, ¬statement.Unended := by
  constructor
  · intro same statement mem unended
    have both : statement.again.text = statement.text := by
      have here := List.map_inj_left.mp ((List.map_map ..).symm.trans same) statement mem
      exact congrArg Prod.fst here
    rw [Statement.again_text_of_unended (placed statement mem).tidy unended] at both
    exact Statement.text_ne_append statement both
  · intro ended
    refine pairs_replayed placed fun statement mem beside => ?_
    by_contra open'
    exact ended statement mem ⟨beside, open'⟩

/-- **Placing a statement again changes nothing exactly if it is no definition without an end.** The
text of such a definition grows by a semicolon, and the saved session is read back as another one. -/
theorem replay_stable_iff (text : String) (texts : List String) :
    let statement := Statement.ofText text none
    let session : Session := texts.map (Statement.ofText · none)
    let again := Statement.ofText statement.text (some statement.scope)
    (again = statement ↔ ¬statement.Unended) ∧
      (statement.Unended → again = { statement with text := statement.text ++ ";" }) ∧
      ∃ session', ofRecord session.record = .ok session' ∧
        (session'.pairs = session.pairs ↔ ∀ statement ∈ session, ¬statement.Unended) := by
  refine ⟨Statement.again_eq_iff text, Statement.again_of_unended, _, ofRecord_record _,
    pairs_replayed_iff ?_⟩
  intro statement mem
  obtain ⟨text, -, rfl⟩ := List.mem_map.mp mem
  exact .ofText text none

/-- A remark after a struct gets a semicolon behind it, which no compiler takes there. -/
theorem replay_ends_struct :
    let statement := Statement.ofText "struct P \x7b uint x; \x7d /* point */" none
    statement.text = "struct P \x7b uint x; \x7d /* point */" ∧
      (Statement.ofText statement.text (some statement.scope)).text =
        "struct P \x7b uint x; \x7d /* point */;" := by
  decide +kernel

end Session

end SolidityRepl
