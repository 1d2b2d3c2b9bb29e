import SolidityRepl.Run

/-!
# What a program is made of

A program is made of the texts and scopes of the statements, and of the value that the last of them
yields. Types of other statements have no part in it.
-/

namespace SolidityRepl

theorem Scope.code_inj {a b : Scope} : a.code = b.code ↔ a = b := by
  constructor
  · intro same
    have both := Scope.ofCode?_code a
    rw [same, Scope.ofCode?_code b] at both
    exact (Option.some.inj both).symm
  · rintro rfl
    rfl

namespace Session

theorem pairs_push (session : Session) (statement : Statement) :
    (session.push statement).pairs = session.pairs ++ [(statement.text, statement.scope.code)] := by
  simp [pairs, push]

theorem pairs_pop (session : Session) : session.pop.pairs = session.pairs.dropLast := by
  simp [pairs, pop]

/-- The texts of one scope, read off the pairs. -/
theorem map_text_inScope (session : Session) (scope : Scope) :
    (session.inScope scope).map Statement.text =
      (session.pairs.filter fun p => p.2 == scope.code).map Prod.fst := by
  have same : ((fun p : String × String => p.2 == scope.code) ∘
      fun s : Statement => (s.text, s.scope.code)) = fun s => s.scope == scope := by
    funext s
    rw [Function.comp_apply, Bool.eq_iff_iff, beq_iff_eq, beq_iff_eq, Scope.code_inj]
  rw [pairs, List.filter_map, List.map_map, same]
  rfl

variable {session session' : Session}

theorem map_text_inScope_congr (same : session.pairs = session'.pairs) (scope : Scope) :
    (session.inScope scope).map Statement.text = (session'.inScope scope).map Statement.text := by
  rw [map_text_inScope, map_text_inScope, same]

theorem governingPragma?_text (same : session.pairs = session'.pairs) :
    session.governingPragma?.map Statement.text = session'.governingPragma?.map Statement.text := by
  rw [governingPragma?, governingPragma?, ← List.getLast?_map, ← List.getLast?_map,
    map_text_inScope_congr same]

end Session

namespace Frame

variable {session session' : Session}

theorem texts_eq (statements : List Statement) :
    texts statements = (statements.map Statement.text).map String.toList := by
  simp [texts]

theorem texts_inScope_congr (same : session.pairs = session'.pairs) (scope : Scope) :
    texts (session.inScope scope) = texts (session'.inScope scope) := by
  rw [texts_eq, texts_eq, Session.map_text_inScope_congr same]

theorem texts_body_congr (same : session.pairs = session'.pairs)
    (tail : tail? session = tail? session') : texts (body session) = texts (body session') := by
  have all := texts_inScope_congr same .main
  simp only [body, tail]
  split
  · rw [texts, texts, List.map_dropLast, List.map_dropLast]
    exact congrArg List.dropLast all
  · exact all

theorem pragma?_congr (frame : Frame) (same : session.pairs = session'.pairs) :
    frame.pragma? session = frame.pragma? session' := by
  have governing := Session.governingPragma?_text same
  unfold pragma?
  cases here : session.governingPragma? <;> cases there : session'.governingPragma? <;>
    simp_all

/-- What stands between two parts, if there are any texts at all. -/
theorem members_eq (session : Session) :
    members session =
      if (texts (session.inScope .contract)).isEmpty then []
      else [Text.indent 4 (gap.intercalate (texts (session.inScope .contract))), []] := by
  unfold members
  cases session.inScope .contract <;> rfl

theorem parts_eq (frame : Frame) (session : Session) :
    frame.parts session =
      frame.header session ::
        (if (texts (session.inScope .sourceUnit)).isEmpty then []
        else [gap.intercalate (texts (session.inScope .sourceUnit))]) ++
        [['\n'].intercalate (frame.contractLines session)] := by
  unfold parts
  cases session.inScope .sourceUnit <;> rfl

/-- **A program is made of the pairs and of the tail.** -/
theorem render_congr (frame : Frame) (same : session.pairs = session'.pairs)
    (tail : tail? session = tail? session') : frame.render session = frame.render session' := by
  have lines : frame.contractLines session = frame.contractLines session' := by
    simp only [contractLines, members_eq, texts_inScope_congr same, texts_body_congr same tail,
      returnLine, returnsClause, tail]
  simp only [render, parts_eq, header, pragma?_congr frame same, texts_inScope_congr same, lines]

/-- The tail is the statement that was put there last, or there is none. -/
theorem tail?_push (session session' : Session) (statement : Statement) :
    tail? (session.push statement) = tail? (session'.push statement) := by
  rw [tail?, tail?, Session.last?_push, Session.last?_push]

/-- A statement of the entry function without a value stands after all others. -/
theorem body_push {statement : Statement} (within : statement.scope = .main)
    (silent : statement.yieldsNothing = true) (session : Session) :
    body (session.push statement) = session.inScope .main ++ [statement] := by
  have tail : tail? (session.push statement) = none := by
    simp [tail?, Session.last?_push, silent]
  rw [body, tail]
  simp [Session.push, Session.inScope, within]

end Frame

namespace Desk

variable {session session' : Session}

/-- **The compiler that is asked for is that of the pairs.** -/
theorem range_congr (s : Settings) (same : session.pairs = session'.pairs) :
    range s session = range s session' := by
  have governing := Session.governingPragma?_text same
  unfold range
  cases here : session.governingPragma? <;> cases there : session'.governingPragma? <;>
    simp_all

end Desk

end SolidityRepl
