import SolidityRepl.Proofs.Layout

/-!
# What the entry function returns

The entry function stands at the end of a program. It returns the value of the last statement, if
that has any, and then it has a clause with the type of the value; if not, it has neither.
-/

namespace SolidityRepl

namespace Frame

open Text Statement

/-- The last lines of a program: the entry function, and the end of the contract. -/
def entryLines (frame : Frame) (clause : List Char) (inner : List (List Char)) (line : List Char) :
    List (List Char) :=
  ["    function ".toList ++ frame.entry.toList ++ "() public".toList ++ clause ++ " \x7b".toList] ++
    inner.map (indent 8) ++ [indent 8 line, "    \x7d".toList, "\x7d".toList]

variable {session : Session}

theorem stops_body (placed : ∀ statement ∈ session, statement.Placed) :
    ∀ text ∈ texts (body session), Stops text := by
  intro text mem
  obtain ⟨statement, within, rfl⟩ := List.mem_map.mp mem
  have own : statement ∈ session.inScope .main := by
    unfold body at within
    split at within
    · exact List.mem_of_mem_dropLast within
    · exact within
  exact (placed statement (List.mem_of_mem_filter own)).stops

/-- **A program ends in the entry function**, with its clause and its lines. -/
theorem exists_render_entryLines (frame : Frame)
    (placed : ∀ statement ∈ session, statement.Placed) :
    ∃ front, (frame.render session).toList = front ++
      (frame.entryLines (returnsClause session) (texts (body session))
        (returnLine session)).flatMap (· ++ ['\n']) := by
  have regroup (above : List (List Char)) (title final inner outer : List Char)
      (texts : List (List Char)) :
      (above ++ [title, texts.flatMap (fun text => indent 8 text ++ ['\n']) ++ final, inner,
        outer]).flatMap (· ++ ['\n']) =
      above.flatMap (· ++ ['\n']) ++
        ([title] ++ texts.map (indent 8) ++ [final, inner, outer]).flatMap (· ++ ['\n']) := by
    simp [List.flatMap_map]
  obtain ⟨before, parts⟩ : ∃ before, frame.parts session =
      before ++ [['\n'].intercalate (frame.contractLines session)] := ⟨_, parts_eq frame session⟩
  obtain ⟨front, joined⟩ := exists_intercalate_concat gap before
    (['\n'].intercalate (frame.contractLines session))
  have some : frame.contractLines session ≠ [] := by simp [contractLines]
  have lines := intercalate_newline some
  rw [render, String.toList_ofList, parts, joined, List.append_assoc, lines, contractLines,
    indent_intercalate 8 (stops_body placed), regroup, ← List.append_assoc]
  exact ⟨_, rfl⟩

/-- A returns clause and a return line that agree, and what they have of the last statement. -/
structure Agrees (session : Session) (clause line : List Char) : Prop where
  carries : clause ≠ [] ↔ ∃ expression, expression ≠ silent ∧
    line = "return ".toList ++ expression.toList
  ended : line.getLast? = some ';'
  value : clause ≠ [] → ∃ statement ∈ session.getLast?, statement.Valued ∧
    clause = " returns (".toList ++ statement.returnType.toList ++ [')'] ∧
    line = "return ".toList ++ statement.returned.toList

theorem agrees_silent (session : Session) : Agrees session [] "return;".toList := by
  refine ⟨⟨fun some => absurd rfl some, ?_⟩, by decide, fun some => absurd rfl some⟩
  rintro ⟨expression, -, same⟩
  have begins : "return ".toList <+: "return;".toList := ⟨_, same.symm⟩
  exact absurd begins (by decide)

theorem agrees_valued {statement : Statement} (last : session.getLast? = some statement)
    (valued : statement.Valued) :
    Agrees session (" returns (".toList ++ statement.returnType.toList ++ [')'])
      ("return ".toList ++ statement.returned.toList) := by
  refine ⟨⟨fun _ => ?_, fun _ => by simp⟩, ?_, fun _ => ⟨statement, last, valued, rfl, rfl⟩⟩
  · exact ⟨statement.returned, valued.returned ▸ valued.shown, rfl⟩
  · rw [List.getLast?_append, valued.returned, valued.ended]
    rfl

/-- **The returns clause and the return line of a program agree.** -/
theorem agrees_of_placed (placed : ∀ statement ∈ session, statement.Placed) :
    Agrees session (returnsClause session) (returnLine session) := by
  cases answered : answer? session with
  | none =>
    have tail := tail?_of_none answered
    rw [returnsClause, returnLine_of_none answered, tail]
    exact agrees_silent session
  | some answer =>
    obtain ⟨statement, type⟩ := answer
    have tail := tail?_of_answer answered
    obtain ⟨whole, -, typed⟩ := answer?_eq_some answered
    have last : session.getLast? = some statement := by rw [whole]; simp
    have valued : statement.Valued := (placed statement (List.mem_of_getLast? last)).valued typed
    have agrees := agrees_valued last valued
    rw [valued.returned] at agrees
    rw [returnLine_of_answer answered valued]
    simpa [returnsClause, tail, valued.typed] using agrees

/-- **Statements keep one of two shapes, and programs follow them.** At all times a statement has no
value at all, or is a typed expression of the entry function. The entry function of a program has a
returns clause just if its return line has an expression. -/
theorem render_lives (frame : Frame) (lives : List Life) :
    (∀ life : Life, life.Steady) ∧
      let session := lives.map Life.final
      ∃ front clause line,
        (frame.render session).toList =
            front ++ (frame.entryLines clause (texts (body session)) line).flatMap (· ++ ['\n']) ∧
          Agrees session clause line := by
  refine ⟨Life.steady, ?_⟩
  intro session
  have placed : ∀ statement ∈ session, statement.Placed := by
    intro statement mem
    obtain ⟨life, -, rfl⟩ := List.mem_map.mp mem
    exact life.placed
  obtain ⟨front, rendered⟩ := frame.exists_render_entryLines placed
  exact ⟨front, _, _, rendered, agrees_of_placed placed⟩

end Frame

end SolidityRepl
