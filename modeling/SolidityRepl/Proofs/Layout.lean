import SolidityRepl.Proofs.Life
import SolidityRepl.Proofs.Program
import SolidityRepl.Proofs.Text.Lines

/-!
# How a program is laid out

A program is its pieces, one below the other: every statement stands once and on lines of its own,
in the order of the session within its scope. Its lines are moved to the right, and that is all that
happens to them.
-/

namespace SolidityRepl

open Text

namespace Statement

theorem Placed.stops {statement : Statement} (placed : statement.Placed) :
    Stops statement.text.toList := by
  have tidy := placed.tidy
  refine ⟨_, List.getLast?_eq_some_getLast tidy.some, ?_⟩
  have shows := tidy.trim.last _ (List.getLast?_eq_some_getLast tidy.some)
  -- all line breaks are white space
  by_contra breaks
  rw [Bool.not_eq_false] at breaks
  rw [isBlank_of_isLineBreak breaks] at shows
  cases shows

end Statement

namespace Frame

/-- The version pragma: that of the session, or else that of the configured compiler. -/
def pragmaPiece (frame : Frame) (session : Session) : List String :=
  match (session.inScope .versionPragma).getLast?, frame.version with
  | some pragma, _ => [pragma.text]
  | none, some version => ["pragma solidity " ++ version ++ ";"]
  | none, none => []

/-- The statement whose value is returned and the type of the value: the last one, if it has any. -/
def answer? (session : Session) : Option (Statement × String) :=
  match session.getLast? with
  | some statement =>
    if statement.scope = .main then statement.type.map fun type => (statement, type) else none
  | none => none

/-- The entry function from its first line to its last. -/
def entryPieces (frame : Frame) (session : Session) : List String :=
  match answer? session with
  | some (statement, type) =>
    ["function " ++ frame.entry ++ "() public returns (" ++ type ++ ") \x7b"] ++
      (Session.inScope session.dropLast .main).map Statement.text ++
      ["return " ++ statement.returned]
  | none =>
    ["function " ++ frame.entry ++ "() public \x7b"] ++
      (session.inScope .main).map Statement.text ++ ["return;"]

def pieces (frame : Frame) (session : Session) : List String :=
  [licence] ++ frame.pragmaPiece session ++
    (session.inScope .sourceUnit).map Statement.text ++
    ["contract " ++ frame.contract ++ " \x7b"] ++
    (session.inScope .contract).map Statement.text ++
    frame.entryPieces session ++ ["\x7d", "\x7d"]

variable {session : Session}

theorem stops_texts (placed : ∀ statement ∈ session, statement.Placed) (scope : Scope) :
    ∀ text ∈ texts (session.inScope scope), Stops text := by
  intro text mem
  obtain ⟨statement, within, rfl⟩ := List.mem_map.mp mem
  exact (placed statement (List.mem_of_mem_filter within)).stops

theorem stacked_gap (width : Nat) {texts : List (List Char)} (some : texts ≠ [])
    (stops : ∀ text ∈ texts, Stops text) :
    Stacked texts (indent width (gap.intercalate texts) ++ gap) :=
  stacked_indent width 1 1 some stops

theorem pragmaPiece_eq (frame : Frame) (session : Session) :
    frame.pragmaPiece session = (frame.pragma? session).toList := by
  unfold pragmaPiece pragma? Session.governingPragma?
  cases (session.inScope .versionPragma).getLast? <;> cases frame.version <;> rfl

theorem stacked_header (frame : Frame) (session : Session) :
    Stacked ((licence :: frame.pragmaPiece session).map String.toList)
      (frame.header session ++ gap) := by
  rw [pragmaPiece_eq, header]
  cases frame.pragma? session with
  | none => exact stacked_one (shifted_lines _) 1
  | some pragma =>
    rw [List.append_assoc]
    exact .cons (shifted_lines _) 0 (stacked_one (shifted_lines pragma.toList) 1)

theorem stacked_beside (placed : ∀ statement ∈ session, statement.Placed) :
    Stacked (texts (session.inScope .sourceUnit))
      (if (texts (session.inScope .sourceUnit)).isEmpty then []
      else gap.intercalate (texts (session.inScope .sourceUnit)) ++ gap) := by
  split
  · rename_i none
    rw [List.isEmpty_iff.mp none]
    exact .nil
  · rename_i some
    have stacked := stacked_gap 0 (by simpa using some) (stops_texts placed .sourceUnit)
    rwa [indent_zero] at stacked

theorem stacked_members (placed : ∀ statement ∈ session, statement.Placed) :
    Stacked (texts (session.inScope .contract))
      ((members session).flatMap (· ++ ['\n'])) := by
  rw [members_eq]
  split
  · rename_i none
    rw [List.isEmpty_iff.mp none]
    exact .nil
  · rename_i some
    have stacked := stacked_gap 4 (by simpa using some) (stops_texts placed .contract)
    simpa [gap] using stacked

theorem tail?_eq (session : Session) : tail? session = (answer? session).map Prod.fst := by
  unfold tail? answer? Session.last?
  cases session.getLast? with
  | none => rfl
  | some statement =>
    by_cases within : statement.scope = .main
    · cases type : statement.type <;> simp [within, type, Statement.yieldsNothing]
    · simp [within]

theorem tail?_of_none (silent : answer? session = none) : tail? session = none := by
  rw [tail?_eq, silent]
  rfl

theorem tail?_of_answer {statement : Statement} {type : String}
    (answered : answer? session = some (statement, type)) : tail? session = some statement := by
  rw [tail?_eq, answered]
  rfl

theorem returnLine_of_none (silent : answer? session = none) :
    returnLine session = "return;".toList := by
  rw [returnLine, tail?_of_none silent]
  rfl

/-- A statement with a value is written, since its text is an expression. -/
theorem returnLine_of_answer {statement : Statement} {type : String}
    (answered : answer? session = some (statement, type)) (valued : statement.Valued) :
    returnLine session = "return ".toList ++ statement.text.toList := by
  simp only [returnLine, tail?_of_answer answered, valued.returned, beq_iff_eq]
  rw [if_neg valued.shown]

theorem answer?_eq_some {statement : Statement} {type : String}
    (answered : answer? session = some (statement, type)) :
    session = session.dropLast ++ [statement] ∧ statement.scope = .main ∧
      statement.type = some type := by
  unfold answer? at answered
  cases last : session.getLast? with
  | none =>
    rw [last] at answered
    cases answered
  | some final =>
    rw [last] at answered
    dsimp only at answered
    split at answered
    · rename_i within
      obtain ⟨_, typed, pair⟩ := Option.map_eq_some_iff.mp answered
      obtain ⟨rfl, rfl⟩ := Prod.mk.inj pair
      exact ⟨(List.dropLast_append_getLast? final last).symm, within, typed⟩
    · cases answered

/-- The body has all statements of the entry function but the one with an answer. -/
theorem body_of_answer {statement : Statement} {type : String}
    (answered : answer? session = some (statement, type)) :
    body session = Session.inScope session.dropLast .main := by
  obtain ⟨whole, within, -⟩ := answer?_eq_some answered
  have all : session.inScope .main = Session.inScope session.dropLast .main ++ [statement] := by
    conv_lhs => rw [whole]
    simp [Session.inScope, within]
  rw [body, tail?_of_answer answered, all]
  exact List.dropLast_concat

theorem body_of_none (silent : answer? session = none) : body session = session.inScope .main := by
  rw [body, tail?_of_none silent]
  rfl

theorem stacked_function (title : List Char) {inner : List (List Char)} {final : List Char}
    (some : title ≠ [])
    (stops : ∀ text ∈ inner, Stops text) (stop : Stops final) :
    Stacked ([title] ++ inner ++ [final])
      (List.replicate 4 ' ' ++ title ++ ['\n'] ++
        (indent 8 (['\n'].intercalate (inner ++ [final])) ++ ['\n'])) := by
  refine .cons (shifted_replicate 4 some) 0 (stacked_indent 8 0 0 (by simp) fun text mem => ?_)
  obtain within | last := List.mem_append.mp mem
  · exact stops text within
  · rwa [List.mem_singleton.mp last]

theorem stacked_entry (frame : Frame) (placed : ∀ statement ∈ session, statement.Placed) :
    Stacked ((frame.entryPieces session).map String.toList)
      ("    function ".toList ++ frame.entry.toList ++ "() public".toList ++
          returnsClause session ++ " \x7b".toList ++ ['\n'] ++
        (indent 8 (['\n'].intercalate (texts (body session) ++ [returnLine session])) ++
          ['\n'])) := by
  cases answered : answer? session with
  | none =>
    have tail := tail?_of_none answered
    have inner := stops_texts placed .main
    have stop : Stops "return;".toList := ⟨';', by decide, by decide⟩
    have stacked := stacked_function
      ("function " ++ frame.entry ++ "() public \x7b").toList (by simp) inner stop
    rw [body_of_none answered]
    simpa [entryPieces, answered, returnsClause, returnLine_of_none answered, tail, texts_eq]
      using stacked
  | some answer =>
    obtain ⟨statement, type⟩ := answer
    have tail := tail?_of_answer answered
    obtain ⟨whole, -, typed⟩ := answer?_eq_some answered
    have before : ∀ statement ∈ session.dropLast, statement.Placed := fun statement mem =>
      placed statement (List.mem_of_mem_dropLast mem)
    have last : statement.Placed := placed statement (whole ▸ List.mem_append_right _ (by simp))
    have valued := last.valued typed
    have given : type ≠ "" := by
      have shown := valued.typed
      rwa [Statement.returnType, typed] at shown
    have stop : Stops ("return ".toList ++ statement.text.toList) := last.stops.prepend _
    have stacked := stacked_function
      ("function " ++ frame.entry ++ "() public returns (" ++ type ++ ") \x7b").toList
      (by simp) (stops_texts before .main) stop
    rw [body_of_answer answered]
    simpa [entryPieces, answered, returnsClause, returnLine_of_answer answered valued, tail,
      texts_eq, typed, given, valued.returned, Statement.returnType] using stacked

theorem stacked_contract (frame : Frame) (placed : ∀ statement ∈ session, statement.Placed) :
    Stacked ((["contract " ++ frame.contract ++ " \x7b"] ++
        (session.inScope .contract).map Statement.text ++
        frame.entryPieces session ++ ["\x7d", "\x7d"]).map String.toList)
      (['\n'].intercalate (frame.contractLines session) ++ ['\n']) := by
  have first := stacked_one
    (shifted_lines ("contract ".toList ++ frame.contract.toList ++ " \x7b".toList)) 0
  have inner := stacked_one (shifted_replicate 4 (by simp : "\x7d".toList ≠ [])) 0
  have last := stacked_one (shifted_lines "\x7d".toList) 0
  have whole := first.append ((stacked_members placed).append
    ((frame.stacked_entry placed).append (inner.append last)))
  rw [intercalate_newline (by simp [contractLines]), contractLines]
  simpa [texts_eq] using whole

/-- **A program is its pieces, one below the other**, with nothing but spaces and line feeds around
their lines. No statement is lost, doubled or moved past another one of its scope. -/
theorem render_layout (frame : Frame) (session : Session)
    (placed : ∀ statement ∈ session, statement.Placed) :
    pressed (frame.render session).toList = pressed (String.join (frame.pieces session)).toList ∧
      Stacked ((frame.pieces session).map String.toList) (frame.render session).toList := by
  have stacked : Stacked ((frame.pieces session).map String.toList)
      (frame.render session).toList := by
    have whole := ((frame.stacked_header session).append (stacked_beside placed)).append
      (frame.stacked_contract placed)
    rw [render, String.toList_ofList, parts_eq]
    -- without a statement beside the contract there is one gap less
    split
    · rename_i none
      rw [if_pos none] at whole
      simpa [pieces, texts_eq] using whole
    · rename_i some
      rw [if_neg some] at whole
      simpa [pieces, texts_eq] using whole
  refine ⟨?_, stacked⟩
  rw [pressed_of_stacked stacked, String.toList_join, List.flatMap_def]

/-- A program with statements of all scopes, the last of which has a value of a type that was
found out. -/
theorem render_layout_points :
    let frame : Frame := ⟨"Shell", "main", some "0.8.20"⟩
    let value : Statement :=
      { Statement.ofText "points[1].y" none with type := some "uint256", inferred := true }
    let session : Session :=
      ["struct P \x7b\n  uint y;\n\x7d", "mapping(uint => P) points", "points[1].y = 2"].map
        (Statement.ofText · none) ++ [value]
    (∀ statement ∈ session, statement.Placed) ∧
      frame.pieces session =
        ["// SPDX-License-Identifier: GPL-2.0-or-later", "pragma solidity 0.8.20;",
          "struct P \x7b\n  uint y;\n\x7d", "contract Shell \x7b", "mapping(uint => P) points;",
          "function main() public returns (uint256) \x7b", "points[1].y = 2;",
          "return points[1].y;", "\x7d", "\x7d"] ∧
      pressed (frame.render session).toList = pressed (String.join (frame.pieces session)).toList ∧
      Stacked ((frame.pieces session).map String.toList) (frame.render session).toList := by
  intro frame value session
  have placed : ∀ statement ∈ session, statement.Placed := by
    intro statement mem
    obtain earlier | last := List.mem_append.mp mem
    · obtain ⟨text, -, rfl⟩ := List.mem_map.mp earlier
      exact .ofText text none
    · obtain rfl := List.mem_singleton.mp last
      have given : (Statement.ofText "points[1].y" none).retype "uint256" = .ok value := by
        rw [Statement.retype, if_neg (by decide +kernel)]
        rfl
      exact .typed (.ofText "points[1].y" none) given
  exact ⟨placed, by decide +kernel, frame.render_layout session placed⟩

end Frame

end SolidityRepl
