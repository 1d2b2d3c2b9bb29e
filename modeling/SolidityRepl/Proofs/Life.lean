import SolidityRepl.Proofs.Session

/-!
# The life of a statement

A statement has a value, or it has none, and all that is read of it agrees on that. Its type may be
given once, which can take the value away but brings none.
-/

namespace SolidityRepl

namespace Statement

structure Silent (statement : Statement) : Prop where
  nothing : statement.yieldsNothing = true
  returned : statement.returned = silent
  returnType : statement.returnType = ""

/-- A statement with a value: its text is what is returned, and it has a type. -/
structure Valued (statement : Statement) : Prop where
  within : statement.scope = .main
  something : statement.yieldsNothing = false
  returned : statement.returned = statement.text
  ended : statement.text.toList.getLast? = some ';'
  shown : statement.text ≠ silent
  typed : statement.returnType ≠ ""

variable {statement : Statement} {type : String}

theorem silent_of_type (none : statement.type = none) : statement.Silent := by
  have nothing : statement.yieldsNothing = true := by
    rw [yieldsNothing, none]
    rfl
  refine ⟨nothing, ?_, ?_⟩
  · rw [returned, if_pos nothing]
  · rw [returnType, none]
    rfl

theorem valued_of_type (within : statement.scope = .main) (given : statement.type = some type)
    (typed : type ≠ "") (ended : statement.text.toList.getLast? = some ';')
    (shown : statement.text ≠ silent) : statement.Valued := by
  have something : statement.yieldsNothing = false := by
    rw [yieldsNothing, given]
    rfl
  refine ⟨within, something, ?_, ended, shown, ?_⟩
  · rw [returned, something]
    rfl
  · rwa [returnType, given]

/-- **Where a text is placed decides its shape.** -/
theorem shape_byRule (rule : Fragment.Rule) (cs : List Char) :
    (byRule rule cs).Silent ∨ (byRule rule cs).Valued := by
  cases type : (byRule rule cs).type with
  | none => exact .inl (silent_of_type type)
  | some type' =>
    obtain ⟨rfl, value, rfl⟩ := byRule_type_eq_some.mp type
    have text : (byRule .body cs).text.toList = Fragment.terminate cs := byRule_text .body cs
    -- of the texts with an end, those that end in a brace have no value
    have ended : (Fragment.terminate cs).getLast? = some ';' := by
      refine (Fragment.ended_terminate cs).resolve_right fun brace => ?_
      simp [Fragment.yieldsNothing, Fragment.endsIn, brace] at value
    have shown : (byRule .body cs).text ≠ silent := by
      intro same
      have alone : Fragment.terminate cs = [';'] := by
        rw [← text, same]
        rfl
      rw [alone] at value
      cases value
    exact .inr (valued_of_type rfl type (by decide) (text ▸ ended) shown)

theorem shape_ofText (text : String) (scope : Option Scope) :
    (ofText text scope).Silent ∨ (ofText text scope).Valued := by
  unfold ofText
  cases scope <;> exact shape_byRule _ _

/-- **A type that is given leaves a statement in one of its shapes.** -/
theorem shape_retype {final : Statement} (shape : statement.Silent ∨ statement.Valued)
    (given : statement.retype type = .ok final) : final.Silent ∨ final.Valued := by
  obtain ⟨value, -, rfl⟩ := retype_eq_ok.mp given
  have valued : statement.Valued := by
    refine shape.resolve_left fun quiet => ?_
    rw [quiet.nothing] at value
    cases value
  by_cases empty : type.isEmpty = true
  · exact .inl (silent_of_type (if_pos empty))
  · have typed : type ≠ "" := by simpa using empty
    exact .inr (valued_of_type valued.within (if_neg empty) typed valued.ended valued.shown)

/-- **However a statement came to be, it has one of the two shapes.** -/
theorem Placed.shape (placed : statement.Placed) : statement.Silent ∨ statement.Valued := by
  induction placed with
  | ofText text scope => exact shape_ofText text scope
  | typed _ given ih => exact shape_retype ih given

theorem Placed.valued (placed : statement.Placed) (given : statement.type = some type) :
    statement.Valued := by
  refine placed.shape.resolve_left fun quiet => ?_
  have nothing := quiet.nothing
  rw [yieldsNothing, given] at nothing
  cases nothing

/-! ## Types that are proposed -/

/-- The statement after a type is proposed for it, and the failure if it is not taken. -/
def propose (statement : Statement) (type : String) : Statement × Option Failure :=
  match statement.retype type with
  | .ok final => (final, none)
  | .error failure => (statement, some failure)

/-- Types that are proposed one after the other, with the outcome of each. -/
def proposeAll (statement : Statement) : List String → Statement × List (Option Failure)
  | [] => (statement, [])
  | type :: types =>
    let (next, outcome) := statement.propose type
    let (final, outcomes) := next.proposeAll types
    (final, outcome :: outcomes)

def taken (outcomes : List (Option Failure)) : Nat := outcomes.countP Option.isNone

/-- A type is taken, or the statement stays as it is since it takes none. -/
theorem propose_cases (statement : Statement) (type : String) :
    (∃ final, statement.retype type = .ok final ∧ statement.propose type = (final, none)) ∨
      (statement.yieldsNothing = true ∨ statement.inferred = true) ∧
        statement.propose type = (statement, some (.typeIsFixed statement.shown)) := by
  unfold propose
  cases attempt : statement.retype type with
  | ok final => exact .inl ⟨final, rfl, rfl⟩
  | error failure =>
    rw [retype] at attempt
    split at attempt
    · rename_i fixed
      cases attempt
      exact .inr ⟨by simpa using fixed, rfl⟩
    · cases attempt

/-- A statement that takes no type stays as it is. -/
theorem proposeAll_of_fixed (fixed : statement.yieldsNothing = true ∨ statement.inferred = true)
    (types : List String) :
    (statement.proposeAll types).1 = statement ∧ taken (statement.proposeAll types).2 = 0 := by
  induction types with
  | nil => exact ⟨rfl, rfl⟩
  | cons type types ih =>
    obtain ⟨final, given, -⟩ | ⟨-, stays⟩ := statement.propose_cases type
    · obtain ⟨value, fresh, -⟩ := retype_eq_ok.mp given
      simp [value, fresh] at fixed
    · rw [proposeAll, stays]
      exact ⟨ih.1, by simpa [taken] using ih.2⟩

/-- **No more than one type is taken**, and only that one changes the statement. -/
theorem taken_proposeAll (statement : Statement) (types : List String) :
    taken (statement.proposeAll types).2 ≤ 1 ∧
      (taken (statement.proposeAll types).2 = 0 → (statement.proposeAll types).1 = statement) := by
  induction types with
  | nil => exact ⟨Nat.zero_le _, fun _ => rfl⟩
  | cons type types ih =>
    obtain ⟨final, given, takes⟩ | ⟨-, stays⟩ := statement.propose_cases type
    · have fixed : final.yieldsNothing = true ∨ final.inferred = true := by
        obtain ⟨-, -, rfl⟩ := retype_eq_ok.mp given
        exact .inr rfl
      have later := (proposeAll_of_fixed fixed types).2
      rw [proposeAll, takes]
      simp only [taken, List.countP_cons] at later ⊢
      simp [later]
    · rw [proposeAll, stays]
      simpa [taken] using ih

theorem placed_proposeAll (placed : statement.Placed) (types : List String) :
    (statement.proposeAll types).1.Placed ∧
      (statement.proposeAll types).1.text = statement.text ∧
      (statement.proposeAll types).1.scope = statement.scope := by
  induction types generalizing statement with
  | nil => exact ⟨placed, rfl, rfl⟩
  | cons type types ih =>
    obtain ⟨final, given, takes⟩ | ⟨-, stays⟩ := statement.propose_cases type
    · have after := ih (placed.typed given)
      obtain ⟨-, -, rfl⟩ := retype_eq_ok.mp given
      rw [proposeAll, takes]
      exact after
    · rw [proposeAll, stays]
      exact ih placed

/-- A text that is placed, and the types that are proposed for it after that. -/
structure Life where
  text : String
  scope : Option Scope
  proposed : List String
  deriving DecidableEq, Repr

namespace Life

def start (life : Life) : Statement := ofText life.text life.scope

def final (life : Life) : Statement := (life.start.proposeAll life.proposed).1

def outcomes (life : Life) : List (Option Failure) := (life.start.proposeAll life.proposed).2

theorem placed (life : Life) : life.final.Placed :=
  (placed_proposeAll (.ofText life.text life.scope) life.proposed).1

/-- What holds of a statement at all times. -/
structure Steady (life : Life) : Prop where
  shape : life.final.Silent ∨ life.final.Valued
  /-- One type is taken at most, and none for a statement without a value. -/
  once : taken life.outcomes ≤ 1
  never : life.start.yieldsNothing = true → taken life.outcomes = 0
  /-- Proposals that fail leave the statement as it is. -/
  unchanged : taken life.outcomes = 0 → life.final = life.start
  refused : ∀ type, (life.final.propose type).2 ≠ none → (life.final.propose type).1 = life.final
  text : life.final.text = life.start.text
  scope : life.final.scope = life.start.scope

/-- **Every statement is steady**, whatever types are proposed for it. -/
theorem steady (life : Life) : life.Steady := by
  obtain ⟨placed, text, scope⟩ := placed_proposeAll (.ofText life.text life.scope) life.proposed
  obtain ⟨once, unchanged⟩ := taken_proposeAll life.start life.proposed
  refine ⟨placed.shape, once, fun nothing => ?_, unchanged, fun type fails => ?_, text, scope⟩
  · exact (proposeAll_of_fixed (.inl nothing) life.proposed).2
  · obtain ⟨final, -, takes⟩ | ⟨-, stays⟩ := life.final.propose_cases type
    · rw [takes] at fails
      exact absurd rfl fails
    · rw [stays]

end Life

end Statement

end SolidityRepl
